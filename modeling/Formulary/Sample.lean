/-
  Forms to start from: one to log in, one to register and one to write a
  message.
-/
import Formulary.Field

namespace Formulary.Sample

/-- A rule without argument. -/
def rule (kind : RuleKind) (message : String) : Rule := ⟨kind, .null, message⟩

/-- A rule with a whole number. -/
def ruleOf (kind : RuleKind) (n : Nat) (message : String) : Rule := ⟨kind, .int n, message⟩

/-- Choices of texts. -/
def choices (cs : List (String × String)) : Option (List Choice) :=
  some (cs.map fun (label, value) => ⟨label, .text value⟩)

def email : Field where
  name := "email"
  label := "Email"
  type := .declared .email
  placeholder := "Enter your email"
  rules := [rule .required "Email is required", rule .email "Please enter a valid email"]

/-- A field for a password of eight characters at least. -/
def password (placeholder : String) : Field where
  name := "password"
  label := "Password"
  type := .declared .password
  placeholder := placeholder
  rules := [rule .required "Password is required",
    ruleOf .minLength 8 "Password must be at least 8 characters"]

/-- A field for a name that has to be given. -/
def text (name label placeholder message : String) : Field where
  name := name
  label := label
  type := .declared .text
  placeholder := placeholder
  rules := [rule .required message]

def login : Form where
  title := "Login"
  submitText := "Log In"
  fields := [
    email,
    password "Enter your password",
    { name := "rememberMe"
      label := "Remember Me"
      type := .declared .checkbox
      placeholder := "Remember me on this device"
      default := .bool false }]

def registration : Form where
  title := "Create an Account"
  submitText := "Register"
  fields := [
    text "firstName" "First Name" "Enter your first name" "First name is required",
    text "lastName" "Last Name" "Enter your last name" "Last name is required",
    email,
    password "Create a password",
    { name := "confirmPassword"
      label := "Confirm Password"
      type := .declared .password
      placeholder := "Confirm your password"
      rules := [rule .required "Please confirm your password"] },
    { name := "userType"
      label := "User Type"
      type := .declared .select
      placeholder := "Select user type"
      choices := choices
        [("Personal", "personal"), ("Business", "business"), ("Education", "education")]
      rules := [rule .required "Please select a user type"] },
    { name := "agreeToTerms"
      label := "Terms and Conditions"
      type := .declared .checkbox
      placeholder := "I agree to the terms and conditions"
      rules := [rule .required "You must agree to the terms and conditions"]
      default := .bool false }]

def contact : Form where
  title := "Contact Us"
  submitText := "Send Message"
  fields := [
    text "name" "Full Name" "Enter your full name" "Name is required",
    email,
    { name := "subject"
      label := "Subject"
      type := .declared .select
      choices := choices
        [("General Inquiry", "general"), ("Technical Support", "support"),
          ("Billing Question", "billing"), ("Feature Request", "feature")]
      rules := [rule .required "Please select a subject"] },
    { name := "message"
      label := "Message"
      type := .declared .textarea
      placeholder := "Enter your message"
      rules := [rule .required "Message is required",
        ruleOf .minLength 10 "Message must be at least 10 characters"] },
    { name := "priority"
      label := "Priority"
      type := .declared .radio
      choices := choices [("Low", "low"), ("Medium", "medium"), ("High", "high")]
      rules := [rule .required "Please select a priority"] }]

/-- The forms by name. -/
def all : List (String × Form) :=
  [("login", login), ("registration", registration), ("contact", contact)]

end Formulary.Sample
