/-
  The arguments of the command line.

  Options may be shortened as long as one option is meant, and an argument may
  follow its option after an equals sign.  Words are sorted into options and
  others before any of them is obeyed; then they are obeyed from left to right.

  * `Arguments.parse` reads the words of a command line.
-/
import Formulary.Settings

namespace Formulary

/-- What is asked for on the command line. -/
structure Arguments where
  transport : Value
  host : Value
  port : Value
  strict : Value
deriving DecidableEq

namespace Arguments

/-- The arguments by name. -/
def entries (a : Arguments) : Entries :=
  [("transport", a.transport), ("host", a.host), ("port", a.port), ("strict", a.strict)]

/-- The arguments of an empty command line. -/
def ofSettings (s : Settings) : Arguments where
  transport := s.transport
  host := .text "0.0.0.0"
  port := s.port
  strict := s.strictCompile

/-- Why there are no arguments. -/
inductive Exit where
  /-- Help was asked for. -/
  | help
  /-- The words make no sense. -/
  | misuse
deriving DecidableEq

/-- The status that the program ends with. -/
def Exit.code : Exit → Nat
  | .help => 0
  | .misuse => 2

/-! ## Options -/

/-- An option. -/
inductive Flag where
  | help
  | transport
  | host
  | port
  | strict
deriving DecidableEq

/-- Whether an option takes an argument. -/
def Flag.takesArgument : Flag → Bool
  | .help | .strict => false
  | _ => true

/-- The options by their full spellings. -/
def spellings : List (String × Flag) :=
  [("-h", .help), ("--help", .help), ("--transport", .transport), ("--host", .host),
    ("--port", .port), ("--strict", .strict)]

/-- A word of the command line. -/
inductive Word where
  /-- An option, with the argument that follows an equals sign in the word. -/
  | option (flag : Flag) (argument : Option String)
  /-- The short option for help, with the letters that follow it in the word. -/
  | letters (rest : List Char)
  /-- A word like an option that is none. -/
  | unknown
  /-- Two hyphens, after which no word is an option. -/
  | hyphens
  | plain (s : String)
deriving DecidableEq

/-- A text cut at the first equals sign, if it has one. -/
def cut? (s : String) : Option (String × String) :=
  let cs := s.toList
  match cs.dropWhile (· ≠ '=') with
  | [] => none
  | _ :: rest => some (String.ofList (cs.takeWhile (· ≠ '=')), String.ofList rest)

/-- The options that a shortened spelling may mean. -/
def candidates (s : String) : List Word :=
  match s.toList with
  | '-' :: '-' :: _ =>
    let (start, argument) := match cut? s with
      | some (start, argument) => (start, some argument)
      | none => (s, none)
    (spellings.filter fun o => start.toList.isPrefixOf o.1.toList).map fun o =>
      .option o.2 argument
  | '-' :: 'h' :: rest => [.letters rest]
  | _ => []

/-- Whether a text is a negative number: a hyphen and digits, which may have a
    point before the last of them.  A line feed may follow. -/
def isNegative (s : String) : Bool :=
  let cs := s.toList
  let cs := if cs.getLast? = some '\n' then cs.dropLast else cs
  match cs with
  | '-' :: rest =>
    let whole := rest.takeWhile Word.isDecimal
    match rest.dropWhile Word.isDecimal with
    | [] => !whole.isEmpty
    | '.' :: places => !places.isEmpty && places.all Word.isDecimal
    | _ => false
  | _ => false

/-- What a word is, unless it is short for several options. -/
def classify (s : String) : Except Exit Word :=
  if s.toList.head? ≠ some '-' then .ok (.plain s)
  else
    match spellings.lookup s with
    | some flag => .ok (.option flag none)
    | none =>
      if s = "-" then .ok (.plain s)
      else
        match (cut? s).bind fun (start, argument) =>
            (spellings.lookup start).map fun flag => .option flag (some argument) with
        | some w => .ok w
        | none =>
          match candidates s with
          | [w] => .ok w
          | _ :: _ => .error .misuse
          | [] => .ok (if isNegative s || s.toList.contains ' ' then .plain s else .unknown)

/-- What the words of a command line are. -/
def classifyAll : List String → Except Exit (List Word)
  | [] => .ok []
  | s :: rest =>
    if s = "--" then .ok (.hyphens :: rest.map .plain)
    else do return (← classify s) :: (← classifyAll rest)

/-! ## Obeying -/

/-- A whole number as an argument. -/
def whole (s : String) : Except Exit Value :=
  match WholeNumber.read s with
  | .ok n => .ok (.int n)
  | .error _ => .error .misuse

/-- The transports to choose from. -/
def transports : List String := ["stdio", "sse"]

/-- The value of an option's argument. -/
def value (flag : Flag) (s : String) : Except Exit Value :=
  match flag with
  | .port => whole s
  | .transport => if transports.contains s then .ok (.text s) else .error .misuse
  | _ => .ok (.text s)

/-- Obeys an option with its argument. -/
def obey (a : Arguments) (flag : Flag) (v : Value) : Arguments :=
  match flag with
  | .help => a
  | .transport => { a with transport := v }
  | .host => { a with host := v }
  | .port => { a with port := v }
  | .strict => { a with strict := .bool true }

/-- Obeys an option that takes no argument. -/
def obeyAlone (a : Arguments) (flag : Flag) (argument : Option String) : Except Exit Arguments :=
  match argument with
  | none => if flag = .help then .error .help else .ok (obey a flag .null)
  | some _ => .error .misuse

/-- What comes of letters after the short option for help: more help, unless a
    hyphen or an equals sign is among them where a letter should be. -/
def obeyLetters : List Char → Exit
  | '-' :: _ => .misuse
  | 'h' :: '=' :: _ => .misuse
  | 'h' :: c :: rest => obeyLetters (c :: rest)
  | _ => .help

/-- Obeys words from left to right; `stray` if one was met that means nothing. -/
def obeyAll (a : Arguments) (stray : Bool) : List Word → Except Exit Arguments
  | [] => if stray then .error .misuse else .ok a
  | .letters cs :: _ => .error (obeyLetters cs)
  | .option flag argument :: rest =>
    if flag.takesArgument then
      match argument, rest with
      | some s, rest => do obeyAll (obey a flag (← value flag s)) stray rest
      | none, .plain s :: rest => do obeyAll (obey a flag (← value flag s)) stray rest
      | none, _ => .error .misuse
    else do obeyAll (← obeyAlone a flag argument) stray rest
  | _ :: rest => obeyAll a true rest

/-- A port that is a text by default is read as one that is given. -/
def readPort (a : Arguments) : Except Exit Arguments :=
  match a.port with
  | .text s => do return { a with port := ← whole s }
  | _ => .ok a

/-- The arguments of a command line. -/
def parse (settings : Settings) (words : List String) : Except Exit Arguments := do
  let a ← obeyAll (ofSettings settings) false (← classifyAll words)
  readPort a

/-! ## Running -/

/-- What is told before the service runs. -/
def banner (a : Arguments) : String :=
  let place := if a.transport = .text "sse" then
      " on " ++ a.host.display ++ ":" ++ a.port.display
    else ""
  "form-engine MCP server: " ++ a.transport.display ++ place ++ ", strict=" ++ a.strict.display

/-- What is wrong with a transport, if anything. -/
def transportProblem? (a : Arguments) : Option String :=
  if transports.any fun t => a.transport = .text t then none
  else some ("Unknown transport: " ++ a.transport.display ++ ". Use 'stdio' or 'sse'.")

end Arguments
end Formulary
