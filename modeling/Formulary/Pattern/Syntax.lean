/-
  Patterns as trees, and the tests that a single character is put to.

  Letter case and the meaning of the classes are settled when a pattern is
  read, so each test carries its own: `Fold` says how case is ignored, and a
  class says whether it is confined to ASCII.
-/
import Formulary.Text.Blank
import Formulary.Text.Case
import Formulary.Text.Word

namespace Formulary.Pattern

/-! ## Characters -/

/-- How letter case is ignored. -/
inductive Fold where
  | none
  | ascii
  | unicode
deriving DecidableEq

/-- A class of characters. -/
inductive Kind where
  | digit
  | space
  | word
deriving DecidableEq

/-- Whether a character is of a class. -/
def Kind.mem (kind : Kind) (ascii : Bool) (c : Char) : Bool :=
  match kind, ascii with
  | .digit, true => '0' ≤ c && c ≤ '9'
  | .digit, false => Word.isDecimal c
  | .space, true => c == ' ' || (9 ≤ c.toNat && c.toNat ≤ 13)
  | .space, false => Blank.separator c
  | .word, true => Word.isAscii c
  | .word, false => Word.mem c

/-- A member of a set of characters.  Code points need not be characters. -/
inductive Member where
  | code (n : Nat)
  | range (first last : Nat)
  | kind (k : Kind) (negated ascii : Bool)
deriving DecidableEq

/-- Whether a character is a member, case counting. -/
def Member.mem (c : Char) : Member → Bool
  | .code n => c.toNat == n
  | .range first last => first ≤ c.toNat && c.toNat ≤ last
  | .kind k negated ascii => k.mem ascii c != negated

/-- Whether a code point is a letter whose case can be ignored. -/
def Fold.isCased : Fold → Nat → Bool
  | .none, _ => false
  | .ascii, n => (65 ≤ n && n ≤ 90) || (97 ≤ n && n ≤ 122)
  | .unicode, n => Case.cased.mem n

/-- The small letter of a code point. -/
def Fold.lower : Fold → Nat → Nat
  | .none, n => n
  | .ascii, n => if 65 ≤ n ∧ n ≤ 90 then n + 32 else n
  | .unicode, n => Case.lowerCode n

/-- The small letters that count as one with a small letter, itself first. -/
def Fold.siblings : Fold → Nat → List Nat
  | .unicode, n => n :: Case.variants n
  | _, n => [n]

/-- The code points whose small letter is a given one. -/
def Fold.preimage : Fold → Nat → List Nat
  | .none, n => [n]
  | .ascii, n =>
    if 97 ≤ n ∧ n ≤ 122 then [n, n - 32] else if 65 ≤ n ∧ n ≤ 90 then [] else [n]
  | .unicode, n => if Case.lowerCode n = n then n :: Case.capitals n else Case.capitals n

/-- Whether ignoring case can matter to a member. -/
def Member.isCased (fold : Fold) : Member → Bool
  | .code n => 0x10000 ≤ n || fold.isCased n
  | .range first last =>
    match fold with
    | .none => false
    | .ascii => 0x10000 ≤ last || (first ≤ 90 && 65 ≤ last) || (first ≤ 122 && 97 ≤ last)
    | .unicode =>
      0x10000 ≤ last || Case.cased.any fun (lo, hi) => first ≤ hi && lo ≤ last
  | .kind .. => false

/-- Whether a small letter is that of a member.  Beyond the first plane a code
    point stands for itself alone, a range for all of its letters. -/
def Member.memFolded (fold : Fold) (n : Nat) : Member → Bool
  | .code m =>
    if 0x10000 ≤ m then n == m else (fold.siblings (fold.lower m)).contains n
  | .range first last =>
    (fold.siblings n).any fun m =>
      (fold.preimage m).any fun x => first ≤ x && x ≤ last
  | .kind k negated ascii => k.mem ascii (Char.ofNat n) != negated

/-- A test of one character. -/
inductive Test where
  /-- Any character; line feeds only if asked for. -/
  | any (lineFeeds : Bool)
  /-- One character, or any but it. -/
  | code (n : Nat) (negated : Bool) (fold : Fold)
  /-- A character of a set, or any but those. -/
  | set (members : List Member) (negated : Bool) (fold : Fold)

/-- Whether a character passes a test. -/
def Test.holds (c : Char) : Test → Bool
  | .any lineFeeds => lineFeeds || c != '\n'
  | .code n negated fold =>
    (if fold.isCased n then (fold.siblings (fold.lower n)).contains (fold.lower c.toNat)
     else c.toNat == n) != negated
  | .set members negated fold =>
    (if fold ≠ .none ∧ members.any (·.isCased fold) then
      members.any (·.memFolded fold (fold.lower c.toNat))
     else members.any (·.mem c)) != negated

/-! ## Places -/

/-- A place that a match may be bound to. -/
inductive Anchor where
  | textStart
  | lineStart
  | textEnd
  /-- The end, or before a line feed that ends the text. -/
  | lastLineEnd
  | lineEnd
  | wordBoundary (ascii negated : Bool)
deriving DecidableEq

/-! ## Trees -/

/-- How a repetition chooses its count. -/
inductive Greed where
  | greedy
  | lazy
  /-- As many as possible, and no fewer afterwards. -/
  | possessive
deriving DecidableEq

/-- A pattern. -/
inductive Node where
  | empty
  | char (t : Test)
  | anchor (a : Anchor)
  | seq (first second : Node)
  | alt (first second : Node)
  /-- A group; a numbered one keeps the part that it matched. -/
  | group (index : Option Nat) (body : Node)
  /-- A repetition, without upper limit if there is none. -/
  | loop (least : Nat) (most : Option Nat) (greed : Greed) (body : Node)
  /-- A part that is not tried again once it has matched. -/
  | atomic (body : Node)
  /-- Whether a part matches ahead of a place, or so many characters before. -/
  | look (behind : Option Nat) (negated : Bool) (body : Node)
  /-- The part that a group matched, once more. -/
  | again (index : Nat) (fold : Fold)
  /-- One of two parts, as a group has matched or not. -/
  | whether (index : Nat) (yes no : Node)

/-- Nodes one after the other. -/
def Node.ofList : List Node → Node
  | [] => .empty
  | [n] => n
  | n :: ns => .seq n (ofList ns)

/-- A pattern with the number of its numbered groups. -/
structure Compiled where
  node : Node
  groups : Nat

end Formulary.Pattern
