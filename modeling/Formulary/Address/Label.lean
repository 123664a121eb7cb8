/-
  The labels of domain names in any script.

  A label is composed, does not begin with a combining character or begin or
  end with a hyphen, has no hyphens at its third and fourth place, and holds
  valid characters only; a few more may stand beside certain others.  Letters
  of the two directions do not mix in one label.
-/
import Formulary.Address.Letter
import Formulary.Address.Punycode
import Formulary.Text.Composed

namespace Formulary.Label

/-! ## Characters with conditions -/

def isGreek (n : Nat) : Bool :=
  (0x370 ≤ n && n ≤ 0x3E1 && n != 0x374 && n != 0x37E && n != 0x385 && n != 0x387)
    || (0x3F0 ≤ n && n ≤ 0x3FF) || (0x1F00 ≤ n && n ≤ 0x1FFE) || (0x1D26 ≤ n && n ≤ 0x1D2A)
    || n == 0x2126 || n == 0xAB65

def isHebrew (n : Nat) : Bool :=
  (0x591 ≤ n && n ≤ 0x5C7) || (0x5D0 ≤ n && n ≤ 0x5EA) || (0x5EF ≤ n && n ≤ 0x5F4)
    || (0xFB1D ≤ n && n ≤ 0xFB4F)

/-- Hiragana, Katakana and Han. -/
def isJapanese (n : Nat) : Bool :=
  (0x3041 ≤ n && n ≤ 0x3096) || (0x309D ≤ n && n ≤ 0x309F) || (0x30A1 ≤ n && n ≤ 0x30FA)
    || (0x30FD ≤ n && n ≤ 0x30FF) || (0x31F0 ≤ n && n ≤ 0x31FF) || n == 0x3005 || n == 0x3007
    || (0x3021 ≤ n && n ≤ 0x3029) || (0x3038 ≤ n && n ≤ 0x303B) || (0x2E80 ≤ n && n ≤ 0x2FD5)
    || (0x3400 ≤ n && n ≤ 0x4DBF) || (0x4E00 ≤ n && n ≤ 0x9FFF) || (0xF900 ≤ n && n ≤ 0xFAD9)
    || (0x1B000 ≤ n && n ≤ 0x1B167) || (0x20000 ≤ n && n ≤ 0x3134A)

/-- Whether a character may stand where it does in a label. -/
def allows (label before : List Nat) (n : Nat) (after : List Nat) : Bool :=
  if Letter.valid.mem n then true
  else if n = 0x200C ∨ n = 0x200D then
    -- joiners follow a character that kills a vowel
    (before.head?.map Composed.classOf) == some 9
  else if n = 0xB7 then before.head? == some 0x6C && after.head? == some 0x6C
  else if n = 0x375 then (after.head?.map isGreek) == some true
  else if n = 0x5F3 ∨ n = 0x5F4 then (before.head?.map isHebrew) == some true
  else if n = 0x30FB then label.any fun m => m != 0x30FB && isJapanese m
  else if 0x660 ≤ n ∧ n ≤ 0x669 then !label.any fun m => 0x6F0 ≤ m && m ≤ 0x6F9
  else if 0x6F0 ≤ n ∧ n ≤ 0x6F9 then !label.any fun m => 0x660 ≤ m && m ≤ 0x669
  else false

/-- Whether each character may stand where it does; `before` is reversed. -/
def allAllowed (label before : List Nat) : List Nat → Bool
  | [] => true
  | n :: after => allows label before n after && allAllowed label (n :: before) after

/-! ## Directions -/

open Letter (Direction)

/-- Whether letters of a label are written in one direction only, in a label
    that has any written from right to left. -/
def isDirected (label : List Char) : Bool :=
  let ds := label.map Letter.direction
  let rightward (d : Direction) : Bool := d == .right || d == .arabic
  if !ds.any fun d => rightward d || d == .arabicNumber then true
  else
    let ending := (ds.reverse.dropWhile (· == .mark)).head?
    match ds.head? with
    | none => false
    | some first =>
      if rightward first then
        !ds.contains .left && !(ds.contains .arabicNumber && ds.contains .number)
          && ending.any fun d => rightward d || d == .number || d == .arabicNumber
      else
        first == .left && !ds.any (fun d => rightward d || d == .arabicNumber)
          && ending.any fun d => d == .left || d == .number

/-! ## Labels -/

/-- Whether a text is a label. -/
def isValid (label : List Char) : Bool :=
  let codes := label.map Char.toNat
  !label.isEmpty && Composed.ofText label == label
    && !((label.drop 2).take 2 == ['-', '-'])
    && label.head? != some '-' && label.getLast? != some '-'
    && !label.head?.any Letter.isCombining
    && allAllowed codes [] codes && isDirected label

/-- Whether a text is all ASCII. -/
def isAscii (s : List Char) : Bool := s.all (·.toNat < 128)

/-- What a label of ASCII starts with that stands for one of another script. -/
def mark : List Char := ['x', 'n', '-', '-']

/-- The label that one of ASCII stands for, if it is one. -/
def ofAscii? (s : List Char) : Option (List Char) :=
  let s := s.map Char.toLower
  if s.take 4 = mark then
    let code := s.drop 4
    if code = [] ∨ code.getLast? = some '-' then none
    else do
      let label ← Punycode.decode? code
      if isValid label then some label else none
  else if isValid s then some s
  else none

/-- A label in ASCII, of 63 characters at most. -/
def toAscii? (s : List Char) : Option (List Char) :=
  let ascii :=
    if isAscii s then (ofAscii? s).map fun _ => s
    else if isValid s then some (mark ++ Punycode.encode s)
    else none
  ascii.filter (·.length ≤ 63)

end Formulary.Label
