/-
  Values as plain text, the way messages and choices show them.

  A text shows as itself, and quoted inside a list or a record.  A quoted text
  stands in single quotes unless it holds one and no double quote; its quote,
  the backslash and every character that is not printable are escaped.

  A value is shown however deeply it is nested.  That no limit is met there is an
  assumption; `Value.maxNesting` is one for JSON only.
-/
import Formulary.Value
import Formulary.Text.Printable

namespace Formulary

namespace Quoted

/-- The quote that a text is put in. -/
def quoteOf (s : List Char) : Char :=
  if s.contains '\'' && !s.contains '"' then '"' else '\''

/-- A hexadecimal number of a fixed width. -/
def hex (width n : Nat) : List Char :=
  let digits := Nat.toDigits 16 n
  List.replicate (width - digits.length) '0' ++ digits

/-- A character between quotes. -/
def char (quote c : Char) : List Char :=
  if c = quote ∨ c = '\\' then ['\\', c]
  else if c = '\n' then ['\\', 'n']
  else if c = '\r' then ['\\', 'r']
  else if c = '\t' then ['\\', 't']
  else if Printable.mem c then [c]
  else if c.toNat < 0x100 then '\\' :: 'x' :: hex 2 c.toNat
  else if c.toNat < 0x10000 then '\\' :: 'u' :: hex 4 c.toNat
  else '\\' :: 'U' :: hex 8 c.toNat

/-- A text in quotes. -/
def text (s : String) : String :=
  let quote := quoteOf s.toList
  String.ofList (quote :: s.toList.flatMap (char quote) ++ [quote])

/-- Words with a comma between each two. -/
def commas (ws : List String) : String := ", ".intercalate ws

end Quoted

namespace Value

mutual

/-- A value with its texts quoted. -/
def quoted : Value → String
  | .null => "None"
  | .bool true => "True"
  | .bool false => "False"
  | .number n => n.write .plain
  | .text s => Quoted.text s
  | .date d =>
    "datetime.date(" ++ writeInt d.year ++ ", " ++ writeInt d.month ++ ", " ++ writeInt d.day ++ ")"
  | .list items => "[" ++ Quoted.commas (quotedItems items) ++ "]"
  | .record entries => "\x7b" ++ Quoted.commas (quotedEntries entries) ++ "\x7d"

def quotedItems : List Value → List String
  | [] => []
  | v :: vs => quoted v :: quotedItems vs

def quotedEntries : List (String × Value) → List String
  | [] => []
  | (key, v) :: es => (Quoted.text key ++ ": " ++ quoted v) :: quotedEntries es

end

/-- A value as it shows: a text as itself, a date by its digits. -/
def display : Value → String
  | .text s => s
  | .date d => d.write
  | v => v.quoted

mutual

/-- Whether an integer too long to be written stands anywhere in a value. -/
def hasLongInt : Value → Bool
  | .number (.whole n) => tooLong n
  | .list items => hasLongIntItems items
  | .record entries => hasLongIntEntries entries
  | _ => false

def hasLongIntItems : List Value → Bool
  | [] => false
  | v :: vs => hasLongInt v || hasLongIntItems vs

def hasLongIntEntries : List (String × Value) → Bool
  | [] => false
  | (_, v) :: es => hasLongInt v || hasLongIntEntries es

end

end Value
end Formulary
