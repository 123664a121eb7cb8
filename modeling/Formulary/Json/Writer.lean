/-
  Writing values as JSON text.

  A `Style` holds what differs between the texts this library writes: which
  characters are escaped, how doubles look, and how the parts are set apart.
  `Style.ascii` escapes all but printable ASCII, `Style.unicode` only what
  JSON demands.  Dates are written as strings.
-/
import Formulary.Value

namespace Formulary.Json

/-- The decisions of one JSON text. -/
structure Style where
  /-- Whether a character is written by its code. -/
  coded : Char → Bool
  /-- The layout of doubles. -/
  doubles : Layout
  /-- The indentation of a level, if each item stands on a line of its own. -/
  indent : Option Nat
  /-- What stands between two items on one line. -/
  comma : List Char
  /-- What stands between a key and its value. -/
  colon : List Char

namespace Style

/-- Printable ASCII on one line, a blank after each comma and colon. -/
def ascii : Style where
  coded c := c.toNat < 0x20 || 0x7E < c.toNat
  doubles := .literal
  indent := none
  comma := [',', ' ']
  colon := [':', ' ']

/-- Printable ASCII, each item on a line of its own. -/
def asciiLines : Style := { ascii with indent := some 2 }

/-- Any characters on one line without blanks. -/
def unicode : Style where
  coded c := c.toNat < 0x20
  doubles := .compact
  indent := none
  comma := [',']
  colon := [':']

/-- Any characters, each item on a line of its own. -/
def unicodeLines : Style := { unicode with indent := some 2, colon := [':', ' '] }

end Style

/-! ## Strings -/

/-- A hexadecimal digit. -/
def hexChar (n : Nat) : Char :=
  if n < 10 then Char.ofNat ('0'.toNat + n) else Char.ofNat ('a'.toNat + (n - 10))

/-- The escape of a code unit. -/
def codeEscape (n : Nat) : List Char :=
  ['\\', 'u', hexChar (n / 4096 % 16), hexChar (n / 256 % 16), hexChar (n / 16 % 16),
    hexChar (n % 16)]

/-- The escapes of a character: one, or two surrogates beyond the first plane. -/
def codeEscapes (c : Char) : List Char :=
  let n := c.toNat
  if n < 0x10000 then codeEscape n
  else
    codeEscape (0xD800 + (n - 0x10000) / 1024) ++ codeEscape (0xDC00 + (n - 0x10000) % 1024)

/-- A character inside a string. -/
def Style.char (style : Style) (c : Char) : List Char :=
  if c = '"' then ['\\', '"']
  else if c = '\\' then ['\\', '\\']
  else if c = '\n' then ['\\', 'n']
  else if c = '\r' then ['\\', 'r']
  else if c = '\t' then ['\\', 't']
  else if c = '\x08' then ['\\', 'b']
  else if c = '\x0c' then ['\\', 'f']
  else if style.coded c then codeEscapes c
  else [c]

/-- A quoted string. -/
def Style.string (style : Style) (s : String) : List Char :=
  '"' :: s.toList.flatMap style.char ++ ['"']

/-! ## Values -/

/-- The break before an item at a depth. -/
def Style.break (style : Style) (depth : Nat) : List Char :=
  match style.indent with
  | none => []
  | some n => '\n' :: List.replicate (n * depth) ' '

/-- What stands between two items at a depth. -/
def Style.separator (style : Style) (depth : Nat) : List Char :=
  match style.indent with
  | none => style.comma
  | some _ => ',' :: style.break depth

mutual

/-- A value at a depth. -/
def Style.value (style : Style) (depth : Nat) : Value → List Char
  | .null => "null".toList
  | .bool true => "true".toList
  | .bool false => "false".toList
  | .number n => (n.write style.doubles).toList
  | .text s => style.string s
  | .date d => style.string d.write
  | .list [] => ['[', ']']
  | .list (v :: vs) =>
    '[' :: style.break (depth + 1) ++ style.value (depth + 1) v
      ++ style.items (depth + 1) vs ++ style.break depth ++ [']']
  | .record [] => ['\x7b', '\x7d']
  | .record ((key, v) :: es) =>
    '\x7b' :: style.break (depth + 1) ++ style.string key ++ style.colon
      ++ style.value (depth + 1) v ++ style.entries (depth + 1) es ++ style.break depth ++ ['\x7d']

/-- The items of an array after its first. -/
def Style.items (style : Style) (depth : Nat) : List Value → List Char
  | [] => []
  | v :: vs => style.separator depth ++ style.value depth v ++ style.items depth vs

/-- The entries of an object after its first. -/
def Style.entries (style : Style) (depth : Nat) : List (String × Value) → List Char
  | [] => []
  | (key, v) :: es =>
    style.separator depth ++ style.string key ++ style.colon ++ style.value depth v
      ++ style.entries depth es

end

/-- A value as text. -/
def write (style : Style) (v : Value) : String := String.ofList (style.value 0 v)

/-! ## Values that cannot be written -/

/-- What stops a value from being written digit for digit and kind for kind. -/
inductive Obstacle where
  /-- An integer of more than 4300 digits. -/
  | integerTooLong
  /-- A date, where only JSON's own kinds are written. -/
  | date
  /-- A list or a record inside too many others. -/
  | nestedTooDeep
deriving DecidableEq

mutual

/-- The first obstacle in a value for which there is room, if any; dates are one
    unless allowed. -/
def obstacleWithin? (dates : Bool) (room : Nat) : Value → Option Obstacle
  | .number (.whole n) => if tooLong n then some .integerTooLong else none
  | .date _ => if dates then none else some .date
  | .list vs =>
    match room with
    | 0 => some .nestedTooDeep
    | room + 1 => obstacleItems? dates room vs
  | .record es =>
    match room with
    | 0 => some .nestedTooDeep
    | room + 1 => obstacleEntries? dates room es
  | _ => none

def obstacleItems? (dates : Bool) (room : Nat) : List Value → Option Obstacle
  | [] => none
  | v :: vs => (obstacleWithin? dates room v).or (obstacleItems? dates room vs)

def obstacleEntries? (dates : Bool) (room : Nat) : List (String × Value) → Option Obstacle
  | [] => none
  | (_, v) :: es => (obstacleWithin? dates room v).or (obstacleEntries? dates room es)

end

/-- The first obstacle in a value, if any. -/
def obstacle? (dates : Bool) (v : Value) : Option Obstacle :=
  obstacleWithin? dates Value.maxNesting v

end Formulary.Json
