/-
  Reading JSON text as a value.

  The grammar is RFC 8259's, with the literals `NaN`, `Infinity` and
  `-Infinity` besides.  A number without point and exponent is an integer of
  any size up to 4300 digits, any other the nearest double.  Of two entries of
  an object under one key the later gives the value and the earlier the place.

  A text that is not JSON is refused with the first problem met from left to
  right and the place of it: a line, a column and an offset in characters.

  Two things that are JSON are refused as well.  Arrays and objects may be
  nested no deeper than `Value.maxNesting`, and a string may not hold half of a
  pair of surrogates, for which a text has no character.

  * `Json.read` reads a whole text;
  * `Json.value` reads one value and leaves the rest.
-/
import Formulary.Value
import Formulary.Number.Reading

namespace Formulary.Json

/-! ## Problems -/

/-- What can be wrong with a text. -/
inductive Problem where
  | byteOrderMark
  | expectedValue
  | expectedComma
  | expectedColon
  | expectedName
  | extraData
  | unterminatedString
  | badEscape
  | badCodeEscape
  | controlCharacter
  /-- An integer of so many digits, which are too many. -/
  | integerTooLong (digits : Nat)
  /-- An array or an object inside too many others. -/
  | nestedTooDeep
  /-- Half of a pair of surrogates. -/
  | loneSurrogate
deriving DecidableEq

/-- A place in a text: lines and columns count from one, offsets from zero. -/
structure Position where
  line : Nat
  column : Nat
  offset : Nat
deriving DecidableEq

/-- The place that a prefix of a text ends at. -/
def Position.after (before : List Char) : Position where
  line := before.count '\n' + 1
  column := (before.reverse.takeWhile (· ≠ '\n')).length + 1
  offset := before.length

/-- A problem and its place. -/
structure Failure where
  problem : Problem
  position : Position
deriving DecidableEq

/-- The wording of a problem. -/
def Problem.message : Problem → String
  | .byteOrderMark => "Unexpected UTF-8 BOM (decode using utf-8-sig)"
  | .expectedValue => "Expecting value"
  | .expectedComma => "Expecting ',' delimiter"
  | .expectedColon => "Expecting ':' delimiter"
  | .expectedName => "Expecting property name enclosed in double quotes"
  | .extraData => "Extra data"
  | .unterminatedString => "Unterminated string starting at"
  | .badEscape => "Invalid \\escape"
  | .badCodeEscape => "Invalid \\uXXXX escape"
  | .controlCharacter => "Invalid control character at"
  | .integerTooLong digits =>
    "Exceeds the limit (4300 digits) for integer string conversion: value has "
      ++ toString digits ++ " digits; use sys.set_int_max_str_digits() to increase the limit"
  | .nestedTooDeep => "Nested too deeply"
  | .loneSurrogate => "Unpaired surrogate"

/-- The wording of a failure.  Only an integer that is too long has no place. -/
def Failure.message (f : Failure) : String :=
  match f.problem with
  | .integerTooLong _ => f.problem.message
  | p => p.message ++ ": line " ++ toString f.position.line ++ " column "
      ++ toString f.position.column ++ " (char " ++ toString f.position.offset ++ ")"

/-- A problem and the rest of the text from its place on.  A step of reading
    ends with one, or with what was read and the rest of the text. -/
abbrev Refusal := Problem × List Char

/-! ## Strings -/

/-- The value of a hexadecimal digit. -/
def hexDigit? (c : Char) : Option Nat :=
  if '0' ≤ c ∧ c ≤ '9' then some (c.toNat - '0'.toNat)
  else if 'a' ≤ c ∧ c ≤ 'f' then some (c.toNat - 'a'.toNat + 10)
  else if 'A' ≤ c ∧ c ≤ 'F' then some (c.toNat - 'A'.toNat + 10)
  else none

/-- The number that four hexadecimal digits stand for. -/
def hex4? (a b c d : Char) : Option Nat := do
  return (← hexDigit? a) * 4096 + (← hexDigit? b) * 256 + (← hexDigit? c) * 16 + (← hexDigit? d)

/-- The character that a letter stands for after a backslash. -/
def escaped? : Char → Option Nat
  | '"' => some 0x22
  | '\\' => some 0x5C
  | '/' => some 0x2F
  | 'b' => some 8
  | 'f' => some 12
  | 'n' => some 10
  | 'r' => some 13
  | 't' => some 9
  | _ => none

/-- The code units of a string up to its closing quote, last first; `start` is
    the text from the opening quote on. -/
def units (start : List Char) (acc : List Nat) : List Char → Except Refusal (List Nat × List Char)
  | [] => .error (.unterminatedString, start)
  | '"' :: rest => .ok (acc, rest)
  | '\\' :: rest =>
    match rest with
    | [] => .error (.unterminatedString, start)
    | 'u' :: a :: b :: c :: d :: e :: tail =>
      match hex4? a b c d with
      | some n => units start (n :: acc) (e :: tail)
      | none => .error (.badCodeEscape, rest)
    | 'u' :: _ => .error (.badCodeEscape, rest)
    | c :: tail =>
      match escaped? c with
      | some n => units start (n :: acc) tail
      | none => .error (.badEscape, '\\' :: rest)
  | c :: rest =>
    if c.toNat < 0x20 then .error (.controlCharacter, c :: rest)
    else units start (c.toNat :: acc) rest

def isHighSurrogate (n : Nat) : Bool := 0xD800 ≤ n && n < 0xDC00

def isLowSurrogate (n : Nat) : Bool := 0xDC00 ≤ n && n < 0xE000

/-- The characters of code units in order, a pair of surrogates making one, if
    there is no surrogate without its other half. -/
def charsOfUnits? : List Nat → Option (List Char)
  | [] => some []
  | [a] => (charOf? a).map ([·])
  | a :: b :: rest =>
    if isHighSurrogate a && isLowSurrogate b then
      (charsOfUnits? rest).map
        (Char.ofNat (0x10000 + (a - 0xD800) * 1024 + (b - 0xDC00)) :: ·)
    else (charOf? a).bind fun c => (charsOfUnits? (b :: rest)).map (c :: ·)
where
  /-- The character of one code unit. -/
  charOf? (n : Nat) : Option Char :=
    if isHighSurrogate n || isLowSurrogate n then none else some (Char.ofNat n)

/-- The rest of a string after its opening quote. -/
def string (afterQuote : List Char) : Except Refusal (String × List Char) := do
  let (us, rest) ← units ('"' :: afterQuote) [] afterQuote
  match charsOfUnits? us.reverse with
  | some cs => return (String.ofList cs, rest)
  | none => throw (.loneSurrogate, '"' :: afterQuote)

/-! ## Numbers -/

/-- The fraction of a number: a point and at least one digit. -/
def fraction (s : List Char) : List Char × List Char :=
  match s with
  | '.' :: rest =>
    let ds := rest.takeWhile Reading.isDigit
    if ds = [] then ([], s) else (ds, rest.dropWhile Reading.isDigit)
  | _ => ([], s)

/-- The exponent of a number: the letter, a sign and at least one digit. -/
def exponent? (s : List Char) : Option (Int × List Char) :=
  let digits (negative : Bool) (rest : List Char) : Option (Int × List Char) :=
    let ds := rest.takeWhile Reading.isDigit
    if ds = [] then none
    else
      let n := Reading.natOfDigits ds
      some (if negative then -(n : Int) else n, rest.dropWhile Reading.isDigit)
  match s with
  | c :: rest =>
    if c = 'e' ∨ c = 'E' then
      match rest with
      | '+' :: rest => digits false rest
      | '-' :: rest => digits true rest
      | _ => digits false rest
    else none
  | [] => none

/-- A number without its sign; `start` is the text from the sign on.  An
    integer has `limit` digits at most. -/
def unsigned (limit : Nat) (start : List Char) (negative : Bool) (s : List Char) :
    Except Refusal (Number × List Char) :=
  let whole := match s with
    | '0' :: _ => ['0']
    | _ => s.takeWhile Reading.isDigit
  let rest := s.drop whole.length
  if whole = [] then .error (.expectedValue, start)
  else
    let (decimals, afterPoint) := fraction rest
    match exponent? afterPoint with
    | some (e, rest) =>
      .ok (.real (.ofDecimal negative (Reading.natOfDigits (whole ++ decimals))
        (e - decimals.length)), rest)
    | none =>
      if decimals = [] then
        if limit < whole.length then
          .error (.integerTooLong whole.length, start)
        else
          let n := Reading.natOfDigits whole
          .ok (.whole (if negative then -(n : Int) else n), rest)
      else
        .ok (.real (.ofDecimal negative (Reading.natOfDigits (whole ++ decimals))
          (-(decimals.length : Int))), afterPoint)

/-- A number, or one of the literals that start like one. -/
def number (limit : Nat) (s : List Char) : Except Refusal (Number × List Char) :=
  match s with
  | '-' :: 'I' :: 'n' :: 'f' :: 'i' :: 'n' :: 'i' :: 't' :: 'y' :: rest =>
    .ok (.real (.infinite true), rest)
  | '-' :: rest => unsigned limit s true rest
  | _ => unsigned limit s false s

/-! ## Values -/

/-- Whether a character is blank between the tokens. -/
def isBlank (c : Char) : Bool := c == ' ' || c == '\t' || c == '\n' || c == '\r'

/-- A text without the blanks it starts with. -/
def skipBlanks (s : List Char) : List Char := s.dropWhile isBlank

mutual

/-- The value that a text starts with, in which arrays and objects are nested no
    deeper than there is room. -/
def value (limit room fuel : Nat) (s : List Char) : Except Refusal (Value × List Char) :=
  match fuel with
  | 0 => .error (.expectedValue, s)
  | fuel + 1 =>
    match s with
    | '"' :: rest => (string rest).map fun (t, rest) => (.text t, rest)
    | 'n' :: 'u' :: 'l' :: 'l' :: rest => .ok (.null, rest)
    | 't' :: 'r' :: 'u' :: 'e' :: rest => .ok (.bool true, rest)
    | 'f' :: 'a' :: 'l' :: 's' :: 'e' :: rest => .ok (.bool false, rest)
    | 'N' :: 'a' :: 'N' :: rest => .ok (.real .nan, rest)
    | 'I' :: 'n' :: 'f' :: 'i' :: 'n' :: 'i' :: 't' :: 'y' :: rest =>
      .ok (.real (.infinite false), rest)
    | '[' :: rest =>
      match room with
      | 0 => .error (.nestedTooDeep, s)
      | room + 1 =>
        match skipBlanks rest with
        | ']' :: rest => .ok (.list [], rest)
        | rest => (items limit room fuel rest).map fun (vs, rest) => (.list vs, rest)
    | '\x7b' :: rest =>
      match room with
      | 0 => .error (.nestedTooDeep, s)
      | room + 1 =>
        match skipBlanks rest with
        | '\x7d' :: rest => .ok (.record [], rest)
        | rest =>
          (entries limit room fuel rest).map fun (es, rest) => (.record (Entries.ofList es), rest)
    | _ => (number limit s).map fun (n, rest) => (.number n, rest)

/-- The items of an array from its first on, and its end. -/
def items (limit room fuel : Nat) (s : List Char) : Except Refusal (List Value × List Char) :=
  match fuel with
  | 0 => .error (.expectedValue, s)
  | fuel + 1 => do
    let (v, rest) ← value limit room fuel s
    match skipBlanks rest with
    | ']' :: rest => .ok ([v], rest)
    | ',' :: rest => do
      let (vs, rest) ← items limit room fuel (skipBlanks rest)
      .ok (v :: vs, rest)
    | rest => .error (.expectedComma, rest)

/-- The entries of an object from its first on, and its end. -/
def entries (limit room fuel : Nat) (s : List Char) :
    Except Refusal (List (String × Value) × List Char) :=
  match fuel with
  | 0 => .error (.expectedName, s)
  | fuel + 1 =>
    match s with
    | '"' :: rest => do
      let (key, rest) ← string rest
      match skipBlanks rest with
      | ':' :: rest => do
        let (v, rest) ← value limit room fuel (skipBlanks rest)
        match skipBlanks rest with
        | '\x7d' :: rest => .ok ([(key, v)], rest)
        | ',' :: rest => do
          let (es, rest) ← entries limit room fuel (skipBlanks rest)
          .ok ((key, v) :: es, rest)
        | rest => .error (.expectedComma, rest)
      | rest => .error (.expectedColon, rest)
    | _ => .error (.expectedName, s)

end

/-- The value of a text that starts after blanks and ends before them.  Every
    call of the reader reads a character or is followed by one that does, so
    twice the length is fuel enough. -/
def document (limit room : Nat) (s : List Char) : Except Refusal Value := do
  match s with
  | c :: _ => if c = '\ufeff' then throw (.byteOrderMark, s)
  | [] => pure ()
  let (v, rest) ← value limit room (2 * s.length + 2) (skipBlanks s)
  match skipBlanks rest with
  | [] => return v
  | rest => throw (.extraData, rest)

/-- The value of a JSON text with integers of `limit` digits at most and arrays
    and objects nested no deeper than `room`. -/
def readWithin (limit room : Nat) (s : String) : Except Failure Value :=
  let cs := s.toList
  (document limit room cs).mapError fun (problem, rest) =>
    ⟨problem, .after (cs.take (cs.length - rest.length))⟩

/-- The value of a JSON text. -/
def read (s : String) : Except Failure Value := readWithin maxIntegerDigits Value.maxNesting s

end Formulary.Json
