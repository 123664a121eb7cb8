/-
  Punycode: labels of any script in the letters, digits and hyphens of ASCII.

  The ASCII characters of a label come first, then a hyphen, then the others:
  each as the number of steps from the one before, counting every place for
  every code point, in digits whose thresholds follow a running bias.
-/
import Formulary.Number.Reading

namespace Formulary.Punycode

/-- The bias after a step of a label of so many characters. -/
def adapt (delta count : Nat) (first : Bool) : Nat :=
  let delta := if first then delta / 700 else delta / 2
  shrink 30 (delta + delta / count) 0
where
  /-- Divides until the rest is small, adding 36 for each division. -/
  shrink : Nat → Nat → Nat → Nat
    | 0, delta, k => k + 36 * delta / (delta + 38)
    | fuel + 1, delta, k =>
      if 455 < delta then shrink fuel (delta / 35) (k + 36) else k + 36 * delta / (delta + 38)

/-- The threshold of the digit at a position. -/
def threshold (k bias : Nat) : Nat :=
  if k ≤ bias + 1 then 1 else if bias + 26 ≤ k then 26 else k - bias

/-- The value of a digit. -/
def digit? (c : Char) : Option Nat :=
  if 'a' ≤ c ∧ c ≤ 'z' then some (c.toNat - 'a'.toNat)
  else if 'A' ≤ c ∧ c ≤ 'Z' then some (c.toNat - 'A'.toNat)
  else if Reading.isDigit c then some (Reading.digit c + 26)
  else none

/-- The digit of a value. -/
def ofDigit (n : Nat) : Char :=
  if n < 26 then Char.ofNat ('a'.toNat + n) else Char.ofNat ('0'.toNat + (n - 26))

/-! ## Reading -/

/-- The number that a text starts with, and the rest. -/
def number? (bias : Nat) : List Char → Nat → Nat → Nat → Option (Nat × List Char)
  | [], _, _, _ => none
  | c :: rest, k, weight, acc => do
    let d ← digit? c
    let t := threshold k bias
    let acc := acc + d * weight
    if d < t then some (acc, rest) else number? bias rest (k + 36) (weight * (36 - t)) acc

/-- Puts further characters into a label, one for each number of a text. -/
def fill (fuel : Nat) (label : List Nat) (code place bias : Nat) (first : Bool)
    (s : List Char) : Option (List Nat) :=
  match fuel, s with
  | _, [] => some label
  | 0, _ => none
  | fuel + 1, s =>
    match number? bias s 36 1 0 with
    | none => none
    | some (delta, rest) =>
      let count := label.length + 1
      let index := (place + delta) % count
      let code := code + (place + delta) / count
      if 0x10FFFF < code then none
      else
        fill fuel (label.take index ++ code :: label.drop index) code (index + 1)
          (adapt delta count first) false rest

/-- The label that a text stands for. -/
def decode? (s : List Char) : Option (List Char) := do
  let tail := (s.reverse.takeWhile (· ≠ '-')).reverse
  let plain := s.take (s.length - tail.length - 1)
  let codes ← fill tail.length (plain.map Char.toNat) 128 0 72 true tail
  codes.mapM fun n =>
    if h : n.isValidChar then some (Char.ofNatAux n h) else none

/-! ## Writing -/

/-- The digits of a number. -/
def digits (bias : Nat) : Nat → Nat → Nat → List Char
  | 0, _, _ => []
  | fuel + 1, k, n =>
    let t := threshold k bias
    if n < t then [ofDigit n]
    else ofDigit (t + (n - t) % (36 - t)) :: digits bias fuel (k + 36) ((n - t) / (36 - t))

/-- The numbers for one code point at all its places, with the state after it:
    the steps since the last one, the bias, and the characters written. -/
def places (code : Nat) : List Nat → Nat → Nat → Nat → Bool → List Char × Nat × Nat × Nat × Bool
  | [], delta, bias, count, first => ([], delta, bias, count, first)
  | n :: rest, delta, bias, count, first =>
    if n < code then places code rest (delta + 1) bias count first
    else if n = code then
      let ds := digits bias 40 36 delta
      let (more, state) := places code rest 0 (adapt delta (count + 1) first) (count + 1) false
      (ds ++ more, state)
    else places code rest delta bias count first

/-- The numbers for code points in ascending order, from `code` on. -/
def encodeFrom (label : List Nat) : List Nat → Nat → Nat → Nat → Nat → Bool → List Char
  | [], _, _, _, _, _ => []
  | next :: rest, code, delta, bias, count, first =>
    let delta := delta + (next - code) * (count + 1)
    let (ds, delta, bias, count, first) := places next label delta bias count first
    ds ++ encodeFrom label rest (next + 1) (delta + 1) bias count first

/-- The text that stands for a label. -/
def encode (s : List Char) : List Char :=
  let codes := s.map Char.toNat
  let plain := s.filter (·.toNat < 128)
  let others := ((codes.filter (128 ≤ ·)).mergeSort (· ≤ ·)).eraseDups
  (if plain.isEmpty then [] else plain ++ ['-'])
    ++ encodeFrom codes others 128 0 72 plain.length true

end Formulary.Punycode
