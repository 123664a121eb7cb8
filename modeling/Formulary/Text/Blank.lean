/-
  The two sets of blank characters that texts are trimmed of.

  `Blank.space` is Unicode's property White_Space.  `Blank.separator` adds the
  four information separators `U+001C` to `U+001F`, which end words and lines
  in plain text though the property leaves them out.
-/
namespace Formulary.Blank

/-- Whether a character has the property White_Space. -/
def space (c : Char) : Bool :=
  let n := c.toNat
  (9 ≤ n && n ≤ 13) || n == 0x20 || n == 0x85 || n == 0xA0 || n == 0x1680
    || (0x2000 ≤ n && n ≤ 0x200A) || n == 0x2028 || n == 0x2029 || n == 0x202F
    || n == 0x205F || n == 0x3000

/-- Whether a character separates words, lines or records in plain text. -/
def separator (c : Char) : Bool :=
  space c || (0x1C ≤ c.toNat && c.toNat ≤ 0x1F)

/-- A text without the characters of a class at either end. -/
def trimBy (blank : Char → Bool) (s : List Char) : List Char :=
  ((s.dropWhile blank).reverse.dropWhile blank).reverse

end Formulary.Blank
