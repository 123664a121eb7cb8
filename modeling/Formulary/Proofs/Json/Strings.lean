/-
  Strings that are written are read back.

  * `codeUnits` are the code units that a character is read as: the number of
    its own, or two surrogates where it is written by its code;
  * `units_char`: what is read of a character that is written;
  * `charsOfUnits?_append`: the characters that code units are put together to;
  * `string_write`: a string is read as it was.
-/
import Formulary.Json.Reader
import Formulary.Json.Writer
import Mathlib.Tactic.SplitIfs

namespace Formulary.Json

/-- Whether all characters are written by their codes that cannot stand in a
    string. -/
def Style.CodesControls (style : Style) : Prop := ∀ c : Char, c.toNat < 0x20 → style.coded c = true

/-! ## Code units -/

theorem hexDigit?_hexChar : ∀ n < 16, hexDigit? (hexChar n) = some n := by decide

/-- Four hexadecimal digits stand for the number that they are made of. -/
theorem hex4?_codeEscape {n : Nat} (h : n < 0x10000) :
    hex4? (hexChar (n / 4096 % 16)) (hexChar (n / 256 % 16)) (hexChar (n / 16 % 16))
      (hexChar (n % 16)) = some n := by
  simp only [hex4?, hexDigit?_hexChar _ (Nat.mod_lt _ (by decide : 16 > 0)), Option.pure_def,
    Option.bind_eq_bind, Option.bind_some, Option.some.injEq]
  omega

/-- The code units that a character is read as. -/
def codeUnits (coded : Bool) (c : Char) : List Nat :=
  if coded && decide (0x10000 ≤ c.toNat) then
    [0xD800 + (c.toNat - 0x10000) / 1024, 0xDC00 + (c.toNat - 0x10000) % 1024]
  else [c.toNat]

section
variable {start tail : List Char} {acc : List Nat} {n : Nat} {c : Char}

theorem units_codeEscape (h : n < 0x10000) (ht : tail ≠ []) :
    units start acc (codeEscape n ++ tail) = units start (n :: acc) tail := by
  cases tail with
  | nil => exact absurd rfl ht
  | cons e tail =>
    simp only [codeEscape, List.cons_append, List.nil_append]
    rw [units]
    simp only [hex4?_codeEscape h]

theorem units_plain (hq : c ≠ '"') (hb : c ≠ '\\') (hc : 0x20 ≤ c.toNat) :
    units start acc (c :: tail) = units start (c.toNat :: acc) tail := by
  rw [units]
  · rw [if_neg (Nat.not_lt.2 hc)]
  · exact hq
  · exact hb

theorem units_escaped (hu : c ≠ 'u') (h : escaped? c = some n) :
    units start acc ('\\' :: c :: tail) = units start (n :: acc) tail := by
  rw [units]
  · simp only [h]
  all_goals simp [hu]

theorem units_codeEscapes (ht : tail ≠ []) : units start acc (codeEscapes c ++ tail) =
    units start ((codeUnits true c).reverse ++ acc) tail := by
  have hv : c.toNat < 0xD800 ∨ 0xDFFF < c.toNat ∧ c.toNat < 0x110000 := c.valid
  unfold codeEscapes codeUnits
  dsimp only
  by_cases h : c.toNat < 0x10000
  · rw [if_pos h, units_codeEscape h ht, if_neg (by simpa using h)]
    rfl
  · rw [if_neg h, List.append_assoc, units_codeEscape (by omega) (by simp [codeEscape]),
      units_codeEscape (by omega) ht, if_pos (by simpa using h)]
    rfl

/-- **What is read of a character** that is written in a style. -/
theorem units_char {style : Style} (hs : style.CodesControls) (c : Char) :
    ∃ coded, ∀ {start tail : List Char} {acc : List Nat}, tail ≠ [] →
      units start acc (style.char c ++ tail) =
        units start ((codeUnits coded c).reverse ++ acc) tail := by
  unfold Style.char
  split_ifs with hq hb hn hr ht hbs hff hc
  -- a backslash and a letter
  iterate 7
    · subst_vars
      exact ⟨false, fun _ => units_escaped (by decide) rfl⟩
  · exact ⟨true, fun h => units_codeEscapes h⟩
  · have hlow : 0x20 ≤ c.toNat := Nat.not_lt.1 fun h => hc (hs c h)
    exact ⟨false, fun _ => units_plain hq hb hlow⟩

/-! ## Characters -/

theorem charOf?_toNat (c : Char) : charsOfUnits?.charOf? c.toNat = some c := by
  have hv : c.toNat < 0xD800 ∨ 0xDFFF < c.toNat ∧ c.toNat < 0x110000 := c.valid
  unfold charsOfUnits?.charOf? isHighSurrogate isLowSurrogate
  rw [if_neg (by simp; omega), Char.ofNat_toNat]

/-- **The units of a character are put together to it**, whatever comes after. -/
theorem charsOfUnits?_append (coded : Bool) (c : Char) (us : List Nat) :
    charsOfUnits? (codeUnits coded c ++ us) = (charsOfUnits? us).map (c :: ·) := by
  have hv : c.toNat < 0xD800 ∨ 0xDFFF < c.toNat ∧ c.toNat < 0x110000 := c.valid
  unfold codeUnits
  split
  · rename_i h
    obtain ⟨-, h⟩ := Bool.and_eq_true_iff.1 h
    have h := of_decide_eq_true h
    have hn : 0x10000 + (0xD800 + (c.toNat - 0x10000) / 1024 - 0xD800) * 1024 +
        (0xDC00 + (c.toNat - 0x10000) % 1024 - 0xDC00) = c.toNat := by omega
    rw [List.cons_append, List.singleton_append, charsOfUnits?, if_pos, hn, Char.ofNat_toNat]
    simp [isHighSurrogate, isLowSurrogate]
    omega
  · rw [List.singleton_append]
    cases us with
    | nil => rw [charsOfUnits?, charsOfUnits?, charOf?_toNat]; rfl
    | cons u us =>
      rw [charsOfUnits?, if_neg, charOf?_toNat]
      · rfl
      · simp [isHighSurrogate]
        omega

/-! ## Strings -/

theorem units_flatMap {style : Style} (hs : style.CodesControls) (cs : List Char) :
    ∃ us, charsOfUnits? us = some cs ∧ ∀ {start rest : List Char} {acc : List Nat},
      units start acc (cs.flatMap style.char ++ '"' :: rest) = .ok (us.reverse ++ acc, rest) := by
  induction cs with
  | nil =>
    refine ⟨[], rfl, ?_⟩
    intro start rest acc
    rw [List.flatMap_nil, List.nil_append, units]
    rfl
  | cons c cs ih =>
    obtain ⟨us, hus, h⟩ := ih
    obtain ⟨coded, hc⟩ := units_char hs c
    refine ⟨codeUnits coded c ++ us, by rw [charsOfUnits?_append, hus]; rfl, ?_⟩
    intro start rest acc
    rw [List.flatMap_cons, List.append_assoc, hc (by simp), h, List.reverse_append,
      List.append_assoc]

/-- **A string is read as it was written.** -/
theorem string_write {style : Style} (hs : style.CodesControls) (s : String) (rest : List Char) :
    string (s.toList.flatMap style.char ++ '"' :: rest) = .ok (s, rest) := by
  obtain ⟨us, hus, h⟩ := units_flatMap hs s.toList
  rw [string, h]
  simp [bind, Except.bind, pure, Except.pure, hus]

end
end Formulary.Json
