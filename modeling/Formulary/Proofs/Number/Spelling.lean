/-
  An integer in digits, with blanks around it, is read as that integer.

  * `Blank.trimBy_between`: trimming a text leaves what stands between its blanks;
  * `Reading.int?_writeInt`: the digits of an integer are read as it, if they are
    not too many;
  * `Spells` are the texts that spell an integer, and `Domain.coerce_of_spells`
    says what they are taken as: no double is in the way.
-/
import Formulary.Domain
import Formulary.Proofs.Number.Digits
import Mathlib.Data.List.TakeWhile

namespace Formulary

/-! ## Blanks -/

namespace Blank
variable {blank : Char → Bool} {before text after : List Char} {c : Char}

theorem dropWhile_append_of_none (hne : text ≠ []) (ht : ∀ c ∈ text, blank c = false) :
    (text ++ after).dropWhile blank = text ++ after := by
  cases text with
  | nil => exact absurd rfl hne
  | cons c text => exact List.dropWhile_cons_of_neg (by simp [ht c List.mem_cons_self])

/-- Trimming a text leaves what stands between its blanks. -/
theorem trimBy_between (hb : ∀ c ∈ before, blank c = true) (ha : ∀ c ∈ after, blank c = true)
    (hne : text ≠ []) (ht : ∀ c ∈ text, blank c = false) :
    trimBy blank (before ++ text ++ after) = text := by
  have front : (before ++ text ++ after).dropWhile blank = text ++ after := by
    rw [List.append_assoc, List.dropWhile_append_of_pos hb, dropWhile_append_of_none hne ht]
  have back : (text ++ after).reverse.dropWhile blank = text.reverse := by
    have rest : (text.reverse ++ []).dropWhile blank = text.reverse ++ [] :=
      dropWhile_append_of_none (by simpa using hne) fun c hc => ht c (List.mem_reverse.1 hc)
    rw [List.append_nil] at rest
    rw [List.reverse_append, List.dropWhile_append_of_pos (by simpa using ha), rest]
  rw [trimBy, front, back, List.reverse_reverse]

theorem trimBy_self (hne : text ≠ []) (ht : ∀ c ∈ text, blank c = false) :
    trimBy blank text = text := by
  have h : trimBy blank ([] ++ text ++ []) = text := trimBy_between (by simp) (by simp) hne ht
  rwa [List.nil_append, List.append_nil] at h

/-- What is no separator is no white space. -/
theorem space_of_separator (h : separator c = false) : space c = false :=
  (Bool.or_eq_false_iff.1 h).1

theorem separator_digit (h : Reading.isDigit c = true) : separator c = false := by
  simp only [Reading.isDigit, Bool.and_eq_true, decide_eq_true_eq, Char.le_def,
    UInt32.le_iff_toNat_le] at h
  obtain ⟨h0, h9⟩ := h
  have h0 : 48 ≤ c.toNat := h0
  have h9 : c.toNat ≤ 57 := h9
  simp [separator, space]
  omega

end Blank

/-! ## Digits -/

namespace Reading
variable {s : List Char} {c d : Char}

theorem ne_of_isDigit (hc : isDigit c = true) (hd : isDigit d = false) : c ≠ d := by
  rintro rfl
  rw [hc] at hd
  cases hd

section
variable (hs : ∀ c ∈ s, isDigit c = true)
include hs

/-- Digits have no fraction. -/
theorem dropZeroFraction_digits : dropZeroFraction s = s := by
  have rest : s.dropWhile (· ≠ '.') = [] := by
    rw [List.dropWhile_eq_nil_iff]
    exact fun c hc => decide_eq_true (ne_of_isDigit (hs c hc) (by decide))
  unfold dropZeroFraction
  rw [rest]
  rfl

theorem hasDouble_digits : hasDouble s = false := by
  induction s with
  | nil => rfl
  | cons c s ih =>
    have hc : c ≠ '_' := ne_of_isDigit (hs c List.mem_cons_self) (by decide)
    rw [hasDouble]
    · exact ih fun d hd => hs d (List.mem_cons_of_mem c hd)
    · rintro _ rfl
      exact absurd rfl hc

/-- Digits have no underscores among them. -/
theorem dropUnderscores?_digits : dropUnderscores? s = some s := by
  have none_is : ∀ c ∈ s, c ≠ '_' := fun c hc => ne_of_isDigit (hs c hc) (by decide)
  have first : s.head? ≠ some '_' := fun h => none_is '_' (List.mem_of_head? h) rfl
  have last : s.getLast? ≠ some '_' := fun h => none_is '_' (List.mem_of_getLast? h) rfl
  have all : s.filter (· ≠ '_') = s := List.filter_eq_self.2 fun c hc => by simpa using none_is c hc
  rw [dropUnderscores?, all, if_neg (by simp [first, last, hasDouble_digits hs])]

end

/-- The digits of a natural have no zeros to drop. -/
theorem dropLeadingZeros?_toDigits (n : Nat) :
    dropLeadingZeros? (Nat.toDigits 10 n) = some (Nat.toDigits 10 n) := by
  by_cases h : n = 0
  · rw [h, Nat.toDigits_zero]
    rfl
  · have head : (Nat.toDigits 10 n).head? ≠ some '0' := head?_toDigits h
    cases hd : Nat.toDigits 10 n with
    | nil => exact absurd hd Nat.toDigits_ne_nil
    | cons c ds =>
      have hc : isDigit c = true := isDigit_toDigits (hd ▸ List.mem_cons_self)
      have hzero : c ≠ '0' := by
        rintro rfl
        exact head (by rw [hd]; rfl)
      rw [dropLeadingZeros?, if_pos hc]
      exact hzero

/-- The digits of a natural are read as it. -/
theorem magnitude?_toDigits (n : Nat) : magnitude? (Nat.toDigits 10 n) = some n := by
  have digits : ∀ c ∈ Nat.toDigits 10 n, isDigit c = true := fun c hc => isDigit_toDigits hc
  have value : nat? (Nat.toDigits 10 n) = some n := by
    rw [nat?, if_pos ⟨Nat.toDigits_ne_nil, List.all_eq_true.2 digits⟩, natOfDigits_toDigits]
  rw [magnitude?, dropLeadingZeros?_toDigits, Option.bind_eq_bind, Option.bind_some,
    dropZeroFraction_digits digits, dropUnderscores?_digits digits]
  exact value

theorem writeInt_ne_nil (n : Int) : (writeInt n).toList ≠ [] := by
  rw [toList_writeInt]
  split
  · exact List.cons_ne_nil _ _
  · exact Nat.toDigits_ne_nil

theorem separator_writeInt {n : Int} (hc : c ∈ (writeInt n).toList) : Blank.separator c = false := by
  have digit : c ∈ Nat.toDigits 10 n.natAbs → Blank.separator c = false :=
    fun h => Blank.separator_digit (isDigit_toDigits h)
  rw [toList_writeInt] at hc
  split at hc
  · rcases List.mem_cons.1 hc with rfl | hc
    · decide
    · exact digit hc
  · exact digit hc

/-- **The digits of an integer are read as it**, if they are not too many with
    the sign. -/
theorem int?_writeInt {n : Int} (hn : (Nat.toDigits 10 n.natAbs).length < maxIntegerDigits) :
    int? (writeInt n).toList = some n := by
  have trimmed : Blank.trimBy Blank.space (writeInt n).toList = (writeInt n).toList :=
    Blank.trimBy_self (writeInt_ne_nil n) fun c hc =>
      Blank.space_of_separator (separator_writeInt hc)
  have short : ¬maxIntegerDigits < (writeInt n).toList.length := by
    rw [toList_writeInt]
    split
    · rw [List.length_cons]
      omega
    · omega
  unfold int?
  dsimp only
  rw [trimmed, if_neg short, toList_writeInt]
  by_cases h : n < 0
  · have value : -(n.natAbs : Int) = n := by omega
    simp only [decide_eq_true h, if_true, magnitude?_toDigits]
    exact congrArg some value
  · rw [if_neg (by simpa using h)]
    have value : (magnitude? (Nat.toDigits 10 n.natAbs)).map Int.ofNat = some n := by
      rw [magnitude?_toDigits, Option.map_some]
      exact congrArg some (Int.natAbs_of_nonneg (Int.not_lt.1 h))
    -- the first digit is no sign
    split
    · rename_i rest hd
      have hplus : isDigit '+' = true := isDigit_toDigits (hd ▸ List.mem_cons_self)
      cases hplus
    · rename_i rest hd
      have hminus : isDigit '-' = true := isDigit_toDigits (hd ▸ List.mem_cons_self)
      cases hminus
    · exact value

end Reading

/-! ## Spellings -/

/-- Whether a text spells an integer: its digits, with any blanks around them. -/
def Spells (s : String) (n : Int) : Prop :=
  ∃ before after, s.toList = before ++ (writeInt n).toList ++ after ∧
    (∀ c ∈ before, Blank.separator c = true) ∧ ∀ c ∈ after, Blank.separator c = true

section
variable {s : String} {n : Int}

theorem Spells.trimBy (h : Spells s n) :
    Blank.trimBy Blank.separator s.toList = (writeInt n).toList := by
  obtain ⟨before, after, hs, hb, ha⟩ := h
  rw [hs]
  exact Blank.trimBy_between hb ha (Reading.writeInt_ne_nil n) fun c => Reading.separator_writeInt

/-- **A text that spells an integer is taken as that integer.** -/
theorem Domain.coerce_of_spells (h : Spells s n)
    (hn : (Nat.toDigits 10 n.natAbs).length < maxIntegerDigits) :
    coerce .number (.text s) = .ok (.int n) := by
  have read : Number.ofText? (String.ofList (Blank.trimBy Blank.separator s.toList)) =
      some (.whole n) := by
    rw [h.trimBy, Number.ofText?, String.toList_ofList, Reading.int?_writeInt hn]
    rfl
  rw [coerce, toNumber, read]
  rfl

end

end Formulary
