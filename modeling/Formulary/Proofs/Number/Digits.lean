/-
  Strings of digits, and the naturals that they stand for.

  * `Reading.natOfDigits_toDigits`: the digits of a natural stand for it;
  * `Reading.head?_toDigits`: they start with no zero, but for zero itself;
  * `length_toDigits_of_not_tooLong`: an integer that is not too long has no
    more digits than an integer is read from;
  * `Reading.tooLong_of_int?`: an integer that is read from text is not too long.
-/
import Formulary.Number.Reading
import Mathlib.Algebra.Ring.Nat
import Mathlib.Data.List.Basic

namespace Formulary

namespace Reading
variable {n : Nat} {c : Char}

theorem isDigit_eq (c : Char) : isDigit c = c.isDigit := by
  simp [isDigit, Char.isDigit, Char.le_def]

theorem natOfDigits_eq (ds : List Char) : natOfDigits ds = Nat.ofDigitChars 10 ds 0 :=
  Nat.ofDigitChars_eq_foldl.symm

theorem natOfDigits_append (ds es : List Char) :
    natOfDigits (ds ++ es) = natOfDigits ds * 10 ^ es.length + natOfDigits es := by
  rw [natOfDigits_eq, Nat.ofDigitChars_append, Nat.ofDigitChars_eq_ofDigitChars_zero,
    Nat.mul_comm, ← natOfDigits_eq, ← natOfDigits_eq]

@[simp]
theorem natOfDigits_zeros (k : Nat) : natOfDigits (List.replicate k '0') = 0 := by
  rw [natOfDigits_eq, Nat.ofDigitChars_replicate_zero, Nat.mul_zero]

theorem natOfDigits_zero_cons (ds : List Char) : natOfDigits ('0' :: ds) = natOfDigits ds := rfl

/-- **The digits of a natural stand for it.** -/
@[simp]
theorem natOfDigits_toDigits (n : Nat) : natOfDigits (Nat.toDigits 10 n) = n := by
  rw [natOfDigits_eq, Nat.ofDigitChars_ten_toDigits]

theorem isDigit_toDigits (h : c ∈ Nat.toDigits 10 n) : isDigit c = true := by
  rw [isDigit_eq]
  exact Nat.isDigit_of_mem_toDigits (by decide) (by decide) h

/-- The digits of a natural start with no zero, but for zero itself. -/
theorem head?_toDigits (h : n ≠ 0) : (Nat.toDigits 10 n).head? ≠ some '0' := by
  induction n using Nat.strongRecOn with
  | ind n ih =>
    by_cases hn : 10 ≤ n
    · rw [Nat.toDigits_of_base_le (by decide) hn, List.head?_append_of_ne_nil _ Nat.toDigits_ne_nil]
      exact ih (n / 10) (by omega) (by omega)
    · rw [Nat.toDigits_of_lt_base (Nat.not_le.1 hn)]
      have each : ∀ n < 10, n ≠ 0 → [n.digitChar].head? ≠ some '0' := by decide
      exact each n (Nat.not_le.1 hn) h

theorem natOfDigits_lt {ds : List Char} (h : ∀ c ∈ ds, isDigit c = true) :
    natOfDigits ds < Nat.pow 10 ds.length := by
  suffices ∀ n, ds.foldl (fun n c => 10 * n + digit c) n < (n + 1) * Nat.pow 10 ds.length by
    simpa [natOfDigits] using this 0
  induction ds with
  | nil => simp
  | cons c ds ih =>
    intro n
    have hc : digit c ≤ 9 := by
      have := h c (by simp)
      simp only [isDigit, Bool.and_eq_true, decide_eq_true_eq, Char.le_def,
        UInt32.le_iff_toNat_le] at this
      exact Nat.sub_le_sub_right this.2 48
    calc ds.foldl (fun n c => 10 * n + digit c) (10 * n + digit c)
        < (10 * n + digit c + 1) * Nat.pow 10 ds.length := ih (fun d hd => h d (by simp [hd])) _
      _ ≤ ((n + 1) * 10) * Nat.pow 10 ds.length := Nat.mul_le_mul_right _ (by omega)
      _ = (n + 1) * (Nat.pow 10 ds.length * 10) := by rw [Nat.mul_assoc, Nat.mul_comm 10]

/-! ## Padded digits -/

theorem isDigit_zeros {k : Nat} {c : Char} (h : c ∈ List.replicate k '0') :
    isDigit c = true := by
  rw [List.eq_of_mem_replicate h]
  rfl

theorem isDigit_padded {width n : Nat} {c : Char} (h : c ∈ (padded width n).toList) :
    isDigit c = true := by
  rw [padded, String.toList_ofList, List.mem_append] at h
  exact h.elim isDigit_zeros isDigit_toDigits

theorem padded_ne_nil (width n : Nat) : (padded width n).toList ≠ [] := by
  rw [padded, String.toList_ofList]
  exact List.append_ne_nil_of_right_ne_nil _ Nat.toDigits_ne_nil

theorem padded_ne_empty (width n : Nat) : padded width n ≠ "" := fun h =>
  padded_ne_nil width n (congrArg String.toList h)

/-- There are as many digits as there have to be, if that is enough for the
    natural. -/
theorem length_padded {width n : Nat} (hw : 0 < width) (h : n < 10 ^ width) :
    (padded width n).toList.length = width := by
  have hlen := (Nat.length_toDigits_le_iff (b := 10) (by decide) hw).2 h
  rw [padded, String.toList_ofList, List.length_append, List.length_replicate]
  omega

theorem natOfDigits_padded (width n : Nat) : natOfDigits (padded width n).toList = n := by
  rw [padded, String.toList_ofList, natOfDigits_append, natOfDigits_zeros,
    natOfDigits_toDigits, Nat.zero_mul, Nat.zero_add]

end Reading

/-! ## Integers -/

theorem toList_signed (negative : Bool) (text : String) :
    ((if negative then "-" else "") ++ text).toList =
      if negative then '-' :: text.toList else text.toList := by
  rw [String.toList_append]
  cases negative <;> rfl

theorem toList_writeInt (n : Int) : (writeInt n).toList =
    if decide (n < 0) then '-' :: Nat.toDigits 10 n.natAbs else Nat.toDigits 10 n.natAbs := by
  have hpadded : (padded 1 n.natAbs).toList = Nat.toDigits 10 n.natAbs := by
    have hpos := Nat.length_toDigits_pos (b := 10) (n := n.natAbs)
    rw [padded, String.toList_ofList, show 1 - (Nat.toDigits 10 n.natAbs).length = 0 by omega]
    rfl
  rw [← hpadded, ← toList_signed, writeInt]
  simp

theorem tooLong_eq_false {n : Int} {k limit : Nat} (h : n.natAbs < Nat.pow 10 k)
    (hk : k ≤ limit) (hl : limit ≤ maxIntegerDigits) : tooLong n = false := by
  unfold tooLong
  -- the power is not to be computed
  generalize maxIntegerDigits = most at hl
  have : Nat.pow 10 k ≤ Nat.pow 10 most :=
    Nat.pow_le_pow_right (by omega) (Nat.le_trans hk hl)
  exact decide_eq_false (Nat.not_le.2 (Nat.lt_of_lt_of_le h this))

/-- An integer that is not too long has no more digits than one is read from. -/
theorem length_toDigits_of_not_tooLong {n : Int} (h : tooLong n = false) :
    (Nat.toDigits 10 n.natAbs).length ≤ maxIntegerDigits := by
  unfold tooLong at h
  have hp : 0 < maxIntegerDigits := by decide
  -- the power is not to be computed
  generalize maxIntegerDigits = most at h hp ⊢
  exact (Nat.length_toDigits_le_iff (by decide) hp).2 (Nat.not_le.1 (of_decide_eq_false h))

namespace Reading
variable {s t : List Char} {n : Nat} {i : Int}

/-! ## Integers from text -/

theorem natOfDigits_lt_of_nat? (h : nat? s = some n) : n < Nat.pow 10 s.length := by
  unfold nat? at h
  split at h
  · rename_i hs
    cases h
    exact natOfDigits_lt (List.all_eq_true.1 hs.2)
  · cases h

theorem length_of_dropLeadingZeros? (h : dropLeadingZeros? s = some t) :
    t.length ≤ s.length := by
  unfold dropLeadingZeros? at h
  split at h
  · rename_i rest
    have hd := (List.dropWhile_sublist (fun c => c == '0' || c == '_') (l := '0' :: rest)).length_le
    dsimp only at h
    split at h
    · cases h
      simp
    · cases h
      exact (List.drop_sublist _ _).length_le
    · split at h
      · cases h
        exact hd
      · cases h
  · split at h
    · cases h
      exact Nat.le_refl _
    · cases h
  · cases h

theorem length_dropZeroFraction (s : List Char) : (dropZeroFraction s).length ≤ s.length := by
  unfold dropZeroFraction
  dsimp only
  split
  · exact (List.takeWhile_sublist _).length_le
  · exact Nat.le_refl _

theorem length_of_dropUnderscores? (h : dropUnderscores? s = some t) :
    t.length ≤ s.length := by
  unfold dropUnderscores? at h
  split at h
  · cases h
  · cases h
    exact List.length_filter_le _ _

theorem lt_of_magnitude? (h : magnitude? s = some n) : n < Nat.pow 10 s.length := by
  obtain ⟨t, ht, h⟩ := Option.bind_eq_some_iff.1 h
  obtain ⟨u, hu, h⟩ := Option.bind_eq_some_iff.1 h
  have hlen : u.length ≤ s.length :=
    calc u.length ≤ (dropZeroFraction t).length := length_of_dropUnderscores? hu
      _ ≤ t.length := length_dropZeroFraction t
      _ ≤ s.length := length_of_dropLeadingZeros? ht
  exact Nat.lt_of_lt_of_le (natOfDigits_lt_of_nat? h) (Nat.pow_le_pow_right (by decide) hlen)

/-- **An integer that is read from text is not too long.** -/
theorem tooLong_of_int? (h : int? s = some i) : tooLong i = false := by
  have bound : ∀ {t : List Char} {n : Nat}, magnitude? t = some n → t.length ≤ maxIntegerDigits →
      ∀ i : Int, i.natAbs = n → tooLong i = false := by
    rintro t n hn ht i rfl
    exact tooLong_eq_false (lt_of_magnitude? hn) ht (Nat.le_refl _)
  unfold int? at h
  dsimp only at h
  split at h
  · cases h
  rename_i hl
  have hl := Nat.not_lt.1 hl
  split at h <;> obtain ⟨n, hn, rfl⟩ := Option.map_eq_some_iff.1 h
  case h_1 he => exact bound hn (by rw [he, List.length_cons] at hl; omega) _ rfl
  case h_2 he =>
    obtain ⟨m, hm, he'⟩ := Option.bind_eq_some_iff.1 hn
    cases he'
    exact bound hm (by rw [he, List.length_cons] at hl; omega) _ (Int.natAbs_neg _)
  case h_3 => exact bound hn hl _ rfl

end Reading

end Formulary
