/-
  Rounding to doubles: every quotient that lies in the interval of a double
  rounds to it.

  * `roundHalfEven_eq`: the natural nearest to a quotient, the even one of two;
  * `Near` is what it is for a magnitude to lie in the interval of another that
    is a whole number of steps, and `Near.rounds` what it is rounded to;
  * `ofRatio_eq_of_mem` puts these together.
-/
import Formulary.Number.Shortest
import Mathlib.Tactic.Ring
import Mathlib.Tactic.Linarith

namespace Formulary.Binary64

/-- The natural nearest to a quotient, of two the even one. -/
theorem roundHalfEven_eq {num den m : Nat} (hd : 0 < den)
    (low : 2 * (m * den) ≤ 2 * num + den) (high : 2 * num ≤ 2 * (m * den) + den)
    (tie : m % 2 = 1 → 2 * (m * den) < 2 * num + den ∧ 2 * num < 2 * (m * den) + den) :
    roundHalfEven num den = m := by
  have hdiv : num = num / den * den + num % den := by
    rw [Nat.mul_comm, Nat.div_add_mod]
  have hmod : num % den < den := Nat.mod_lt _ hd
  unfold roundHalfEven
  dsimp only
  generalize num / den = q at *
  generalize num % den = r at *
  -- the quotient rounds to its whole part or the natural after that
  have hqm : q ≤ m := by
    by_contra h
    have : (m + 1) * den ≤ q * den := Nat.mul_le_mul_right _ (by omega)
    rw [Nat.add_mul] at this
    omega
  have hmq : m ≤ q + 1 := by
    by_contra h
    have : (q + 2) * den ≤ m * den := Nat.mul_le_mul_right _ (by omega)
    rw [Nat.add_mul] at this
    omega
  rcases Nat.lt_or_ge q m with h | h
  · obtain rfl : m = q + 1 := by omega
    rw [Nat.add_mul] at low high tie
    split
    · omega
    · split
      · rfl
      · rw [if_neg (by omega)]
  · obtain rfl : m = q := by omega
    split
    · rfl
    · rw [if_neg (by omega), if_pos (by omega)]

/-- The shift at which a magnitude has all of its 53 bits, or none is left. -/
theorem log2_sub_eq {whole den k : Nat} (hd : 0 < den)
    (low : k = 0 ∨ 2 ^ 52 * (den * 2 ^ k) ≤ whole) (high : whole < 2 ^ 53 * (den * 2 ^ k)) :
    (whole / den).log2 - 52 = k := by
  have pow_eq : ∀ b, 2 ^ b * (den * 2 ^ k) = 2 ^ (b + k) * den := by
    intro b
    rw [pow_add]
    ring
  rw [pow_eq] at low high
  have hle : (whole / den).log2 ≤ 52 + k := by
    by_cases h0 : whole / den = 0
    · simp [h0]
    · have := (Nat.log2_lt h0).2 ((Nat.div_lt_iff_lt_mul hd).2 high)
      omega
  rcases low with rfl | low
  · omega
  · have hlow := (Nat.le_div_iff_mul_le hd).2 low
    have h0 : whole / den ≠ 0 := Nat.ne_of_gt (Nat.lt_of_lt_of_le (Nat.two_pow_pos _) hlow)
    have := (Nat.le_log2 h0).2 hlow
    omega

/-! ## Magnitudes near others -/

/-- How far below `M` steps of `2^k` the next midpoint is, in quarters of a step:
    below a power of two the steps are half as long. -/
def below (M k : Nat) : Nat := if M = hiddenBit ∧ 0 < k then 1 else 2

/-- Whether a magnitude over a denominator lies between the midpoints around `M`
    steps of `2^k`. -/
structure Near (whole den M k : Nat) : Prop where
  mantissa_lt : M < 2 * hiddenBit
  hiddenBit_le : 0 < k → hiddenBit ≤ M
  low : 4 * (M * (den * 2 ^ k)) ≤ 4 * whole + below M k * (den * 2 ^ k)
  high : 4 * whole ≤ 4 * (M * (den * 2 ^ k)) + 2 * (den * 2 ^ k)
  /-- The midpoints themselves are near even mantissas only. -/
  tie : M % 2 = 1 → 4 * (M * (den * 2 ^ k)) < 4 * whole + below M k * (den * 2 ^ k) ∧
    4 * whole < 4 * (M * (den * 2 ^ k)) + 2 * (den * 2 ^ k)

namespace Near
variable {whole den M k : Nat} (h : Near whole den M k) (hd : 0 < den)
include h hd

theorem lt_top : whole < 2 ^ 53 * (den * 2 ^ k) := by
  have hM : (M + 1) * (den * 2 ^ k) ≤ 2 ^ 53 * (den * 2 ^ k) :=
    Nat.mul_le_mul_right _ h.mantissa_lt
  have hD : 0 < den * 2 ^ k := Nat.mul_pos hd (Nat.two_pow_pos k)
  have high := h.high
  rw [Nat.add_mul] at hM
  omega

/-- A magnitude that is not below a power of two is counted in the same steps. -/
theorem rounds_to (hlow : k = 0 ∨ 2 ^ 52 * (den * 2 ^ k) ≤ whole) :
    (whole / den).log2 - 52 = k ∧ roundHalfEven whole (den * 2 ^ k) = M := by
  refine ⟨log2_sub_eq hd hlow (h.lt_top hd), ?_⟩
  have hD : 0 < den * 2 ^ k := Nat.mul_pos hd (Nat.two_pow_pos k)
  have low := h.low
  have high := h.high
  have tie := h.tie
  unfold below at low tie
  split at low
  · rename_i hM
    refine roundHalfEven_eq hD (by omega) (by omega) (fun ho => ?_)
    rw [hM.1] at ho
    cases ho
  · rename_i hM
    rw [if_neg hM] at tie
    exact roundHalfEven_eq hD (by omega) (by omega) (by omega)

/-- A magnitude below a power of two is counted in half steps, and rounds up to
    that power. -/
theorem rounds_up (hk : 0 < k) (hlow : whole < 2 ^ 52 * (den * 2 ^ k)) :
    M = hiddenBit ∧ (whole / den).log2 - 52 + 1 = k ∧
      roundHalfEven whole (den * 2 ^ ((whole / den).log2 - 52)) = 2 * hiddenBit := by
  have low := h.low
  have hM : M = hiddenBit := by
    by_contra hne
    have hle := h.hiddenBit_le hk
    have hD : (2 ^ 52 + 1) * (den * 2 ^ k) ≤ M * (den * 2 ^ k) :=
      Nat.mul_le_mul_right _ (Nat.lt_of_le_of_ne hle (Ne.symm hne))
    rw [below, if_neg (fun h => hne h.1)] at low
    rw [Nat.add_mul] at hD
    omega
  obtain ⟨j, rfl⟩ : ∃ j, k = j + 1 := ⟨k - 1, by omega⟩
  have hD : den * 2 ^ (j + 1) = 2 * (den * 2 ^ j) := by
    rw [pow_succ]
    ring
  have hpos : 0 < den * 2 ^ j := Nat.mul_pos hd (Nat.two_pow_pos j)
  have hH : hiddenBit = 2 ^ 52 := rfl
  rw [below, if_pos ⟨hM, hk⟩, hM, hH, hD] at low
  rw [hD] at hlow
  have hshift : (whole / den).log2 - 52 = j :=
    log2_sub_eq hd (.inr (by omega)) (by omega)
  rw [hshift, hH]
  refine ⟨hM.trans hH, rfl, roundHalfEven_eq hpos ?_ ?_ (fun ho => by cases ho)⟩ <;> omega

end Near

/-! ## Doubles -/

section
variable {e : Fin 2047} {f : Fin hiddenBit} {num den : Nat}

theorem mantissa_lt (e : Fin 2047) (f : Fin hiddenBit) : mantissa e f < 2 * hiddenBit := by
  have hf := f.isLt
  unfold mantissa
  split <;> omega

theorem hiddenBit_le_mantissa (h : 0 < scale e) : hiddenBit ≤ mantissa e f := by
  have he : e.val ≠ 0 := by
    intro he
    simp [scale, he] at h
  rw [mantissa, if_neg he]
  exact Nat.le_add_right _ _

theorem pack_mantissa (negative : Bool) (e : Fin 2047) (f : Fin hiddenBit) :
    pack negative (mantissa e f) (scale e) = .finite negative e f := by
  have hf := f.isLt
  have he : (if mantissa e f < hiddenBit then 0 else scale e + 1) = e.val := by
    unfold mantissa scale
    by_cases he : e.val = 0
    · rw [if_pos he, if_pos hf, he]
    · rw [if_neg he, if_neg (by omega)]
      omega
  have hm : mantissa e f % hiddenBit = f.val := by
    unfold mantissa
    split
    · exact Nat.mod_eq_of_lt hf
    · rw [Nat.add_mod_left, Nat.mod_eq_of_lt hf]
  unfold pack
  simp only [he, e.isLt, dif_pos, hm]

/-- The step below a double is half as long where its mantissa has a power of
    two, and the double before it all bits. -/
theorem below_mantissa :
    below (mantissa e f) (scale e) = if f.val = 0 ∧ 1 < e.val then 1 else 2 := by
  have hf := f.isLt
  unfold below mantissa scale
  refine if_congr ?_ rfl rfl
  by_cases he : e.val = 0
  · rw [if_pos he]
    omega
  · rw [if_neg he]
    omega

/-- What lies in the interval of a double is near it. -/
theorem near_of_mem (h : (interval e f).mem num den = true) :
    Near (num * unitsPerOne) den (mantissa e f) (scale e) := by
  have hx : num * (interval e f).den = 4 * (num * unitsPerOne) := Nat.mul_left_comm _ _ _
  have hlow : (interval e f).low * den =
      4 * (mantissa e f * (den * 2 ^ scale e)) -
        below (mantissa e f) (scale e) * (den * 2 ^ scale e) := by
    change (4 * mantissa e f - _) * 2 ^ scale e * den = _
    rw [← below_mantissa, Nat.mul_assoc, Nat.mul_comm (2 ^ _), Nat.sub_mul, Nat.mul_assoc]
  have hhigh : (interval e f).high * den =
      4 * (mantissa e f * (den * 2 ^ scale e)) + 2 * (den * 2 ^ scale e) := by
    change (4 * mantissa e f + 2) * 2 ^ scale e * den = _
    rw [Nat.mul_assoc, Nat.mul_comm (2 ^ _), Nat.add_mul, Nat.mul_assoc]
  have hclosed : (interval e f).closed = decide (mantissa e f % 2 = 0) := rfl
  unfold Interval.mem at h
  simp only [hx, hlow, hhigh, hclosed] at h
  generalize num * unitsPerOne = whole at *
  refine ⟨mantissa_lt e f, hiddenBit_le_mantissa, ?_, ?_, ?_⟩ <;> split at h <;>
    simp only [Bool.and_eq_true, decide_eq_true_eq] at * <;> omega

/-- **A quotient in the interval of a double rounds to it.** -/
theorem ofRatio_eq_of_mem (negative : Bool) (hd : 0 < den)
    (h : (interval e f).mem num den = true) :
    ofRatio negative num den = .finite negative e f := by
  have hn := near_of_mem h
  have hp := pack_mantissa negative e f
  have hm := mantissa_lt e f
  simp only [ofRatio, Nat.pow_eq]
  generalize num * unitsPerOne = whole at *
  by_cases hlow : scale e = 0 ∨ 2 ^ 52 * (den * 2 ^ scale e) ≤ whole
  · obtain ⟨hs, hr⟩ := hn.rounds_to hd hlow
    rw [hs, hr, if_neg (Nat.ne_of_lt hm), hp]
  · have hk : 0 < scale e ∧ whole < 2 ^ 52 * (den * 2 ^ scale e) := by omega
    obtain ⟨hM, hs, hr⟩ := hn.rounds_up hd hk.1 hk.2
    rw [if_pos hr, hs, ← hM, hp]

end
end Formulary.Binary64
