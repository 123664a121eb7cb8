/-
  The shortest decimal of a double rounds back to it.

  * `Interval.Holds` are the decimals in the interval of a double, and
    `ofDecimal_eq_of_holds` says that these round to it;
  * `Interval.onGrid_isSome`: a grid finer than the interval has one of them;
  * `Interval.search_spec`: so the search ends with one, since the leading digit
    of the double stands no lower than the search takes it to;
  * `ofDecimal_shortest`: the shortest decimal, with or without trailing zeros,
    rounds to the double.
-/
import Formulary.Proofs.Number.Rounding

namespace Formulary

/-! ## Decimals as quotients -/

namespace Decimal

/-- A decimal is a quotient of this numerator and `den`. -/
def num (d : Decimal) : Nat := d.digits * 10 ^ d.exponent.toNat

def den (d : Decimal) : Nat := 10 ^ (-d.exponent).toNat

theorem den_pos (d : Decimal) : 0 < d.den := Nat.pow_pos (by decide)

/-- Zeros after the digits of a decimal change its exponent only. -/
theorem num_mul_den_zeros (digits k : Nat) (exponent : Int) :
    (⟨digits * 10 ^ k, exponent - k⟩ : Decimal).num * (⟨digits, exponent⟩ : Decimal).den =
      (⟨digits, exponent⟩ : Decimal).num * (⟨digits * 10 ^ k, exponent - k⟩ : Decimal).den := by
  have hk : k + (exponent - k).toNat + (-exponent).toNat =
      exponent.toNat + (-(exponent - k)).toNat := by omega
  simp only [num, den]
  rw [Nat.mul_assoc, Nat.mul_assoc, Nat.mul_assoc, ← pow_add, ← pow_add, ← pow_add,
    ← Nat.add_assoc, hk]

end Decimal

namespace Binary64

namespace Interval
variable {i : Interval} {d : Decimal}

/-- Whether a decimal lies in an interval. -/
def Holds (i : Interval) (d : Decimal) : Prop := i.mem d.num d.den = true

theorem mem_congr {num den num' den' : Nat} (hd : 0 < den) (hd' : 0 < den')
    (h : num * den' = num' * den) : i.mem num den = i.mem num' den' := by
  have cross : ∀ b, num * b * den' = num' * b * den := by
    intro b
    rw [Nat.mul_right_comm, h, Nat.mul_right_comm]
  have le_iff : ∀ a b : Nat, a * den ≤ num * b ↔ a * den' ≤ num' * b := by
    intro a b
    rw [← Nat.mul_le_mul_right_iff hd', cross, Nat.mul_right_comm, Nat.mul_le_mul_right_iff hd]
  have ge_iff : ∀ a b : Nat, num * b ≤ a * den ↔ num' * b ≤ a * den' := by
    intro a b
    rw [← Nat.mul_le_mul_right_iff hd', cross, Nat.mul_right_comm a, Nat.mul_le_mul_right_iff hd]
  simp only [mem, le_iff, ge_iff, ← Nat.not_le]

theorem holds_zeros {digits k : Nat} {exponent : Int} :
    i.Holds ⟨digits * 10 ^ k, exponent - k⟩ ↔ i.Holds ⟨digits, exponent⟩ := by
  unfold Holds
  rw [mem_congr (Decimal.den_pos _) (Decimal.den_pos _)
    (Decimal.num_mul_den_zeros digits k exponent)]

/-- A decimal without its trailing zeros is the same. -/
theorem trim_spec (fuel : Nat) (h : i.Holds d) (h0 : d.digits ≠ 0) :
    i.Holds (d.trim fuel) ∧ (d.trim fuel).digits ≠ 0 ∧ d.exponent ≤ (d.trim fuel).exponent := by
  induction fuel generalizing d with
  | zero => exact ⟨h, h0, le_rfl⟩
  | succ fuel ih =>
    rw [Decimal.trim]
    split
    · rename_i hz
      obtain ⟨digits, exponent⟩ := d
      have hd : digits = digits / 10 * 10 ^ 1 := by
        have := hz.2
        dsimp only at this
        omega
      have he : exponent = exponent + 1 - (1 : Nat) := by omega
      rw [hd, he] at h
      obtain ⟨hh, hn, hl⟩ := ih (d := ⟨digits / 10, exponent + 1⟩) (holds_zeros.1 h)
        (by dsimp only at *; omega)
      exact ⟨hh, hn, by dsimp only at *; omega⟩
    · exact ⟨h, h0, le_rfl⟩

/-! ## Grids -/

/-- The step of a grid over one, and one over the step, without a case on the
    sign of the exponent. -/
theorem down_eq (exponent : Int) :
    (if 0 ≤ exponent then Nat.pow 10 exponent.toNat else 1) = 10 ^ exponent.toNat := by
  split
  · rfl
  · rw [Int.toNat_of_nonpos (by omega), pow_zero]

theorem up_eq (exponent : Int) :
    (if 0 ≤ exponent then 1 else Nat.pow 10 (-exponent).toNat) = 10 ^ (-exponent).toNat := by
  split
  · rw [Int.toNat_of_nonpos (by omega), pow_zero]
  · rfl

/-- The decimal of a grid that has been found lies in the interval. -/
theorem onGrid_spec {exponent : Int} (h : i.onGrid exponent = some d) :
    i.Holds d ∧ d.digits ≠ 0 ∧ d.exponent = exponent := by
  unfold onGrid at h
  extract_lets up down num den q r inside lower upper at h
  have holds : ∀ n, inside n = true → i.Holds ⟨n, exponent⟩ := by
    intro n hn
    dsimp only [inside, up, down] at hn
    rwa [up_eq, down_eq] at hn
  have hlower : lower = true → inside q = true ∧ q ≠ 0 := by
    intro hl
    obtain ⟨hi, hq⟩ := Bool.and_eq_true_iff.1 hl
    exact ⟨hi, by simpa using hq⟩
  have hd : lower = true ∧ d = ⟨q, exponent⟩ ∨ upper = true ∧ d = ⟨q + 1, exponent⟩ := by
    clear_value lower upper
    cases lower <;> cases upper <;> simp at h
    case false.true => exact .inr ⟨rfl, h.symm⟩
    case true.false => exact .inl ⟨rfl, h.symm⟩
    case true.true =>
      subst h
      split_ifs <;> simp
  rcases hd with ⟨hl, rfl⟩ | ⟨hu, rfl⟩
  · exact ⟨holds q (hlower hl).1, (hlower hl).2, rfl⟩
  · exact ⟨holds (q + 1) hu, Nat.succ_ne_zero q, rfl⟩

theorem mem_of_lt {num den : Nat} (hl : i.low * den < num * i.den)
    (hh : num * i.den < i.high * den) : i.mem num den = true := by
  unfold mem
  dsimp only
  split <;> simp only [Bool.and_eq_true, decide_eq_true_eq]
  · exact ⟨hl.le, hh.le⟩
  · exact ⟨hl, hh⟩

/-- **A grid finer than an interval has a decimal inside**, if its step is no more
    than the value. -/
theorem onGrid_isSome {exponent : Int} (hl : i.low < i.value) (hh : i.value < i.high)
    (hd : 0 < i.den)
    (hstep : i.den * 10 ^ exponent.toNat ≤ i.value * 10 ^ (-exponent).toNat)
    (hfine : i.low * 10 ^ (-exponent).toNat + i.den * 10 ^ exponent.toNat <
      i.high * 10 ^ (-exponent).toNat) : (i.onGrid exponent).isSome = true := by
  have hpos : 0 < 10 ^ (-exponent).toNat := Nat.pow_pos (by decide)
  have hdpos : 0 < i.den * 10 ^ exponent.toNat := Nat.mul_pos hd (Nat.pow_pos (by decide))
  unfold onGrid
  simp only [up_eq, down_eq]
  generalize 10 ^ (-exponent).toNat = up at *
  generalize 10 ^ exponent.toNat = down at *
  -- the decimals of the grid on either side of the value
  have hq := Nat.div_mul_le_self (i.value * up) (i.den * down)
  have hq1 := Nat.lt_div_mul_add hdpos (a := i.value * up)
  have hq0 : i.value * up / (i.den * down) ≠ 0 := Nat.ne_of_gt (Nat.div_pos hstep hdpos)
  have hln : i.low * up < i.value * up := Nat.mul_lt_mul_of_pos_right hl hpos
  have hnh : i.value * up < i.high * up := Nat.mul_lt_mul_of_pos_right hh hpos
  generalize i.value * up / (i.den * down) = q at *
  have hcomm : ∀ n, n * down * i.den = n * (i.den * down) := by
    intro n
    rw [Nat.mul_assoc, Nat.mul_comm down]
  have hsucc : (q + 1) * (i.den * down) = q * (i.den * down) + i.den * down := Nat.succ_mul _ _
  split
  · rfl
  split
  · rfl
  split
  · rfl
  -- neither is inside, so they are further apart than the ends of the interval
  rename_i hlower hupper
  exfalso
  have hlow : q * (i.den * down) ≤ i.low * up := by
    by_contra hlt
    refine hlower (Bool.and_eq_true_iff.2 ⟨mem_of_lt ?_ ?_, by simpa using hq0⟩) <;>
      rw [hcomm] <;> omega
  have hhigh : i.high * up ≤ q * (i.den * down) + i.den * down := by
    by_contra hlt
    refine hupper (mem_of_lt ?_ ?_) <;> rw [hcomm, hsucc] <;> omega
  omega

/-! ## The search -/

/-- The search ends with a decimal inside if one of its grids has one. -/
theorem exists_search (count : Nat) {j : Nat} {exponent : Int} (hj : j < count)
    (h : (i.onGrid (exponent - j)).isSome = true) :
    ∃ x, exponent - j ≤ x ∧ i.onGrid x = some (i.search count exponent) := by
  induction count generalizing exponent j with
  | zero => omega
  | succ count ih =>
    rw [search]
    cases hg : i.onGrid exponent with
    | some d => exact ⟨exponent, by omega, hg⟩
    | none =>
      obtain ⟨j, rfl⟩ : ∃ k, j = k + 1 := by
        refine Nat.exists_eq_succ_of_ne_zero fun h0 => ?_
        subst h0
        simp [hg] at h
      have he : exponent - ((j + 1 : Nat) : Int) = exponent - 1 - j := by omega
      rw [he] at h ⊢
      exact ih (by omega) h

end Interval

/-! ## Leading digits -/

/-- Ten is less than two to the `196 / 59`, and `59 / 196` hardly less than what
    the logarithm of two is taken as. -/
theorem ten_pow_le {g L : Nat} (h : 100000 * (g + 1) ≤ 30103 * L) (hL : L ≤ 2000) :
    10 ^ g ≤ 2 ^ L := by
  refine (Nat.pow_le_pow_iff_left (n := 59) (by decide)).1 ?_
  calc (10 ^ g) ^ 59 = (10 ^ 59) ^ g := Nat.pow_right_comm 10 g 59
    _ ≤ (2 ^ 196) ^ g := Nat.pow_le_pow_left (by decide) g
    _ = 2 ^ (196 * g) := (Nat.pow_mul 2 196 g).symm
    _ ≤ 2 ^ (L * 59) := Nat.pow_le_pow_right (by decide) (by omega)
    _ = (2 ^ L) ^ 59 := Nat.pow_mul 2 L 59

/-- Ten is more than two to the `93 / 28`, and `28 / 93` hardly more than what
    the logarithm of two is taken as. -/
theorem two_pow_le {g L : Nat} (h : 30103 * L + 100000 ≤ 100000 * g) (hL : L ≤ 2000) :
    2 ^ L ≤ 10 ^ g := by
  refine (Nat.pow_le_pow_iff_left (n := 93) (by decide)).1 ?_
  calc (2 ^ L) ^ 93 = (2 ^ 93) ^ L := Nat.pow_right_comm 2 L 93
    _ ≤ (10 ^ 28) ^ L := Nat.pow_le_pow_left (by decide) L
    _ = 10 ^ (28 * L) := (Nat.pow_mul 10 28 L).symm
    _ ≤ 10 ^ (g * 93) := Nat.pow_le_pow_right (by decide) (by omega)
    _ = (10 ^ g) ^ 93 := Nat.pow_mul 10 g 93

/-- One less than the guess at the exponent of a power of two is no more than it.
    The power `2^k` is not to be computed. -/
theorem guess_le {n k : Nat} (hk : k = 1076) (hn : n < 2101) {g : Int}
    (hg : g = ((n : Int) - k) * 30103 / 100000 - 1) :
    2 ^ k * 10 ^ g.toNat ≤ 2 ^ n * 10 ^ (-g).toNat := by
  rcases Nat.lt_or_ge n k with h | h
  · obtain ⟨L, rfl⟩ : ∃ L, k = n + L := ⟨k - n, by omega⟩
    rw [Int.toNat_of_nonpos (by omega), pow_zero, Nat.mul_one, pow_add]
    exact Nat.mul_le_mul_left _ (two_pow_le (by omega) (by omega))
  · obtain ⟨L, rfl⟩ : ∃ L, n = k + L := ⟨n - k, by omega⟩
    rw [pow_add, Nat.mul_assoc]
    refine Nat.mul_le_mul_left _ ?_
    rcases Int.lt_or_le g 0 with h0 | h0
    · rw [Int.toNat_of_nonpos h0.le, pow_zero]
      exact Nat.mul_pos (Nat.two_pow_pos L) (Nat.pow_pos (by decide))
    · rw [Int.toNat_of_nonpos (z := -g) (by omega), pow_zero, Nat.mul_one]
      exact ten_pow_le (by omega) (by omega)

/-- **The exponent of the leading digit** of a quotient is not taken too high. -/
theorem decimalExponent_spec {num den k : Nat} {E : Int} (hE : decimalExponent num den = E)
    (hd : den = 2 ^ k) (hk : k = 1076) (h0 : num ≠ 0) (hn : num.log2 < 2101) :
    -325 ≤ E ∧ den * 10 ^ E.toNat ≤ num * 10 ^ (-E).toNat := by
  have hlog : den.log2 = k := by rw [hd, Nat.log2_two_pow]
  unfold decimalExponent at hE
  extract_lets guess atLeast at hE
  have hg : guess = ((num.log2 : Int) - k) * 30103 / 100000 := by
    change ((num.log2 : Int) - (den.log2 : Int)) * 30103 / 100000 = _
    rw [hlog]
  have spec : ∀ e, atLeast e = true → den * 10 ^ e.toNat ≤ num * 10 ^ (-e).toNat := by
    intro e he
    dsimp only [atLeast] at he
    split at he
    · rw [Int.toNat_of_nonpos (z := -e) (by omega), pow_zero, Nat.mul_one]
      exact of_decide_eq_true he
    · rw [Int.toNat_of_nonpos (z := e) (by omega), pow_zero, Nat.mul_one]
      exact of_decide_eq_true he
  clear_value guess atLeast
  split at hE
  · rename_i h
    subst hE
    exact ⟨by omega, spec _ h⟩
  split at hE
  · rename_i h
    subst hE
    exact ⟨by omega, spec _ h⟩
  · have hle := guess_le hk hn (hE.symm.trans (congrArg (· - 1) hg))
    rw [← hd] at hle
    exact ⟨by omega, hle.trans (Nat.mul_le_mul_right _ (Nat.log2_self_le h0))⟩

/-- Whether an interval is more than the value's `10^-16` wide, with the value
    between its ends. -/
structure Interval.Wide (i : Interval) : Prop where
  low_lt : i.low < i.value
  lt_high : i.value < i.high
  den_pos : 0 < i.den
  wide : i.value < (i.high - i.low) * 10 ^ 16

/-- **The search finds a decimal inside** of a wide interval. -/
theorem Interval.search_spec {i : Interval} {E : Int} (h : i.Wide)
    (hE : i.den * 10 ^ E.toNat ≤ i.value * 10 ^ (-E).toNat) :
    i.Holds (i.search 17 E) ∧ (i.search 17 E).digits ≠ 0 ∧ E - 16 ≤ (i.search 17 E).exponent := by
  have hc : 0 < 10 ^ 16 * 10 ^ (-E).toNat := Nat.mul_pos (by decide) (Nat.pow_pos (by decide))
  have hup : 0 < 10 ^ (-(E - 16)).toNat := Nat.pow_pos (by decide)
  -- the step of the last grid, against the leading digit
  have hstep : i.den * 10 ^ (E - 16).toNat * (10 ^ 16 * 10 ^ (-E).toNat) ≤
      i.value * 10 ^ (-(E - 16)).toNat * 10 ^ (-E).toNat := by
    have hexp : (E - 16).toNat + (16 + (-E).toNat) = E.toNat + (-(E - 16)).toNat := by omega
    calc i.den * 10 ^ (E - 16).toNat * (10 ^ 16 * 10 ^ (-E).toNat)
        = i.den * 10 ^ E.toNat * 10 ^ (-(E - 16)).toNat := by
          rw [Nat.mul_assoc, ← pow_add, ← pow_add, hexp, pow_add, Nat.mul_assoc]
      _ ≤ i.value * 10 ^ (-E).toNat * 10 ^ (-(E - 16)).toNat := Nat.mul_le_mul_right _ hE
      _ = _ := Nat.mul_right_comm _ _ _
  have hcoarse : i.den * 10 ^ (E - 16).toNat ≤ i.value * 10 ^ (-(E - 16)).toNat := by
    refine Nat.le_of_mul_le_mul_right (hstep.trans ?_) hc
    exact Nat.mul_le_mul_left _ (Nat.le_mul_of_pos_left _ (by decide))
  have hfine : i.den * 10 ^ (E - 16).toNat < (i.high - i.low) * 10 ^ (-(E - 16)).toNat := by
    refine Nat.lt_of_mul_lt_mul_right (a := 10 ^ 16 * 10 ^ (-E).toNat) ?_
    calc i.den * 10 ^ (E - 16).toNat * (10 ^ 16 * 10 ^ (-E).toNat)
        ≤ i.value * 10 ^ (-(E - 16)).toNat * 10 ^ (-E).toNat := hstep
      _ < (i.high - i.low) * 10 ^ 16 * 10 ^ (-(E - 16)).toNat * 10 ^ (-E).toNat :=
        Nat.mul_lt_mul_of_pos_right (Nat.mul_lt_mul_of_pos_right h.wide hup)
          (Nat.pow_pos (by decide))
      _ = _ := by ring
  have hsome := onGrid_isSome h.low_lt h.lt_high h.den_pos hcoarse (by
    rw [Nat.sub_mul] at hfine
    omega)
  obtain ⟨x, hx, hs⟩ := exists_search 17 (j := 16) (by decide) hsome
  obtain ⟨hholds, h0, he⟩ := onGrid_spec hs
  exact ⟨hholds, h0, by omega⟩

section
variable {e : Fin 2047} {f : Fin hiddenBit} {d : Decimal}

theorem scale_le (e : Fin 2047) : scale e ≤ 2045 := by
  unfold scale
  omega

/-- The units that make up one are a power of two that is not to be computed. -/
theorem exists_unitsPerOne : ∃ k, unitsPerOne = 2 ^ k ∧ k = 1074 := by
  unfold unitsPerOne
  generalize 1074 = k
  exact ⟨k, rfl, rfl⟩

theorem value_interval (e : Fin 2047) (f : Fin hiddenBit) :
    (interval e f).value = 4 * mantissa e f * 2 ^ scale e := rfl

/-- The denominator of an interval is a power of two that is not to be computed. -/
theorem exists_den_interval (e : Fin 2047) (f : Fin hiddenBit) :
    ∃ k, (interval e f).den = 2 ^ k ∧ k = 1076 := by
  obtain ⟨k, hunits, hk⟩ := exists_unitsPerOne
  have h4 : (interval e f).den = 2 ^ 2 * unitsPerOne := congrArg (· * unitsPerOne) (by decide)
  exact ⟨2 + k, by rw [h4, hunits, pow_add], by omega⟩

/-- The interval of a number is wide: a mantissa has no more than 53 bits. -/
theorem wide_interval (h : mantissa e f ≠ 0) : (interval e f).Wide := by
  have hlt := mantissa_lt e f
  have hH : hiddenBit = 4503599627370496 := rfl
  have hpow : 0 < 2 ^ scale e := Nat.two_pow_pos _
  have hlow : (interval e f).low =
      (4 * mantissa e f - below (mantissa e f) (scale e)) * 2 ^ scale e := by
    rw [below_mantissa]
    rfl
  have hhigh : (interval e f).high = (4 * mantissa e f + 2) * 2 ^ scale e := rfl
  have hbelow : 1 ≤ below (mantissa e f) (scale e) ∧ below (mantissa e f) (scale e) ≤ 2 ∧
      4 * mantissa e f < (2 + below (mantissa e f) (scale e)) * 10 ^ 16 := by
    unfold below
    split <;> omega
  refine ⟨?low_lt, ?lt_high, ?den_pos, ?wide⟩
  case low_lt =>
    rw [hlow, value_interval]
    exact Nat.mul_lt_mul_of_pos_right (by omega) hpow
  case lt_high =>
    rw [hhigh, value_interval]
    exact Nat.mul_lt_mul_of_pos_right (by omega) hpow
  case den_pos =>
    obtain ⟨k, hk, -⟩ := exists_den_interval e f
    rw [hk]
    exact Nat.two_pow_pos k
  case wide =>
    have hw : 4 * mantissa e f + 2 - (4 * mantissa e f - below (mantissa e f) (scale e)) =
        2 + below (mantissa e f) (scale e) := by omega
    rw [hlow, hhigh, value_interval, ← Nat.sub_mul, hw, Nat.mul_right_comm (2 + _)]
    exact Nat.mul_lt_mul_of_pos_right hbelow.2.2 hpow

theorem log2_interval (h : (interval e f).value ≠ 0) : (interval e f).value.log2 < 2101 := by
  have hlt : (interval e f).value < 2 ^ (55 + scale e) := by
    have hm := mantissa_lt e f
    have hH : hiddenBit = 4503599627370496 := rfl
    rw [value_interval, pow_add]
    exact Nat.mul_lt_mul_of_pos_right (by omega) (Nat.two_pow_pos _)
  have hs := scale_le e
  have hb := (Nat.log2_lt h).2 hlt
  omega

/-- **The shortest decimal of a number lies in its interval.** -/
theorem holds_shortest (h : magnitude e f ≠ 0) : (interval e f).Holds (shortest e f) ∧
    (shortest e f).digits ≠ 0 ∧ -341 ≤ (shortest e f).exponent := by
  have hw : (interval e f).Wide :=
    wide_interval fun h0 => h (by rw [magnitude, h0, Nat.zero_mul])
  have hv : (interval e f).value ≠ 0 := Nat.ne_of_gt (Nat.zero_lt_of_lt hw.low_lt)
  obtain ⟨k, hden, hk⟩ := exists_den_interval e f
  obtain ⟨hE, hdigit⟩ := decimalExponent_spec rfl hden hk hv (log2_interval hv)
  obtain ⟨hs, hs0, hse⟩ := Interval.search_spec hw hdigit
  obtain ⟨ht, ht0, hte⟩ := Interval.trim_spec 20 hs hs0
  rw [shortest, if_neg h]
  dsimp only
  exact ⟨ht, ht0, by omega⟩

/-- No decimal in an interval is so high that it counts as infinite. -/
theorem size_of_holds (h : (interval e f).Holds d) (h0 : d.digits ≠ 0) :
    d.digits.log2 + 3 * d.exponent.toNat < 1024 + 4 * (-d.exponent).toNat := by
  have hlt := (near_of_mem h).lt_top d.den_pos
  obtain ⟨k, hunits, hk⟩ := exists_unitsPerOne
  have hpow : 2 ^ (d.digits.log2 + 3 * d.exponent.toNat + k) <
      2 ^ (53 + (4 * (-d.exponent).toNat + scale e)) := by
    calc 2 ^ (d.digits.log2 + 3 * d.exponent.toNat + k)
        = 2 ^ d.digits.log2 * (2 ^ 3) ^ d.exponent.toNat * unitsPerOne := by
          rw [← pow_mul, ← pow_add, hunits, ← pow_add]
      _ ≤ d.num * unitsPerOne :=
          Nat.mul_le_mul_right _ (Nat.mul_le_mul (Nat.log2_self_le h0)
            (Nat.pow_le_pow_left (by decide) _))
      _ < 2 ^ 53 * (d.den * 2 ^ scale e) := hlt
      _ ≤ 2 ^ 53 * ((2 ^ 4) ^ (-d.exponent).toNat * 2 ^ scale e) :=
          Nat.mul_le_mul_left _ (Nat.mul_le_mul_right _ (Nat.pow_le_pow_left (by decide) _))
      _ = 2 ^ (53 + (4 * (-d.exponent).toNat + scale e)) := by
          rw [pow_add, pow_add, pow_mul]
  have hs := scale_le e
  have hexp := (Nat.pow_lt_pow_iff_right (by decide)).1 hpow
  omega

/-- **A decimal in the interval of a number rounds to it**, unless its exponent is
    so low that it counts as zero. -/
theorem ofDecimal_eq_of_holds (negative : Bool) (h : (interval e f).Holds d) (h0 : d.digits ≠ 0)
    (hE : -400 ≤ d.exponent) :
    ofDecimal negative d.digits d.exponent = .finite negative e f := by
  have hr := ofRatio_eq_of_mem negative d.den_pos h
  have hsize := size_of_holds h h0
  unfold ofDecimal
  dsimp only
  rw [if_neg h0, if_neg (by omega), if_neg (by omega)]
  split
  · rename_i hpos
    have hden : d.den = 1 := by rw [Decimal.den, Int.toNat_of_nonpos (by omega), pow_zero]
    rw [hden] at hr
    exact hr
  · rename_i hneg
    have hnum : d.num = d.digits := by
      rw [Decimal.num, Int.toNat_of_nonpos (by omega), pow_zero, Nat.mul_one]
    rw [hnum] at hr
    exact hr

/-- **The shortest decimal of a number rounds to it**, with any few zeros after
    its digits. -/
theorem ofDecimal_shortest (negative : Bool) (e : Fin 2047) (f : Fin hiddenBit) {k : Nat}
    (hk : k ≤ 59) : ofDecimal negative ((shortest e f).digits * 10 ^ k)
      ((shortest e f).exponent - k) = .finite negative e f := by
  by_cases h : magnitude e f = 0
  · have hM : mantissa e f = 0 :=
      (Nat.mul_eq_zero.1 h).resolve_right (Nat.two_pow_pos _).ne'
    have hz : e.val = 0 ∧ f.val = 0 := by
      unfold mantissa at hM
      split at hM <;> omega
    obtain ⟨rfl, rfl⟩ : e = 0 ∧ f = ⟨0, by decide⟩ := ⟨Fin.ext hz.1, Fin.ext hz.2⟩
    rw [shortest, if_pos h, Nat.zero_mul, ofDecimal, if_pos rfl, zero]
  · obtain ⟨hh, h0, hE⟩ := holds_shortest h
    exact ofDecimal_eq_of_holds negative (d := ⟨_, _⟩) (Interval.holds_zeros.2 hh)
      (Nat.mul_ne_zero h0 (by positivity)) (by dsimp only; omega)

end
end Binary64
end Formulary
