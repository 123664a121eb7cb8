/-
  Numbers that are written are read back.

  * `Numeral.Stops` are the texts that no number before them extends into;
  * `unsigned_integer`, `unsigned_point`, `unsigned_scientific`: what is read of
    the parts of a number;
  * `readsAs_write`: a decimal is read as one of the same value, in any layout;
  * `number_whole`, `number_finite`: an integer that is not too long and a finite
    double are read as they were.
-/
import Formulary.Json.Reader
import Formulary.Proofs.Number.Digits
import Formulary.Proofs.Number.Shortest

namespace Formulary.Json

/-! ## Parts of numbers -/

namespace Numeral

/-- Whether a text starts with no digit. -/
def NoDigit (rest : List Char) : Prop := ∀ c, rest.head? = some c → Reading.isDigit c = false

/-- Whether a number before a text ends there. -/
structure Stops (rest : List Char) : Prop where
  digit : NoDigit rest
  point : rest.head? ≠ some '.'
  exponent : rest.head? ≠ some 'e' ∧ rest.head? ≠ some 'E'

/-- Whether a text is the whole part of a number: digits, with no zero before
    others. -/
def IsWhole (ds : List Char) : Prop :=
  ds = ['0'] ∨ ds ≠ [] ∧ ds.head? ≠ some '0' ∧ ∀ c ∈ ds, Reading.isDigit c = true

variable {ds rest : List Char}

theorem takeWhile_digits (hd : ∀ c ∈ ds, Reading.isDigit c = true) (hr : NoDigit rest) :
    (ds ++ rest).takeWhile Reading.isDigit = ds ∧ (ds ++ rest).dropWhile Reading.isDigit = rest := by
  rw [List.takeWhile_append_of_pos hd, List.dropWhile_append_of_pos hd]
  cases rest with
  | nil => simp
  | cons c rest => simp [hr c rfl]

theorem isWhole_toDigits (n : Nat) : IsWhole (Nat.toDigits 10 n) := by
  by_cases h : n = 0
  · rw [h, Nat.toDigits_zero]
    exact .inl rfl
  · exact .inr ⟨Nat.toDigits_ne_nil, Reading.head?_toDigits h, fun c hc => Reading.isDigit_toDigits hc⟩

/-- The whole part of a number is taken up to its end. -/
theorem whole_eq (hd : IsWhole ds) (hr : NoDigit rest) :
    (match ds ++ rest with
      | '0' :: _ => ['0']
      | _ => (ds ++ rest).takeWhile Reading.isDigit) = ds := by
  rcases hd with rfl | ⟨hne, hz, hd⟩
  · rfl
  · split
    · rename_i tail h
      cases ds with
      | nil => exact absurd rfl hne
      | cons c ds =>
        cases h
        exact absurd rfl hz
    · exact (takeWhile_digits hd hr).1

theorem noDigit_point : NoDigit ('.' :: rest) := by
  rintro c ⟨⟩
  rfl

theorem noDigit_exponent : NoDigit ('e' :: rest) := by
  rintro c ⟨⟩
  rfl

theorem fraction_of_no_point (h : rest.head? ≠ some '.') : fraction rest = ([], rest) := by
  unfold fraction
  split
  · exact absurd rfl h
  · rfl

theorem fraction_point (hd : ∀ c ∈ ds, Reading.isDigit c = true) (hne : ds ≠ [])
    (hr : NoDigit rest) : fraction ('.' :: (ds ++ rest)) = (ds, rest) := by
  obtain ⟨ht, hw⟩ := takeWhile_digits hd hr
  rw [fraction, ht, hw, if_neg hne]

theorem exponent?_of_stops (h : rest.head? ≠ some 'e' ∧ rest.head? ≠ some 'E') :
    exponent? rest = none := by
  unfold exponent?
  split
  · rename_i c tail
    rw [if_neg]
    rintro (rfl | rfl)
    · exact h.1 rfl
    · exact h.2 rfl
  · rfl

theorem exponent?_signed (negative : Bool) (hd : ∀ c ∈ ds, Reading.isDigit c = true)
    (hne : ds ≠ []) (hr : NoDigit rest) :
    exponent? ('e' :: (if negative then '-' else '+') :: (ds ++ rest)) =
      some (if negative then -(Reading.natOfDigits ds : Int) else Reading.natOfDigits ds, rest) := by
  obtain ⟨ht, hw⟩ := takeWhile_digits hd hr
  cases negative <;> simp [exponent?, ht, hw, hne]

/-- An exponent is read as it is written. -/
theorem exponent?_written (width : Nat) (point : Int) (hr : NoDigit rest) :
    exponent? ('e' :: (if point < 0 then '-' else '+') ::
      ((padded width point.natAbs).toList ++ rest)) = some (point, rest) := by
  have hexp := exponent?_signed (decide (point < 0)) (fun c hc => Reading.isDigit_padded hc)
    (Reading.padded_ne_nil width point.natAbs) hr
  rw [Reading.natOfDigits_padded] at hexp
  by_cases h : point < 0
  · rw [decide_eq_true h, if_pos rfl, if_pos rfl] at hexp
    rw [if_pos h, hexp, Int.ofNat_natAbs_of_nonpos h.le, Int.neg_neg]
  · rw [decide_eq_false h, if_neg Bool.false_ne_true, if_neg Bool.false_ne_true] at hexp
    rw [if_neg h, hexp, Int.natAbs_of_nonneg (Int.not_lt.1 h)]

end Numeral

open Numeral

section
variable {limit : Nat} {start whole decimals tail rest : List Char} {negative : Bool} {x : Int}

theorem Numeral.IsWhole.ne_nil (h : IsWhole whole) : whole ≠ [] := by
  rcases h with rfl | ⟨hne, -⟩
  · simp
  · exact hne

/-- A number is read by its parts. -/
theorem unsigned_eq (hw : IsWhole whole) (ht : NoDigit tail)
    (hf : fraction tail = (decimals, rest)) :
    unsigned limit start negative (whole ++ tail) =
      match exponent? rest with
      | some (e, rest) => .ok (.real (.ofDecimal negative
          (Reading.natOfDigits (whole ++ decimals)) (e - decimals.length)), rest)
      | none =>
        if decimals = [] then
          if limit < whole.length then .error (.integerTooLong whole.length, start)
          else .ok (.whole (if negative then -(Reading.natOfDigits whole : Int)
            else Reading.natOfDigits whole), tail)
        else .ok (.real (.ofDecimal negative (Reading.natOfDigits (whole ++ decimals))
          (-(decimals.length : Int))), rest) := by
  unfold unsigned
  extract_lets w after
  have hw' : w = whole := whole_eq hw ht
  have ha : after = tail := by
    change List.drop w.length _ = _
    rw [hw', List.drop_left]
  clear_value w after
  subst hw' ha
  simp only [if_neg hw.ne_nil, hf]
  rfl

/-- What is read of a whole part with no more digits than there may be. -/
theorem unsigned_integer (hw : IsWhole whole) (hr : Stops rest) (hl : whole.length ≤ limit) :
    unsigned limit start negative (whole ++ rest) = .ok (.whole (if negative then
      -(Reading.natOfDigits whole : Int) else Reading.natOfDigits whole), rest) := by
  rw [unsigned_eq hw hr.digit (fraction_of_no_point hr.point), exponent?_of_stops hr.exponent]
  simp only [if_true, if_neg (Nat.not_lt.2 hl)]

/-- What is read of a whole part and decimals, if there is no exponent. -/
theorem unsigned_point (hw : IsWhole whole) (hd : ∀ c ∈ decimals, Reading.isDigit c = true)
    (hne : decimals ≠ []) (hr : Stops rest) :
    unsigned limit start negative (whole ++ '.' :: (decimals ++ rest)) =
      .ok (.real (.ofDecimal negative (Reading.natOfDigits (whole ++ decimals))
        (-(decimals.length : Int))), rest) := by
  rw [unsigned_eq hw noDigit_point (fraction_point hd hne hr.digit),
    exponent?_of_stops hr.exponent]
  simp only [if_neg hne]

/-- What is read of a whole part, decimals or none, and an exponent. -/
theorem unsigned_scientific (limit : Nat) (start : List Char) (negative : Bool)
    (hw : IsWhole whole) (ht : NoDigit tail) {after : List Char}
    (hf : fraction tail = (decimals, after)) (he : exponent? after = some (x, rest)) :
    unsigned limit start negative (whole ++ tail) =
      .ok (.real (.ofDecimal negative (Reading.natOfDigits (whole ++ decimals))
        (x - decimals.length)), rest) := by
  rw [unsigned_eq hw ht hf, he]

/-! ## Decimals -/

/-- Whether a decimal is read of a text, with or without zeros after its digits. -/
def ReadsAs (limit : Nat) (d : Decimal) (text : List Char) : Prop :=
  ∀ start rest negative, Stops rest → ∃ k : Nat, k ≤ 59 ∧
    unsigned limit start negative (text ++ rest) =
      .ok (.real (.ofDecimal negative (d.digits * 10 ^ k) (d.exponent - k)), rest)

theorem readsAs_of_point {limit k : Nat} {d : Decimal} (whole decimals : List Char)
    (hw : IsWhole whole) (hd : ∀ c ∈ decimals, Reading.isDigit c = true) (hne : decimals ≠ [])
    (hk : k ≤ 59) (hv : Reading.natOfDigits (whole ++ decimals) = d.digits * 10 ^ k)
    (he : -(decimals.length : Int) = d.exponent - k) :
    ReadsAs limit d (whole ++ '.' :: decimals) := by
  intro start rest negative hr
  refine ⟨k, hk, ?_⟩
  rw [List.append_assoc, List.cons_append, unsigned_point hw hd hne hr, hv, he]

section
variable {limit : Nat} {d : Decimal} {point : Int}
  (hp : point = d.exponent + ((Nat.toDigits 10 d.digits).length : Int) - 1)
include hp

/-- The digits all stand after the point. -/
theorem readsAs_after (h : point < 0) :
    ReadsAs limit d (Decimal.positional (Nat.toDigits 10 d.digits) point) := by
  rw [Decimal.positional, if_pos h]
  refine readsAs_of_point (k := 0) ['0']
    (List.replicate ((-point).toNat - 1) '0' ++ Nat.toDigits 10 d.digits) (.inl rfl) (fun c hc => ?_) ?_ (by decide) ?_ ?_
  · exact (List.mem_append.1 hc).elim Reading.isDigit_zeros Reading.isDigit_toDigits
  · exact List.append_ne_nil_of_right_ne_nil _ Nat.toDigits_ne_nil
  · rw [List.singleton_append, Reading.natOfDigits_zero_cons, Reading.natOfDigits_append,
      Reading.natOfDigits_zeros, Reading.natOfDigits_toDigits]
    omega
  · rw [List.length_append, List.length_replicate]
    omega

/-- The digits all stand before the point. -/
theorem readsAs_before (h0 : 0 ≤ point) (h16 : point < 16)
    (hl : (Nat.toDigits 10 d.digits).length ≤ point.toNat + 1) (hz : d.digits = 0 → d.exponent = 0) :
    ReadsAs limit d (Decimal.positional (Nat.toDigits 10 d.digits) point) := by
  rw [Decimal.positional, if_neg (by omega)]
  dsimp only
  rw [if_pos hl]
  refine readsAs_of_point (k := (point.toNat + 1 - (Nat.toDigits 10 d.digits).length) + 1)
    (Nat.toDigits 10 d.digits ++ _) ['0'] ?_ ?_ (by simp) (by omega) ?_ ?_
  · by_cases h : d.digits = 0
    · have hlen : (Nat.toDigits 10 d.digits).length = 1 := by rw [h]; rfl
      have := hz h
      rw [show point.toNat + 1 - (Nat.toDigits 10 d.digits).length = 0 by omega,
        List.replicate_zero, List.append_nil]
      exact isWhole_toDigits _
    · refine .inr ⟨List.append_ne_nil_of_left_ne_nil Nat.toDigits_ne_nil _, ?_, fun c hc => ?_⟩
      · rw [List.head?_append_of_ne_nil _ Nat.toDigits_ne_nil]
        exact Reading.head?_toDigits h
      · exact (List.mem_append.1 hc).elim Reading.isDigit_toDigits Reading.isDigit_zeros
  · simp [Reading.isDigit]
  · rw [Reading.natOfDigits_append, Reading.natOfDigits_append, Reading.natOfDigits_zeros,
      Reading.natOfDigits_toDigits, List.length_replicate, List.length_singleton,
      show Reading.natOfDigits ['0'] = 0 from rfl]
    ring
  · rw [List.length_singleton]
    omega

/-- The point stands among the digits. -/
theorem readsAs_among (h0 : 0 ≤ point) (hl : point.toNat + 1 < (Nat.toDigits 10 d.digits).length) :
    ReadsAs limit d (Decimal.positional (Nat.toDigits 10 d.digits) point) := by
  have hd0 : d.digits ≠ 0 := by
    intro h
    rw [h] at hl
    simp at hl
  rw [Decimal.positional, if_neg (by omega)]
  dsimp only
  rw [if_neg (by omega), List.append_assoc, List.singleton_append]
  refine readsAs_of_point (k := 0) _ _ (.inr ⟨?_, ?_, fun c hc => ?_⟩) (fun c hc => ?_) ?_
    (by decide) ?_ ?_
  · simp [Nat.toDigits_ne_nil]
  · rw [List.head?_take, if_neg (by omega)]
    exact Reading.head?_toDigits hd0
  · exact Reading.isDigit_toDigits (List.mem_of_mem_take hc)
  · exact Reading.isDigit_toDigits (List.mem_of_mem_drop hc)
  · simpa using hl
  · rw [List.take_append_drop, Reading.natOfDigits_toDigits]
    omega
  · rw [List.length_drop]
    omega

/-- The digits stand before an exponent, all but one after the point. -/
theorem readsAs_scientific (width : Nat) :
    ReadsAs limit d (Decimal.scientific width (Nat.toDigits 10 d.digits) point) := by
  intro start rest negative hr
  refine ⟨0, by decide, ?_⟩
  have hexp := exponent?_written width point hr.digit
  have hall := fun c => Reading.isDigit_toDigits (n := d.digits) (c := c)
  have hvalue := Reading.natOfDigits_toDigits d.digits
  cases hds : Nat.toDigits 10 d.digits with
  | nil => exact absurd hds Nat.toDigits_ne_nil
  | cons c ds =>
    rw [hds] at hp hall hvalue
    have hw : IsWhole [c] := by
      by_cases hc : c = '0'
      · exact .inl (by rw [hc])
      · exact .inr ⟨by simp, by simpa using hc, fun c' hc' => hall c' (by simp_all)⟩
    have hx : point - (ds.length : Int) = d.exponent - ((0 : Nat) : Int) := by
      rw [List.length_cons] at hp
      omega
    rw [pow_zero, Nat.mul_one, ← hx, ← hvalue]
    cases ds with
    | nil =>
      have hread := unsigned_scientific limit start negative hw noDigit_exponent
        (fraction_of_no_point (by simp)) hexp
      simpa [Decimal.scientific] using hread
    | cons c' ds =>
      have hd : ∀ c'' ∈ c' :: ds, Reading.isDigit c'' = true := fun c'' h =>
        hall c'' (List.mem_cons_of_mem c h)
      have hread := unsigned_scientific limit start negative hw noDigit_point
        (fraction_point hd (List.cons_ne_nil c' ds) noDigit_exponent) hexp
      simpa [Decimal.scientific] using hread

end

/-- **A decimal is read as it is written**, in any layout. -/
theorem readsAs_write (limit : Nat) {d : Decimal} (layout : Layout)
    (hz : d.digits = 0 → d.exponent = 0) : ReadsAs limit d (d.write layout).toList := by
  rw [Decimal.write, String.toList_ofList]
  split
  · rename_i h
    by_cases h0 : d.exponent + ((Nat.toDigits 10 d.digits).length : Int) - 1 < 0
    · exact readsAs_after rfl h0
    · by_cases hl : (Nat.toDigits 10 d.digits).length ≤
          (d.exponent + ((Nat.toDigits 10 d.digits).length : Int) - 1).toNat + 1
      · exact readsAs_before rfl (by omega) h.2 hl hz
      · exact readsAs_among rfl (by omega) (by omega)
  · exact readsAs_scientific rfl _

end

/-! ## Numbers -/

/-- Whether a text starts with a digit. -/
def Numeral.StartsWithDigit (text : List Char) : Prop :=
  ∃ c s, text = c :: s ∧ Reading.isDigit c = true

theorem Numeral.startsWithDigit_toDigits (n : Nat) : StartsWithDigit (Nat.toDigits 10 n) := by
  cases h : Nat.toDigits 10 n with
  | nil => exact absurd h Nat.toDigits_ne_nil
  | cons c s => exact ⟨c, s, rfl, Reading.isDigit_toDigits (h ▸ List.mem_cons_self)⟩

theorem Numeral.startsWithDigit_write (layout : Layout) (d : Decimal) :
    StartsWithDigit (d.write layout).toList := by
  obtain ⟨c, s, hc, hd⟩ := startsWithDigit_toDigits d.digits
  rw [Decimal.write, String.toList_ofList, hc]
  split
  · unfold Decimal.positional
    split
    · exact ⟨_, _, rfl, rfl⟩
    · dsimp only
      split
      · exact ⟨_, _, rfl, hd⟩
      · exact ⟨_, _, rfl, hd⟩
  · unfold Decimal.scientific
    cases s <;> exact ⟨_, _, rfl, hd⟩

/-- A number is read by its sign and the rest. -/
theorem number_signed (limit : Nat) {text : List Char} (negative : Bool)
    (h : StartsWithDigit text) (rest : List Char) :
    ∃ start, number limit ((if negative then '-' :: text else text) ++ rest) =
      unsigned limit start negative (text ++ rest) := by
  obtain ⟨c, s, rfl, hc⟩ := h
  cases negative with
  | true =>
    refine ⟨'-' :: c :: (s ++ rest), ?_⟩
    change number limit ('-' :: c :: (s ++ rest)) = unsigned _ _ _ (c :: (s ++ rest))
    generalize s ++ rest = tail
    unfold number
    split
    · rename_i heq
      cases heq
      cases hc
    · rename_i heq
      cases heq
      rfl
    · rename_i heq
      exact absurd rfl (heq _)
  | false =>
    refine ⟨c :: (s ++ rest), ?_⟩
    change number limit (c :: (s ++ rest)) = unsigned _ _ _ (c :: (s ++ rest))
    generalize s ++ rest = tail
    unfold number
    split
    · rename_i heq
      cases heq
      cases hc
    · rename_i heq
      cases heq
      cases hc
    · rfl

/-- An integer that is not too long is read as it is written. -/
theorem number_whole {n : Int} {rest : List Char} (hn : tooLong n = false) (hr : Stops rest) :
    number maxIntegerDigits ((writeInt n).toList ++ rest) = .ok (.whole n, rest) := by
  obtain ⟨start, h⟩ := number_signed maxIntegerDigits (decide (n < 0))
    (startsWithDigit_toDigits n.natAbs) rest
  have hvalue : (if decide (n < 0) = true then -(n.natAbs : Int) else n.natAbs) = n := by
    by_cases h0 : n < 0
    · rw [if_pos (decide_eq_true h0)]
      omega
    · rw [if_neg (by simpa using h0)]
      omega
  rw [toList_writeInt, h, unsigned_integer (isWhole_toDigits _) hr (length_toDigits_of_not_tooLong hn),
    Reading.natOfDigits_toDigits, hvalue]

/-- **A finite double is read as it is written**, in any layout. -/
theorem number_finite (limit : Nat) {rest : List Char} (layout : Layout) (negative : Bool)
    (e : Fin 2047) (f : Fin Binary64.hiddenBit) (hr : Stops rest) :
    number limit ((Binary64.write layout (.finite negative e f)).toList ++ rest) =
      .ok (.real (.finite negative e f), rest) := by
  have hz : (Binary64.shortest e f).digits = 0 → (Binary64.shortest e f).exponent = 0 := by
    by_cases h : Binary64.magnitude e f = 0
    · rw [Binary64.shortest, if_pos h]
      exact fun _ => rfl
    · exact fun h0 => absurd h0 (Binary64.holds_shortest h).2.1
  obtain ⟨start, h⟩ := number_signed limit negative
    (startsWithDigit_write layout (Binary64.shortest e f)) rest
  obtain ⟨k, hk, hread⟩ := readsAs_write limit layout hz start rest negative hr
  rw [Binary64.write, toList_signed, h, hread, Binary64.ofDecimal_shortest negative e f hk]

end Formulary.Json
