/-
  The order of numbers, integers and doubles on one line.

  * `Number.le_self`, `Number.le_trans` and `Number.le_total`: all numbers but
    the one that is none are in a total order;
  * `Number.le_iff_of_toInt?`: that of the integers among them is their own.
-/
import Formulary.Number
import Formulary.Proofs.Number.Shortest

namespace Formulary

/-! ## Places -/

theorem Place.le_self (a : Place) : a.le a = true := by
  cases a <;> simp [le]

theorem Place.le_trans {a b c : Place} (h : a.le b = true) (h' : b.le c = true) :
    a.le c = true := by
  cases a <;> cases b <;> cases c <;> simp_all [le]
  omega

theorem Place.le_total (a b : Place) : a.le b = true ∨ b.le a = true := by
  cases a <;> cases b <;> simp [le]
  omega

/-! ## Numbers -/

namespace Number
variable {x y z n : Number}

theorem le_eq_true :
    x.le y = true ↔ ∃ a b, x.place? = some a ∧ y.place? = some b ∧ a.le b = true := by
  unfold le
  cases x.place? <;> cases y.place? <;> simp

theorem le_trans (h : x.le y = true) (h' : y.le z = true) : x.le z = true := by
  obtain ⟨a, b, ha, hb, hab⟩ := le_eq_true.1 h
  obtain ⟨b', c, hb', hc, hbc⟩ := le_eq_true.1 h'
  obtain rfl : b = b' := Option.some.inj (hb.symm.trans hb')
  exact le_eq_true.2 ⟨a, c, ha, hc, Place.le_trans hab hbc⟩

/-- A number has a place on the line, unless it is none. -/
theorem exists_place : (∃ a, n.place? = some a) ↔ n.isNaN = false := by
  cases n with
  | whole n => exact iff_of_true ⟨_, rfl⟩ rfl
  | real x =>
    cases x with
    | finite s e f => exact iff_of_true ⟨_, rfl⟩ rfl
    | infinite s => exact iff_of_true ⟨_, rfl⟩ rfl
    | nan => exact iff_of_false (by rintro ⟨a, ha⟩; cases ha) (by decide)

/-- What stands in an order to anything is a number. -/
theorem isNaN_of_le (h : x.le y = true) : x.isNaN = false ∧ y.isNaN = false := by
  obtain ⟨a, b, ha, hb, -⟩ := le_eq_true.1 h
  exact ⟨exists_place.1 ⟨a, ha⟩, exists_place.1 ⟨b, hb⟩⟩

/-- A number is at most itself, unless it is none. -/
theorem le_self : n.le n = true ↔ n.isNaN = false := by
  constructor
  · exact fun h => (isNaN_of_le h).1
  · intro h
    obtain ⟨a, ha⟩ := exists_place.2 h
    exact le_eq_true.2 ⟨a, a, ha, ha, Place.le_self a⟩

/-- Of two numbers one is at most the other. -/
theorem le_total (hx : x.isNaN = false) (hy : y.isNaN = false) :
    x.le y = true ∨ y.le x = true := by
  obtain ⟨a, ha⟩ := exists_place.2 hx
  obtain ⟨b, hb⟩ := exists_place.2 hy
  rcases Place.le_total a b with h | h
  · exact .inl (le_eq_true.2 ⟨a, b, ha, hb, h⟩)
  · exact .inr (le_eq_true.2 ⟨b, a, hb, ha, h⟩)

/-- **Integers are in their own order**, however large they are. -/
theorem le_whole {k n : Int} : (whole k).le (whole n) = true ↔ k ≤ n := by
  have hone : (0 : Int) < Binary64.unitsPerOne := by
    obtain ⟨e, he, -⟩ := Binary64.exists_unitsPerOne
    rw [he]
    exact Int.natCast_pos.2 (Nat.two_pow_pos e)
  unfold le place? Place.le
  -- the units are not to be computed
  generalize (Binary64.unitsPerOne : Int) = one at hone ⊢
  rw [decide_eq_true_iff]
  exact mul_le_mul_iff_left₀ hone

/-- A number that is equal to an integer stands in its place. -/
theorem place?_of_toInt? {k : Int} (h : n.toInt? = some k) : n.place? = (whole k).place? := by
  cases n with
  | whole n =>
    cases h
    rfl
  | real x =>
    cases x with
    | infinite s => cases h
    | nan => cases h
    | finite s e f =>
      change (if _ then some _ else none) = some k at h
      change some (Place.at (Binary64.units s e f)) = some (.at (k * Binary64.unitsPerOne))
      -- the units are not to be computed
      generalize (Binary64.unitsPerOne : Int) = one at h ⊢
      generalize Binary64.units s e f = u at h ⊢
      split at h
      · rename_i hu
        rw [← Option.some.inj h, Int.ediv_mul_cancel (Int.dvd_of_emod_eq_zero hu)]
      · cases h

/-- Numbers that are equal to integers are in the order of these. -/
theorem le_iff_of_toInt? {k m : Int} (hx : x.toInt? = some k) (hy : y.toInt? = some m) :
    x.le y = true ↔ k ≤ m := by
  rw [← le_whole, le, le, place?_of_toInt? hx, place?_of_toInt? hy]

end Number
end Formulary
