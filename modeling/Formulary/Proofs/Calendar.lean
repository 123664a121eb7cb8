/-
  Dates and their text: `Date.ofText?_write` says that a date that is written is
  read back.
-/
import Formulary.Calendar.Reading
import Formulary.Proofs.Number.Digits

namespace Formulary

namespace Calendar
variable {year month day : Nat}

theorem daysIn_le (year month : Nat) : daysIn year month ≤ 31 := by
  unfold daysIn
  split <;> first | decide | (split <;> decide)

theorem daysIn_eq_zero (h : 12 < month) : daysIn year month = 0 := by
  unfold daysIn
  split <;> omega

theorem bounds_of_names (h : names year month day = true) :
    year ≤ 9999 ∧ month ≤ 12 ∧ day ≤ 31 := by
  obtain ⟨⟨⟨-, hy⟩, hd⟩, hm⟩ : ((1 ≤ year ∧ year ≤ 9999) ∧ 1 ≤ day) ∧ day ≤ daysIn year month := by
    simpa [names] using h
  refine ⟨hy, ?_, Nat.le_trans hm (daysIn_le year month)⟩
  by_contra hn
  have hz : daysIn year month = 0 := daysIn_eq_zero (Nat.lt_of_not_le hn)
  omega

end Calendar

namespace Date

/-- Digits that are written are read back, whatever comes after. -/
theorem digits?_padded {width n : Nat} (hw : 0 < width) (h : n < 10 ^ width)
    (rest : List Char) : digits? width ((padded width n).toList ++ rest) = some (n, rest) := by
  have hl := Reading.length_padded hw h
  have hn : Reading.nat? (padded width n).toList = some n := by
    have hd : (padded width n).toList.all Reading.isDigit = true :=
      List.all_eq_true.2 fun c hc => Reading.isDigit_padded hc
    rw [Reading.nat?, if_pos ⟨Reading.padded_ne_nil width n, hd⟩, Reading.natOfDigits_padded]
  simp [digits?, List.take_left' hl, List.drop_left' hl, hl, hn, guard]

/-- **A date that is written is read back.** -/
theorem ofText?_write (d : Date) : ofText? d.write = some d := by
  obtain ⟨hy, hm, hd⟩ := Calendar.bounds_of_names d.named
  have hy : d.year < 10 ^ 4 := by omega
  have hm : d.month < 10 ^ 2 := by omega
  have hd : d.day < 10 ^ 2 := by omega
  have hw : d.write.toList = (padded 4 d.year).toList ++
      '-' :: ((padded 2 d.month).toList ++ '-' :: ((padded 2 d.day).toList ++ [])) := by
    simp [write]
  have hday : day? d.write.toList = some (d, []) := by
    rw [hw, day?, digits?_padded (by decide) hy]
    simp only [Option.bind_eq_bind, Option.bind_some, after?, if_true]
    rw [digits?_padded (by decide) hm]
    simp only [Option.bind_some, if_true]
    rw [digits?_padded (by decide) hd]
    simp only [Option.bind_some]
    rw [ofYMD?, dif_pos d.named]
    rfl
  rw [ofText?, hday]
  rfl

end Date
end Formulary
