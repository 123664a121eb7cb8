/-
  Writing what holds values of any kind, as forms and results do.

  The writer goes into such a value up to a depth and no further: a value that is
  deeper is taken for one that holds itself.
-/
import Formulary.Fault

namespace Formulary.Json

/-- How deep a value of any kind may be where what holds it is written. -/
def maxDepth : Nat := 255

/-- The text of a value, unless one of the values of any kind in it is too deep. -/
def writeGuarded (style : Style) (parts : List Value) (v : Value) : Except Fault String :=
  if ∀ p ∈ parts, p.depth ≤ maxDepth then .ok (write style v) else .error .tooDeepToWrite

section
variable {style : Style} {parts : List Value} {v : Value}

theorem writeGuarded_eq_ok {text : String} : writeGuarded style parts v = .ok text ↔
    (∀ p ∈ parts, p.depth ≤ maxDepth) ∧ write style v = text := by
  unfold writeGuarded
  split
  · rw [and_iff_right ‹_›, Except.ok.injEq]
  · exact iff_of_false nofun fun h => absurd h.1 ‹_›

theorem writeGuarded_eq_error {f : Fault} : writeGuarded style parts v = .error f ↔
    ¬(∀ p ∈ parts, p.depth ≤ maxDepth) ∧ .tooDeepToWrite = f := by
  unfold writeGuarded
  split
  · exact iff_of_false nofun fun h => absurd ‹_› h.1
  · rw [and_iff_right ‹_›, Except.error.injEq]

end
end Formulary.Json
