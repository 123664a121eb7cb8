/-
  Searching a text for a pattern.

  `Node.run` tries a pattern at a place and goes on with what follows, in the
  order that decides which match is found: the first alternative first, a
  greedy repetition with its greatest count first, and back to the next choice
  whenever what follows fails.  A repetition that has its least count does not
  go round again without having moved, so its rounds are bounded by the text.
-/
import Formulary.Pattern.Syntax

namespace Formulary.Pattern

/-- A place in the text with what the groups have matched so far: where group
    `i` began stands at `2 * (i - 1)`, where it ended one further. -/
structure State where
  pos : Nat
  marks : Array (Option Nat)

/-- The start and the end of what a group matched. -/
def State.part? (st : State) (index : Nat) : Option (Nat × Nat) := do
  let first ← (← st.marks[2 * (index - 1)]?)
  let last ← (← st.marks[2 * (index - 1) + 1]?)
  if first ≤ last then some (first, last) else none

def State.mark (st : State) (i : Nat) : State :=
  { st with marks := st.marks.setIfInBounds i (some st.pos) }

/-- What follows a part of a pattern: the state it ends in, if it matches. -/
abbrev Next := State → Option State

/-! ## Places -/

/-- Whether the character at an index is there and of the word class. -/
def isWordAt (text : Array Char) (ascii : Bool) (i : Nat) : Bool :=
  match text[i]? with
  | some c => Kind.word.mem ascii c
  | none => false

/-- Whether a place meets an anchor.  An empty text has no word boundary and
    no place without one. -/
def Anchor.holds (text : Array Char) (pos : Nat) : Anchor → Bool
  | .textStart => pos == 0
  | .lineStart => pos == 0 || text[pos - 1]? == some '\n'
  | .textEnd => pos == text.size
  | .lastLineEnd => pos == text.size || (pos + 1 == text.size && text[pos]? == some '\n')
  | .lineEnd => pos == text.size || text[pos]? == some '\n'
  | .wordBoundary ascii negated =>
    let before := pos != 0 && isWordAt text ascii (pos - 1)
    !text.isEmpty && (before != isWordAt text ascii pos) != negated

/-! ## Repetitions -/

variable (body : Next → Next) (least : Nat) (most : Option Nat) (next : Next)

/-- Whether one more round is allowed after so many. -/
def more (count : Nat) : Bool :=
  match most with
  | some m => count < m
  | none => true

/-- Rounds of a greedy repetition; `last` is where the latest optional round
    began. -/
def greedyRounds : Nat → Nat → Option Nat → Next
  | 0, _, _, _ => none
  | fuel + 1, count, last, st =>
    if count < least then body (greedyRounds fuel (count + 1) last) st
    else
      let round := if more most count && last != some st.pos then
          body (greedyRounds fuel (count + 1) (some st.pos)) st
        else none
      match round with
      | some st => some st
      | none => next st

/-- Rounds of a lazy repetition. -/
def lazyRounds : Nat → Nat → Option Nat → Next
  | 0, _, _, _ => none
  | fuel + 1, count, last, st =>
    if count < least then body (lazyRounds fuel (count + 1) last) st
    else
      match next st with
      | some st => some st
      | none =>
        if more most count && last != some st.pos then
          body (lazyRounds fuel (count + 1) (some st.pos)) st
        else none

/-- Rounds of a possessive repetition, each matched for good. -/
def possessiveRounds : Nat → Nat → Next
  | 0, _, _ => none
  | fuel + 1, count, st =>
    if count < least then
      match body some st with
      | some st => possessiveRounds fuel (count + 1) st
      | none => none
    else if more most count then
      match body some st with
      | some after =>
        if after.pos = st.pos then next after else possessiveRounds fuel (count + 1) after
      | none => next st
    else next st

/-- The number of characters from a place on that pass a test, `limit` at most. -/
def runLength (text : Array Char) (test : Test) (pos : Nat) : Nat → Nat
  | 0 => 0
  | limit + 1 =>
    match text[pos]? with
    | some c => if test.holds c then runLength text test (pos + 1) limit + 1 else 0
    | none => 0

/-- Goes on after a run of one-character rounds, the longest first. -/
def giveBack (st : State) : Nat → Option State
  | 0 => if least = 0 then next st else none
  | count + 1 =>
    if count + 1 < least then none
    else
      match next { st with pos := st.pos + (count + 1) } with
      | some st => some st
      | none => giveBack st count

/-! ## Matching -/

/-- Whether two parts of a text of one length are equal but for case. -/
def sameParts (text : Array Char) (fold : Fold) (i j : Nat) : Nat → Bool
  | 0 => true
  | n + 1 =>
    match text[i]?, text[j]? with
    | some a, some b =>
      fold.lower a.toNat == fold.lower b.toNat && sameParts text fold (i + 1) (j + 1) n
    | _, _ => false

/-- Tries a pattern at a place and goes on with what follows. -/
def Node.run (text : Array Char) : Node → Next → Next
  | .empty, next, st => next st
  | .char t, next, st =>
    match text[st.pos]? with
    | some c => if t.holds c then next { st with pos := st.pos + 1 } else none
    | none => none
  | .anchor a, next, st => if a.holds text st.pos then next st else none
  | .seq a b, next, st => a.run text (b.run text next) st
  | .alt a b, next, st =>
    match a.run text next st with
    | some st => some st
    | none => b.run text next st
  | .group none body, next, st => body.run text next st
  | .group (some i) body, next, st =>
    body.run text (fun st => next (st.mark (2 * (i - 1) + 1))) (st.mark (2 * (i - 1)))
  | .loop least most .greedy (.char t), next, st =>
    let limit := text.size - st.pos
    giveBack least next st (runLength text t st.pos ((most.getD limit).min limit))
  | .loop least most greed body, next, st =>
    let fuel := least + (text.size - st.pos) + 2
    match greed with
    | .greedy => greedyRounds (body.run text) least most next fuel 0 none st
    | .lazy => lazyRounds (body.run text) least most next fuel 0 none st
    | .possessive => possessiveRounds (body.run text) least most next fuel 0 st
  | .atomic body, next, st =>
    match body.run text some st with
    | some st => next st
    | none => none
  | .look behind negated body, next, st =>
    let width := behind.getD 0
    let found := if st.pos < width then none
      else body.run text some { st with pos := st.pos - width }
    match found with
    | some after => if negated then none else next { after with pos := st.pos }
    | none => if negated then next st else none
  | .again i fold, next, st =>
    match st.part? i with
    | some (first, last) =>
      let n := last - first
      if st.pos + n ≤ text.size ∧ sameParts text fold first st.pos n then
        next { st with pos := st.pos + n }
      else none
    | none => none
  | .whether i yes no, next, st =>
    if (st.part? i).isSome then yes.run text next st else no.run text next st

/-- Whether a pattern matches from one of the places after `pos` on. -/
def Compiled.searchFrom (p : Compiled) (text : Array Char) (pos : Nat) : Nat → Bool
  | 0 => false
  | count + 1 =>
    (p.node.run text some ⟨pos, Array.replicate (2 * p.groups) none⟩).isSome
      || p.searchFrom text (pos + 1) count

/-- Whether a pattern matches anywhere in a text. -/
def Compiled.search (p : Compiled) (s : String) : Bool :=
  let text := s.toList.toArray
  p.searchFrom text 0 (text.size + 1)

end Formulary.Pattern
