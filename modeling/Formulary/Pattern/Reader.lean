/-
  Reading the text of a pattern.

  The grammar: alternatives `a|b`; repetitions `*`, `+`, `?` and braces, lazy
  with a further `?` and possessive with a further `+`; sets in brackets;
  classes and anchors behind a backslash; groups, named or not, and references
  to them; looking ahead and behind; conditions on a group; and flags, for the
  whole pattern at its start or for a group.

  A pattern is refused as malformed, with three exceptions that are faults of
  their own: a repetition count of `2^32 - 1` or more or a code of `2^31` or
  more, a count of too many digits, and flags that contradict each other.

  Groups are read however deeply they are nested.  That no limit is met there is
  an assumption.
-/
import Formulary.Pattern.Syntax
import Formulary.Text.CharacterName
import Formulary.Text.Identifier
import Formulary.Text.WholeNumber

namespace Formulary.Pattern

/-- Why a pattern cannot be read. -/
inductive Problem where
  | malformed
  | numberTooLarge
  /-- A count of so many digits. -/
  | countTooLong (digits : Nat)
  | flagsContradict
deriving DecidableEq

/-! ## Tokens -/

/-- A character of a pattern, or one behind a backslash. -/
inductive Token where
  | plain (c : Char)
  | escaped (c : Char)
  /-- A backslash with nothing behind it. -/
  | dangling
deriving DecidableEq

/-- The tokens of a pattern. -/
def tokens : List Char → List Token
  | [] => []
  | ['\\'] => [.dangling]
  | '\\' :: c :: rest => .escaped c :: tokens rest
  | c :: rest => .plain c :: tokens rest

/-- A token as text. -/
def Token.chars : Token → List Char
  | .plain c => [c]
  | .escaped c => ['\\', c]
  | .dangling => ['\\']

/-! ## Widths -/

/-- The least and the greatest number of characters that a pattern matches. -/
structure Width where
  least : Nat
  most : Nat

namespace Width

/-- No width reaches further. -/
def cap : Nat := 0x10000000000000000

/-- The count that stands for no upper limit. -/
def unlimited : Nat := 0xFFFFFFFF

/-- How far back a pattern may look. -/
def furthest : Nat := 0xFFFFFFFF

def capped (w : Width) : Width := ⟨min w.least cap, min w.most cap⟩

def add (v w : Width) : Width := capped ⟨v.least + w.least, v.most + w.most⟩

def either (v w : Width) : Width := ⟨min v.least w.least, max v.most w.most⟩

end Width

/-- The width of a pattern, given those of the groups. -/
def Node.width (groups : List (Nat × Width)) : Node → Width
  | .empty | .anchor _ | .look .. => ⟨0, 0⟩
  | .char _ => ⟨1, 1⟩
  | .seq a b => (a.width groups).add (b.width groups)
  | .alt a b => (a.width groups).either (b.width groups)
  | .group _ body | .atomic body => body.width groups
  | .loop least most _ body =>
    let w := body.width groups
    let high := match most with
      | some m => w.most * m
      | none => if w.most = 0 then 0 else Width.cap
    Width.capped ⟨w.least * least, high⟩
  | .again i _ => (groups.lookup i).getD ⟨0, 0⟩
  | .whether _ yes no => (yes.width groups).either (no.width groups)

/-! ## Flags -/

/-- The flags that a part of a pattern is read under. -/
structure Flags where
  ignoreCase : Bool := false
  multiline : Bool := false
  dotAll : Bool := false
  verbose : Bool := false
  ascii : Bool := false
  unicode : Bool := false
  bare : Bool := false

namespace Flags

/-- The flags of one letter. -/
def ofLetter? : Char → Option Flags
  | 'i' => some { ignoreCase := true }
  | 'm' => some { multiline := true }
  | 's' => some { dotAll := true }
  | 'x' => some { verbose := true }
  | 'a' => some { ascii := true }
  | 'u' => some { unicode := true }
  | 't' => some { bare := true }
  | _ => none

/-- Flags of either of two. -/
def union (f g : Flags) : Flags where
  ignoreCase := f.ignoreCase || g.ignoreCase
  multiline := f.multiline || g.multiline
  dotAll := f.dotAll || g.dotAll
  verbose := f.verbose || g.verbose
  ascii := f.ascii || g.ascii
  unicode := f.unicode || g.unicode
  bare := f.bare || g.bare

/-- Whether two have a flag in common. -/
def meets (f g : Flags) : Bool :=
  (f.ignoreCase && g.ignoreCase) || (f.multiline && g.multiline) || (f.dotAll && g.dotAll)
    || (f.verbose && g.verbose) || (f.ascii && g.ascii) || (f.unicode && g.unicode)
    || (f.bare && g.bare)

/-- Flags inside a group that turns some on and some off.  Turning one script
    on turns the other off. -/
def within (f on off : Flags) : Flags :=
  let f := if on.ascii || on.unicode then { f with ascii := false, unicode := false } else f
  let f := f.union on
  { f with
    ignoreCase := f.ignoreCase && !off.ignoreCase
    multiline := f.multiline && !off.multiline
    dotAll := f.dotAll && !off.dotAll
    verbose := f.verbose && !off.verbose }

/-- How case is ignored. -/
def fold (f : Flags) : Fold :=
  if f.ignoreCase then if f.ascii then .ascii else .unicode else .none

end Flags

/-! ## The source -/

/-- What is left to read and what has been seen. -/
structure Source where
  rest : List Token
  /-- Flags for the whole pattern. -/
  flags : Flags := {}
  /-- The number of groups opened. -/
  groups : Nat := 0
  /-- The widths of the groups closed. -/
  widths : List (Nat × Width) := []
  names : List (String × Nat) := []
  /-- Inside of looking behind: the number of groups opened before it. -/
  behind : Option Nat := none
  /-- The greatest group number that a condition asks for. -/
  asked : Nat := 0
  /-- Whether something was read that only a finished pattern is refused for. -/
  refused : Bool := false

/-- A step of reading. -/
abbrev Reader := StateT Source (Except Problem)

def malformed {α : Type} : Reader α := throw .malformed

/-- The token ahead. -/
def peek : Reader (Option Token) := return (← get).rest.head?

/-- Moves to a place.  A lone backslash is refused as soon as it is ahead. -/
def moveTo (rest : List Token) : Reader Unit := do
  if rest.head? = some .dangling then malformed
  modify ({ · with rest })

/-- The token ahead, and past it. -/
def take : Reader (Option Token) := do
  match (← get).rest with
  | [] => return none
  | t :: rest => moveTo rest; return some t

/-- Past a character if it is ahead. -/
def skip (c : Char) : Reader Bool := do
  match (← get).rest with
  | t :: rest => if t = .plain c then do moveTo rest; return true else return false
  | [] => return false

/-- Past a character that has to be ahead. -/
def expect (c : Char) : Reader Unit := do
  if !(← skip c) then malformed

/-- Up to `limit` characters of a class, and past them. -/
def takeUpTo (p : Char → Bool) : Nat → Reader (List Char)
  | 0 => return []
  | limit + 1 => do
    match (← get).rest with
    | .plain c :: rest =>
      if p c then do
        moveTo rest
        return c :: (← takeUpTo p limit)
      else return []
    | _ => return []

/-- The nonempty text up to a closing character, and past both. -/
def takeName (close : Char) : Reader (List Char) := do
  let rest := (← get).rest
  let name := rest.takeWhile (· ≠ .plain close)
  match rest.drop name.length with
  | [] => malformed
  | _ :: rest =>
    if name.isEmpty ∨ name.contains .dangling then malformed
    moveTo rest
    return name.flatMap Token.chars

/-! ## Escapes -/

def isOctal (c : Char) : Bool := '0' ≤ c && c ≤ '7'

def isHex (c : Char) : Bool := (CharacterName.hexDigit? c.toUpper).isSome

/-- The number that digits stand for in a base. -/
def inBase (base : Nat) (ds : List Char) : Nat :=
  ds.foldl (fun n c => base * n + (CharacterName.hexDigit? c.toUpper).getD 0) 0

/-- The code point of exactly so many hexadecimal digits. -/
def hexCode (width : Nat) : Reader Nat := do
  let ds ← takeUpTo isHex width
  if ds.length ≠ width then malformed
  return inBase 16 ds

/-- The code point of an escape that stands for one in sets and outside. -/
def codeEscape? (c : Char) : Reader (Option Nat) := do
  match c with
  | 'a' => return some 7
  | 'f' => return some 12
  | 'n' => return some 10
  | 'r' => return some 13
  | 't' => return some 9
  | 'v' => return some 11
  | '\\' => return some 0x5C
  | 'x' => return some (← hexCode 2)
  | 'u' => return some (← hexCode 4)
  | 'U' =>
    let n ← hexCode 8
    if 0x7FFFFFFF < n then throw .numberTooLarge
    if 0x110000 ≤ n then malformed
    return some n
  | 'N' =>
    expect '\x7b'
    match CharacterName.lookup? (String.ofList (← takeName '\x7d')) with
    | some n => return some n
    | none => malformed
  | _ => return none

/-- The class that a letter stands for. -/
def kindEscape? (c : Char) (ascii : Bool) : Option Member :=
  match c with
  | 'd' => some (.kind .digit false ascii)
  | 'D' => some (.kind .digit true ascii)
  | 's' => some (.kind .space false ascii)
  | 'S' => some (.kind .space true ascii)
  | 'w' => some (.kind .word false ascii)
  | 'W' => some (.kind .word true ascii)
  | _ => none

/-- The place that a letter stands for. -/
def anchorEscape? (c : Char) (ascii : Bool) : Option Anchor :=
  match c with
  | 'A' => some .textStart
  | 'Z' => some .textEnd
  | 'b' => some (.wordBoundary ascii false)
  | 'B' => some (.wordBoundary ascii true)
  | _ => none

/-- A member of a set behind a backslash. -/
def memberEscape (flags : Flags) (c : Char) : Reader Member := do
  if c = 'b' then return .code 8
  if let some k := kindEscape? c flags.ascii then return k
  if let some n ← codeEscape? c then return .code n
  if isOctal c then
    let n := inBase 8 (c :: (← takeUpTo isOctal 2))
    if 0o377 < n then malformed
    return .code n
  if Reading.isDigit c || Case.isAsciiLetter c then malformed
  return .code c.toNat

/-- Whether a group has been closed. -/
def isClosed (i : Nat) : Reader Bool := return ((← get).widths.lookup i).isSome

/-- A reference to a group, which has to be closed, and before any part that is
    looked behind with it. -/
def checkBehind (i : Nat) : Reader Unit := do
  match (← get).behind with
  | some n => if !(← isClosed i) || n < i then malformed
  | none => return ()

def reference (flags : Flags) (i : Nat) : Reader Node := do
  if !(← isClosed i) then malformed
  checkBehind i
  return .again i flags.fold

/-- A single character. -/
def literal (flags : Flags) (n : Nat) : Node := .char (.code n false flags.fold)

/-- What stands behind a backslash outside of sets. -/
def escape (flags : Flags) (c : Char) : Reader Node := do
  if let some a := anchorEscape? c flags.ascii then return .anchor a
  if let some k := kindEscape? c flags.ascii then return .char (.set [k] false flags.fold)
  if let some n ← codeEscape? c then return literal flags n
  if c = '0' then return literal flags (inBase 8 (c :: (← takeUpTo isOctal 2)))
  if Reading.isDigit c then
    match ← takeUpTo Reading.isDigit 1 with
    | [d] =>
      if isOctal c && isOctal d then
        match ← takeUpTo isOctal 1 with
        | [e] =>
          let n := inBase 8 [c, d, e]
          if 0o377 < n then malformed
          return literal flags n
        | _ => reference flags (inBase 10 [c, d])
      else reference flags (inBase 10 [c, d])
    | _ => reference flags (inBase 10 [c])
  else if Case.isAsciiLetter c then malformed
  else return literal flags c.toNat

/-! ## Sets -/

/-- A member of a set, given the token it starts with. -/
def member (flags : Flags) : Token → Reader Member
  | .plain c => return .code c.toNat
  | .escaped c => memberEscape flags c
  | .dangling => malformed

/-- The members of a set after those read so far, last first. -/
def members (flags : Flags) : Nat → List Member → Reader (List Member)
  | 0, _ => malformed
  | fuel + 1, acc => do
    let some t ← take | malformed
    if t = .plain ']' ∧ acc ≠ [] then return acc
    let first ← member flags t
    if ← skip '-' then
      let some t ← take | malformed
      if t = .plain ']' then return .code '-'.toNat :: first :: acc
      match first, ← member flags t with
      | .code lo, .code hi =>
        if hi < lo then malformed
        members flags fuel (.range lo hi :: acc)
      | _, _ => malformed
    else members flags fuel (first :: acc)

/-- A set after its opening bracket. -/
def set (flags : Flags) : Reader Node := do
  let negated ← skip '^'
  let ms ← members flags ((← get).rest.length + 1) []
  match ms.eraseDups with
  | [.code n] => return .char (.code n negated flags.fold)
  | ms => return .char (.set ms.reverse negated flags.fold)

/-! ## Repetitions -/

/-- The counts between braces, after the opening one; none if it stands for
    itself. -/
def counts : Reader (Option (Nat × Option Nat)) := do
  let start := (← get).rest
  if start.head? = some (.plain '\x7d') then return none
  let lo ← takeUpTo Reading.isDigit start.length
  let hi ← if ← skip ',' then takeUpTo Reading.isDigit start.length else pure lo
  if !(← skip '\x7d') then
    moveTo start
    return none
  let count (ds : List Char) : Reader Nat := do
    if maxIntegerDigits < ds.length then throw (.countTooLong ds.length)
    let n := Reading.natOfDigits ds
    if Width.unlimited ≤ n then throw .numberTooLarge
    return n
  let least ← if lo.isEmpty then pure 0 else count lo
  if hi.isEmpty then return some (least, none)
  let most ← count hi
  if most < least then malformed
  return some (least, some most)

def isAnchor : Node → Bool
  | .anchor _ => true
  | _ => false

def isLoop : Node → Bool
  | .loop .. => true
  | _ => false

/-- Repeats the latest of the nodes read so far, last first. -/
def repeated (flags : Flags) (least : Nat) (most : Option Nat) :
    List Node → Reader (List Node)
  | [] => malformed
  | node :: acc => do
    if isAnchor node || isLoop node then malformed
    if flags.bare then modify ({ · with refused := true })
    if ← skip '?' then return .loop least most .lazy node :: acc
    if ← skip '+' then return .loop least most .possessive node :: acc
    return .loop least most .greedy node :: acc

/-! ## Groups -/

/-- A group number, and its name if it has one. -/
def openGroup (name : Option String) : Reader Nat := do
  let i := (← get).groups + 1
  modify ({ · with groups := i })
  match name with
  | none => return i
  | some name =>
    if ((← get).names.lookup name).isSome then malformed
    modify fun s => { s with names := (name, i) :: s.names }
    return i

/-- A name that is an identifier. -/
def identifier (close : Char) : Reader String := do
  let name ← takeName close
  if !Identifier.mem name then malformed
  return String.ofList name

/-- Letters of flags up to the character that ends them, given the first. -/
def flagLetters (ends : Char → Bool) : Nat → Char → Flags → Reader (Flags × Char)
  | 0, _, _ => malformed
  | fuel + 1, c, acc => do
    let some f := Flags.ofLetter? c | malformed
    let acc := acc.union f
    if (f.ascii || f.unicode) && acc.ascii && acc.unicode then malformed
    match ← take with
    | some (.plain c) => if ends c then return (acc, c) else flagLetters ends fuel c acc
    | _ => malformed

/-- The flags of a group after the question mark, given the first character:
    those turned on and off, or none if they are for the whole pattern. -/
def groupFlags (c : Char) : Reader (Option (Flags × Flags)) := do
  let fuel := (← get).rest.length + 1
  let (on, c) ← if c = '-' then pure ({}, c)
    else flagLetters (fun c => c == ')' || c == '-' || c == ':') fuel c {}
  if c = ')' then
    modify fun s => { s with flags := s.flags.union on }
    return none
  if on.bare then malformed
  if c = ':' then return some (on, {})
  let some (.plain c) ← take | malformed
  let (off, _) ← flagLetters (· == ':') fuel c {}
  if off.ascii || off.unicode || off.bare || on.meets off then malformed
  return some (on, off)

/-- The group that a condition asks for. -/
def conditionGroup : Reader Nat := do
  let name ← takeName ')'
  let i ← if Identifier.mem name then
      match (← get).names.lookup (String.ofList name) with
      | some i => pure i
      | none => malformed
    else
      match WholeNumber.read (String.ofList name) with
      | .ok n => if n ≤ 0 then malformed else pure n.toNat
      | .error _ => malformed
  if !Identifier.mem name then modify fun s => { s with asked := max s.asked i }
  checkBehind i
  return i

/-- Past a comment, up to its closing parenthesis. -/
def skipComment : Reader Unit := do
  match (← get).rest.dropWhile (· ≠ .plain ')') with
  | [] => malformed
  | _ :: rest => moveTo rest

/-- Past a line of comment in a verbose pattern. -/
def skipLine : Reader Unit := do
  let rest := (← get).rest
  let after := rest.dropWhile (· ≠ .plain '\n')
  if after.isEmpty ∧ rest.contains .dangling then malformed
  moveTo (after.drop 1)

/-- Whether a character is passed over in a verbose pattern. -/
def isLayout (c : Char) : Bool := c == ' ' || (9 ≤ c.toNat && c.toNat ≤ 13)

mutual

/-- Alternatives up to a closing parenthesis or the end; `top` for those of the
    whole pattern. -/
def alternatives (fuel : Nat) (flags : Flags) (top first : Bool) : Reader Node :=
  match fuel with
  | 0 => malformed
  | fuel + 1 => do
    let nodes ← sequence fuel flags (top && first) []
    if ← skip '|' then
      let s ← get
      let flags := if top then s.flags else flags
      return .alt (Node.ofList nodes) (← alternatives fuel flags top false)
    else return Node.ofList nodes

/-- Nodes up to a bar, a closing parenthesis or the end, after those read so
    far, last first; `start` where flags for the whole pattern may stand. -/
def sequence (fuel : Nat) (flags : Flags) (start : Bool) (acc : List Node) :
    Reader (List Node) :=
  match fuel with
  | 0 => malformed
  | fuel + 1 => do
    match ← peek with
    | none | some (.plain '|') | some (.plain ')') => return acc.reverse
    | some .dangling => malformed
    | some (.escaped c) => do
      discard take
      let node ← escape flags c
      sequence fuel flags start (node :: acc)
    | some (.plain c) => do
      discard take
      if flags.verbose && isLayout c then sequence fuel flags start acc
      else if flags.verbose && c == '#' then do
        skipLine
        sequence fuel flags start acc
      else match c with
      | '.' => sequence fuel flags start (.char (.any flags.dotAll) :: acc)
      | '^' =>
        sequence fuel flags start
          (.anchor (if flags.multiline then .lineStart else .textStart) :: acc)
      | '$' =>
        sequence fuel flags start
          (.anchor (if flags.multiline then .lineEnd else .lastLineEnd) :: acc)
      | '[' => do
        let node ← set flags
        sequence fuel flags start (node :: acc)
      | '?' => do sequence fuel flags start (← repeated flags 0 (some 1) acc)
      | '*' => do sequence fuel flags start (← repeated flags 0 none acc)
      | '+' => do sequence fuel flags start (← repeated flags 1 none acc)
      | '\x7b' => do
        match ← counts with
        | none => sequence fuel flags start (literal flags c.toNat :: acc)
        | some (least, most) => do
          sequence fuel flags start (← repeated flags least most acc)
      | '(' => do
        match ← group fuel flags (start && acc.isEmpty) with
        | some node => sequence fuel flags start (node :: acc)
        | none => do
          let s ← get
          sequence fuel (if start then s.flags else flags) start acc
      | _ => sequence fuel flags start (literal flags c.toNat :: acc)

/-- A group after its opening parenthesis; none if it is a comment or sets
    flags for the whole pattern, which it may at the start. -/
def group (fuel : Nat) (flags : Flags) (start : Bool) : Reader (Option Node) :=
  match fuel with
  | 0 => malformed
  | fuel + 1 => do
    if !(← skip '?') then
      let i ← openGroup none
      return some (← numbered fuel flags i)
    let some (.plain c) ← take | malformed
    match c with
    | 'P' =>
      if ← skip '<' then
        let name ← identifier '>'
        let i ← openGroup (some name)
        return some (← numbered fuel flags i)
      else if ← skip '=' then
        let name ← identifier ')'
        match (← get).names.lookup name with
        | some i => return some (← reference flags i)
        | none => malformed
      else malformed
    | ':' => return some (.group none (← inner fuel flags))
    | '#' => do
      skipComment
      return none
    | '>' => return some (.atomic (← inner fuel flags))
    | '=' => return some (.look none false (← inner fuel flags))
    | '!' => return some (.look none true (← inner fuel flags))
    | '<' =>
      let some (.plain c) ← take | malformed
      if c ≠ '=' ∧ c ≠ '!' then malformed
      let outer := (← get).behind
      if outer.isNone then modify fun s => { s with behind := some s.groups }
      let body ← alternatives fuel flags false false
      if outer.isNone then modify ({ · with behind := none })
      expect ')'
      let w := body.width (← get).widths
      if Width.furthest < w.least ∨ w.least ≠ w.most then modify ({ · with refused := true })
      return some (.look (some w.least) (c == '!') body)
    | '(' =>
      let i ← conditionGroup
      let yes ← sequence fuel flags false []
      let no ← if ← skip '|' then sequence fuel flags false [] else pure []
      expect ')'
      return some (.whether i (Node.ofList yes) (Node.ofList no))
    | _ =>
      match ← groupFlags c with
      | none =>
        if !start then malformed
        return none
      | some (on, off) => return some (.group none (← inner fuel (flags.within on off)))

/-- The inside of a group, and its closing parenthesis. -/
def inner (fuel : Nat) (flags : Flags) : Reader Node :=
  match fuel with
  | 0 => malformed
  | fuel + 1 => do
    let body ← alternatives fuel flags false false
    expect ')'
    return body

/-- The inside of a numbered group. -/
def numbered (fuel : Nat) (flags : Flags) (i : Nat) : Reader Node :=
  match fuel with
  | 0 => malformed
  | fuel + 1 => do
    let body ← inner fuel flags
    modify fun s => { s with widths := (i, body.width s.widths) :: s.widths }
    return .group (some i) body

end

/-- A whole pattern. -/
def whole (fuel : Nat) : Reader Compiled := do
  if (← peek) = some .dangling then malformed
  let node ← alternatives fuel {} true true
  let s ← get
  if s.flags.ascii && s.flags.unicode then throw .flagsContradict
  if !s.rest.isEmpty || s.groups < s.asked || s.refused then malformed
  return ⟨node, s.groups⟩

/-- Reads the text of a pattern.  Every round of the reader takes a token or
    enters a part that takes one, five rounds at most for each. -/
def read (s : String) : Except Problem Compiled :=
  let ts := tokens s.toList
  (whole (6 * ts.length + 12)).run' { rest := ts }

end Formulary.Pattern
