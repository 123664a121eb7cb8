/-
  Electronic mail addresses: a mailbox, an at sign and a domain name.

  A mailbox is a sequence of words with a full stop between each two.  A domain
  name has at least two labels, ends in a letter, is no name reserved for other
  uses, and can be written in ASCII; it is made uniform before it is read.  The
  whole is at most 254 bytes long, as given, made uniform, and in ASCII.
-/
import Formulary.Address.Label
import Formulary.Address.Mapping
import Formulary.Text.Printable

namespace Formulary.Address

/-! ## Characters -/

/-- The characters of words in ASCII. -/
def isWordChar (c : Char) : Bool :=
  c.isAlphanum || "_!#$%&'*+-/=?^\x60\x7b|\x7d~".toList.contains c

/-- The characters of host names in ASCII. -/
def isHostChar (c : Char) : Bool := c.isAlphanum || c == '-' || c == '.'

/-- Whether a text is safe to show beside others: it has no invisible
    characters and does not combine with what stands before it. -/
def isSafe (s : List Char) : Bool :=
  s.all Printable.mem && !s.head?.any Letter.isCombining

/-- A text cut at each full stop. -/
def labels (s : List Char) : List (List Char) := s.splitOn '.'

/-! ## Mailboxes -/

/-- Whether a text is words of some characters with full stops between them. -/
def isWords (p : Char → Bool) (s : List Char) : Bool :=
  (labels s).all fun w => !w.isEmpty && w.all p

/-- Whether a text is a mailbox. -/
def isMailbox (s : List Char) : Bool :=
  isWords isWordChar s || (isWords (fun c => isWordChar c || 128 ≤ c.toNat) s && isSafe s)

/-! ## Domain names -/

/-- Top-level domains that no mail is sent to. -/
def reserved : List String := ["arpa", "invalid", "local", "localhost", "onion", "test"]

/-- Whether a label has hyphens at its third and fourth place without standing
    for one of another script. -/
def isReservedLabel (s : List Char) : Bool :=
  (s.drop 2).take 2 == ['-', '-'] && (s.take 2).map Char.toLower != ['x', 'n']

/-- A domain name in two forms. -/
structure Domain where
  ascii : List Char
  unicode : List Char

/-- Whether a text has only characters of host names and of other scripts. -/
def isPermitted (s : List Char) : Bool := s.all fun c => isHostChar c || 128 ≤ c.toNat

/-- Whether a label may stand in a domain name. -/
def isLabel (l : List Char) : Bool :=
  !l.isEmpty && l.head? != some '-' && l.getLast? != some '-' && !isReservedLabel l

/-- Whether the labels in ASCII end in one that mail may be sent to. -/
def isRouted (ascii : List (List Char)) : Bool :=
  ascii.all (·.length ≤ 63) && 2 ≤ ascii.length
    && ascii.getLast?.any fun top =>
      top.getLast?.any Char.isAlpha && !reserved.contains (String.ofList top)

/-- The labels with a full stop between each two. -/
def joined (ls : List (List Char)) : List Char := ['.'].intercalate ls

/-- The domain name of a text. -/
def domain? (s : List Char) : Option Domain := do
  guard (isPermitted s && isSafe s)
  let s := Composed.ofText (← Mapping.ofText? s)
  let parts := labels s
  guard (isPermitted s && parts.all isLabel)
  let ascii ← if Label.isAscii s then some parts else parts.mapM Label.toAscii?
  guard (isRouted ascii)
  let unicode ← ascii.mapM Label.ofAscii?
  let again ← unicode.mapM Label.toAscii?
  guard ((joined again).length ≤ 253)
  return ⟨joined ascii, joined unicode⟩

/-! ## Addresses -/

/-- The number of bytes of a text. -/
def size (s : List Char) : Nat := (String.ofList s).utf8ByteSize

/-- Whether a text is an address. -/
def isValid (s : String) : Bool :=
  let cs := s.toList
  let mailbox := cs.takeWhile (· ≠ '@')
  let rest := cs.dropWhile (· ≠ '@')
  let normal := Composed.ofText mailbox
  !rest.isEmpty && isMailbox mailbox && isMailbox normal
    && (domain? (rest.drop 1)).any fun d =>
      size cs ≤ 254 && size (normal ++ '@' :: d.unicode) ≤ 254
        && size (normal ++ '@' :: d.ascii) ≤ 254

end Formulary.Address
