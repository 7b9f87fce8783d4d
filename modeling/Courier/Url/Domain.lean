import Courier.Text.Direction
import Courier.Text.Folding
import Courier.Text.Joining
import Courier.Text.Mark
import Courier.Text.Utf8
import Courier.Url.Punycode

/-!
# Domain names

A domain is compared and sent in ASCII: folded, composed, and a label with other characters as
`xn--` and its punycode. A label that is written like this already has to write a folded and
composed label. What looks different elsewhere, or does not look like itself, is no domain.
-/

namespace Courier.Domain

/-! ## Labels -/

/-- A label as it is shown, and as it is written in ASCII. -/
structure Label where
  shown : List Char
  written : List Char
  deriving DecidableEq, Repr, Inhabited

/-- Whether all characters are ASCII. -/
def isAscii (label : List Char) : Bool := label.all (·.toNat < 0x80)

/-- What a label in punycode begins with. -/
def punycodeMark : List Char := ['x', 'n', '-', '-']

/-- The longest label that is written in punycode. -/
def longestShown : Nat := 1000

/-- The longest punycode that is read. -/
def longestCode : Nat := 2000

/-- Whether a label is folded and composed. -/
def isNormal (label : List Char) : Bool :=
  label.all (fun c => Text.fold? c == some [c]) && Text.compose label == label

/-- Whether a label beyond ASCII can stand by itself: it starts with no mark, and its joiners can be
    seen to work. -/
def isSound (label : List Char) : Bool :=
  label.length ≤ longestShown && !label.head?.any Text.isMark && Text.Joining.isFitting [] label

/-- Reads the label that punycode writes. -/
def ofCode? (code : List Char) : Option (List Char) :=
  if isAscii code && code.getLast? != some '-' && code.length ≤ longestCode && !code.isEmpty then
    (Punycode.read? code).filter fun label => isNormal label && isSound label
  else none

/-- The label of folded and composed characters. -/
def Label.of? (label : List Char) : Option Label :=
  if punycodeMark.isPrefixOf label then
    (ofCode? (label.drop punycodeMark.length)).map fun shown => ⟨shown, label⟩
  else if isAscii label then some ⟨label, label⟩
  else if isSound label then some ⟨label, punycodeMark ++ Punycode.write label⟩
  else none

/-! ## Names -/

/-- ASCII characters that no domain holds. -/
def forbidden (c : Char) : Bool :=
  c.toNat ≤ 0x20 || c.toNat == 0x7F ||
    c ∈ ['%', '#', '/', ':', '<', '>', '?', '@', '[', '\\', ']', '^', '|']

/-- Splits at every dot. -/
def labels (name : List Char) : List (List Char) := name.splitOn '.'

/-- Whether every label is of one direction, if any character runs from right to left. -/
def isDirected (labels : List Label) : Bool :=
  !labels.any (fun label => label.shown.any fun c => (Text.Direction.ofChar c).turns) ||
    labels.all fun label => Text.Direction.isUniform label.shown

/-- The ASCII form of a domain, given by its bytes. -/
def ascii? (bytes : List UInt8) : Option (List Char) := do
  let text ← Utf8.decodeText? bytes
  let name ← text.toList.mapM Text.fold?
  let labels ← (labels (Text.compose name.flatten)).mapM Label.of?
  let joined := [('.' : Char)].intercalate (labels.map (·.written))
  if joined.any forbidden || !isDirected labels then none else some joined

end Courier.Domain
