import Courier.Yaml.Glyph
import Courier.Yaml.Token

/-!
# Names of nodes

An anchor names a node, and an alias stands for the node of that name. A tag says what a node is. It
is written whole between angle brackets, or with a handle for its start. A tag is the octets of its
characters, of which some are written as a percent sign and two digits.
-/

namespace Courier.Yaml.Name

open Glyph

/-- Splits off the longest word of some characters. -/
def span (isPart : Char → Bool) (text : List Glyph) : List Char × List Glyph :=
  ((text.takeWhile fun g => isPart g.char).map Glyph.char, text.dropWhile fun g => isPart g.char)

/-! ## Anchors -/

/-- Whether a character may follow an anchor. -/
def endsAnchor (c : Char) : Bool :=
  endsWord c || c ∈ ['?', ':', ',', ']', '\x7d', '%', '@', '\x60']

/-- Reads the name of an anchor or an alias. -/
def anchor? (text : List Glyph) : Option (String × List Glyph) :=
  let (name, rest) := span isNameChar text
  if name ≠ [] ∧ endsAnchor (next rest) then some (String.ofList name, rest) else none

/-! ## Tags -/

/-- Whether a character may stand in a tag; some only between angle brackets. -/
def isTagChar (bracketed : Bool) (c : Char) : Bool :=
  isNameChar c ||
    c ∈ ['%', ';', '/', '?', ':', '@', '&', '=', '+', '$', '.', '!', '~', '*', '\'', '(', ')'] ||
    (bracketed && c ∈ [',', '[', ']'])

/-- The octets that characters stand for. -/
def octets? : List Char → Option (List Nat)
  | [] => some []
  | '%' :: a :: b :: rest => do
    let high ← hexDigit? a
    let low ← hexDigit? b
    some ((high * 16 + low) :: (← octets? rest))
  | c :: rest => if c = '%' then none else (octets? rest).map (c.toNat :: ·)

/-- How many octets of a character follow its first one. -/
def following? (octet : Nat) : Option Nat :=
  if octet / 128 = 0 then some 0
  else if octet / 32 = 6 then some 1
  else if octet / 16 = 14 then some 2
  else if octet / 8 = 30 then some 3
  else none

/-- How many octets of a character follow after another one. -/
def remaining? (expected octet : Nat) : Option Nat :=
  if expected = 0 then following? octet
  else if octet / 64 = 2 then some (expected - 1)
  else none

/-- Reads characters of a tag, perhaps none. No character may break off. -/
def tagText? (bracketed : Bool) (text : List Glyph) : Option (String × List Glyph) := do
  let (chars, rest) := span (isTagChar bracketed) text
  let octets ← octets? chars
  if octets.foldlM remaining? 0 = some 0 then
    some (String.ofList (octets.map Char.ofNat), rest)
  else none

/-- Reads characters of a tag, at least one. -/
def tagWord? (bracketed : Bool) (text : List Glyph) : Option (String × List Glyph) :=
  (tagText? bracketed text).filter fun p => p.1 ≠ ""

/-- A handle as written: a name between exclamation marks. -/
def handle (name : List Char) : String := String.ofList ('!' :: (name ++ ['!']))

/-- Reads the tag that an exclamation mark starts, up to its end. -/
def tagToken? (text : List Glyph) : Option (Token × List Glyph) :=
  let rest := text.drop 1
  if next rest = '<' then do
    let (suffix, rest) ← tagWord? true (rest.drop 1)
    if next rest = '>' then some (.tag "" suffix, rest.drop 1) else none
  else
    let (name, after) := span isNameChar rest
    if next after = '!' then do
      let (suffix, rest) ← tagWord? false (after.drop 1)
      some (.tag (handle name) suffix, rest)
    else do
      let (suffix, rest) ← tagText? false rest
      some (if suffix = "" then .tag "" "!" else .tag "!" suffix, rest)

/-- Reads a tag. -/
def tag? (inFlow : Bool) (text : List Glyph) : Option (Token × List Glyph) :=
  (tagToken? text).filter fun p => endsWord (next p.2) || (inFlow && next p.2 == ',')

end Courier.Yaml.Name
