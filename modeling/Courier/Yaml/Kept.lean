import Courier.Text.Utf8
import Courier.Yaml.Reading

/-!
# Values kept before their type is known

Which fields a record has may depend on one of them. All its values are then kept as what they stand
for by themselves, and have to stand for something.
-/

namespace Courier.Yaml

/-- What a value stands for by itself, as far as that matters. -/
inductive Kept
  | nothing
  | truth (value : Bool)
  | natural (value : Nat)
  | negative (value : Int)
  | decimal
  | text (value : String)
  | collection
  deriving DecidableEq, Repr, Inhabited

namespace Kept

/-! ## Scalars -/

/-- The kept form of an integer, which has 64 bits, or 128 in part of its range: then there is none
    although the spelling is that of an integer. A spelling with a minus is no natural number. -/
def integer? (text : String) : Option (Option Kept) :=
  match int? text with
  | none => none
  | some n =>
    if hasMinus text then
      if -Nat.pow 2 63 ≤ n then some (some (.negative n))
      else if -Nat.pow 2 127 ≤ n then some none
      else none
    else if n < Nat.pow 2 64 then some (some (.natural n.toNat))
    else if n < Nat.pow 2 128 then some none
    else none

/-- What a scalar without quotes and tag stands for. -/
def ofPlain? (text : String) : Option Kept :=
  if text = "" ∨ isNull text then some .nothing
  else
    match bool? text, integer? text with
    | some b, _ => some (.truth b)
    | none, some kept => kept
    | none, none => some (if isFloat text then .decimal else .text text)

/-- Whether a tag is one of the document's own, of which nothing is known. -/
def isForeign (tag : String) : Bool :=
  tag.startsWith "!" && (Utf8.decodeText? (tag.toList.map fun c => c.toNat.toUInt8)).isSome

/-- What a scalar stands for. A tag may say what it has to be. -/
def ofScalar? (style : Style) (tag : Option String) (text : String) : Option Kept :=
  match tag with
  | none => if style = .plain then ofPlain? text else some (.text text)
  | some t =>
    if tag = coreTag "bool" then (bool? text).map .truth
    else if tag = coreTag "int" then (integer? text).join
    else if tag = coreTag "float" then if isNumber text then some .decimal else none
    else if tag = coreTag "null" then if isNull text then some .nothing else none
    else if isForeign t then none
    else if style = .plain ∧ t.startsWith "!" then ofPlain? text
    else some (.text text)

/-! ## Nodes -/

/-- What a node stands for, with so many collections inside one another at most. -/
def ofNode (depth : Nat) (n : Node) : Reading Kept := do
  match depth, ← Reading.follow n with
  | _, .scalar style tag spelling => ofScalar? style tag spelling
  | depth + 1, .list tag items =>
    if tag.any isForeign then failure
    else
      items.forM fun item => discard (ofNode depth item)
      pure .collection
  | depth + 1, .map tag fields =>
    if tag.any isForeign then failure
    else
      fields.forM fun (key, value) => do
        discard (ofNode depth key)
        discard (ofNode depth value)
      pure .collection
  | _, _ => failure

/-! ## Types -/

/-- A text. -/
def text? : Kept → Option String
  | text value => some value
  | _ => none

/-- A text that may be left out. -/
def optionalText? : Kept → Option (Option String)
  | nothing => some none
  | kept => kept.text?.map some

/-- One of some names, or its index. -/
def choice? {α : Type} (choices : List (String × α)) : Kept → Option α
  | text value => choices.lookup value
  | natural value => choices[value]?.map Prod.snd
  | _ => none

end Kept

end Courier.Yaml
