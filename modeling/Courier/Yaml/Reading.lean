import Courier.Yaml.Document
import Courier.Yaml.Spelling

/-!
# Typed reading of settings

A field that asks for a text takes a scalar as it is written, whatever it would stand for elsewhere.
A truth value or a number is a scalar without quotes. An alias is followed wherever a value is
asked for, but not without end.
-/

namespace Courier.Yaml

/-- A value read from a document, with the number of aliases that may still be followed. -/
abbrev Reading (α : Type) : Type := ReaderT Document (StateT Nat Option) α

/-- How often aliases may be followed for each part of a document. -/
def followsPerPart : Nat := 100

/-- Reads a value from a document. -/
def Document.read? {α : Type} (d : Document) (read : Node → Reading α) : Option α :=
  ((read d.root).run d).run' (followsPerPart * d.size)

/-! ## Tags -/

/-- The tag of a kind of value that all documents know. -/
def coreTag (kind : String) : Option String := some ("tag:yaml.org,2002:" ++ kind)

/-- Whether a scalar may stand for a value of a kind: without quotes, or on lines of its own if its
    tag says so. -/
def isOpen (kind : String) (style : Style) (tag : Option String) : Bool :=
  style == .plain || (style == .literal && tag == coreTag kind)

namespace Reading

/-- The node that a node stands for. -/
def follow (n : Node) : Reading Node :=
  match n with
  | .alias number => do
    match ← get with
    | 0 => failure
    | left + 1 =>
      set left
      (← read).nodes[number]?.elim failure pure
  | n => pure n

/-! ## Scalars -/

/-- The text of a scalar as it is written. -/
def text (n : Node) : Reading String := do
  match ← follow n with
  | .scalar _ _ text => pure text
  | _ => failure

/-- A truth value. -/
def truth (n : Node) : Reading Bool := do
  match ← follow n with
  | .scalar style tag text => if isOpen "bool" style tag then bool? text else failure
  | _ => failure

/-- The integer that a scalar stands for, if it lies within closed bounds. -/
def boundedInt? (low high : Int) (style : Style) (tag : Option String) (text : String) :
    Option Int :=
  if isOpen "int" style tag then (int? text).filter fun n => low ≤ n ∧ n ≤ high else none

/-- An integer within closed bounds. -/
def int (low high : Int) (n : Node) : Reading Int := do
  match ← follow n with
  | .scalar style tag text => boundedInt? low high style tag text
  | _ => failure

/-- A natural number up to a bound, written without a minus. -/
def nat (high : Nat) (n : Node) : Reading Nat := do
  match ← follow n with
  | .scalar style tag text =>
    if hasMinus text then failure
    else (boundedInt? 0 high style tag text).map Int.toNat
  | _ => failure

/-- Whether a node stands for nothing. A tag may say so, and then its text has to. -/
def isNothing? : Node → Option Bool
  | .scalar .plain tag text =>
    if tag = coreTag "null" then if isNull text then some true else none
    else some (tag.isNone && (text == "" || isNull text))
  | _ => some false

/-- A value that may be left out. -/
def optional {α : Type} (read : Node → Reading α) (n : Node) : Reading (Option α) := do
  let n ← follow n
  if ← isNothing? n then pure none else some <$> read n

/-! ## Collections -/

/-- The items of a list; nothing written is an empty one. -/
def items {α : Type} (read : Node → Reading α) (n : Node) : Reading (List α) := do
  match ← follow n with
  | .list _ items => items.mapM read
  | .scalar .plain _ "" => pure []
  | _ => failure

/-- The fields of a record by the texts of their keys; nothing written is an empty one. -/
def fields (n : Node) : Reading (List (String × Node)) := do
  match ← follow n with
  | .map _ fields => fields.mapM fun (key, value) => do pure (← text key, value)
  | .scalar .plain _ "" => pure []
  | _ => failure

end Reading

/-- The known fields of a record, of which each occurs at most once. -/
def known? {α : Type} (names : List String) : List (String × α) → Option (List (String × α))
  | [] => some []
  | (key, value) :: rest => do
    let record ← known? names rest
    if key ∈ names then
      if (record.lookup key).isSome then none else some ((key, value) :: record)
    else some record

namespace Reading

/-- The known fields of a record. -/
def record (names : List String) (n : Node) : Reading (List (String × Node)) := do
  known? names (← fields n)

/-- A field that must be there. -/
def required {α : Type} (r : List (String × Node)) (name : String) (read : Node → Reading α) :
    Reading α := do
  read (← r.lookup name)

/-- A field that stands for `default` where it is missing. -/
def defaulting {α : Type} (r : List (String × Node)) (name : String) (default : α)
    (read : Node → Reading α) : Reading α :=
  match r.lookup name with
  | none => pure default
  | some n => read n

end Reading

end Courier.Yaml
