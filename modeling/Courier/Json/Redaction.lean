import Courier.Json.Value

/-!
# Values without their texts

For diagnostics a value is shown with every string replaced by one and the same mark. Field names,
numbers and the structure stay.
-/

namespace Courier.Json.Value

/-- What stands in place of every string. -/
def mark : String := "*"

mutual

/-- Replaces every string of a value. Model of `json_without_secrets`. -/
def redact : Value → Value
  | .null => .null
  | .bool b => .bool b
  | .num n => .num n
  | .str _ => .str mark
  | .arr items => .arr (redactItems items)
  | .obj fields => .obj (redactFields fields)

/-- Replaces every string of some values. -/
def redactItems : List Value → List Value
  | [] => []
  | v :: rest => v.redact :: redactItems rest

/-- Replaces every string in the values of some fields. -/
def redactFields : List (String × Value) → List (String × Value)
  | [] => []
  | (key, v) :: rest => (key, v.redact) :: redactFields rest

end

/-! ## Skeletons -/

mutual

/-- Two values agree but for their strings. -/
inductive SameSkeleton : Value → Value → Prop
  | null : SameSkeleton .null .null
  | bool (b : Bool) : SameSkeleton (.bool b) (.bool b)
  | num (n : Number) : SameSkeleton (.num n) (.num n)
  | str (s t : String) : SameSkeleton (.str s) (.str t)
  | arr {l m : List Value} : SameSkeletons l m → SameSkeleton (.arr l) (.arr m)
  | obj {l m : List (String × Value)} : SameFields l m → SameSkeleton (.obj l) (.obj m)

/-- Two lists agree item by item but for their strings. -/
inductive SameSkeletons : List Value → List Value → Prop
  | nil : SameSkeletons [] []
  | cons {v w : Value} {l m : List Value} :
      SameSkeleton v w → SameSkeletons l m → SameSkeletons (v :: l) (w :: m)

/-- Two lists of fields agree field by field, keys included, but for the strings in the values. -/
inductive SameFields : List (String × Value) → List (String × Value) → Prop
  | nil : SameFields [] []
  | cons (key : String) {v w : Value} {l m : List (String × Value)} :
      SameSkeleton v w → SameFields l m → SameFields ((key, v) :: l) ((key, w) :: m)

end

end Courier.Json.Value
