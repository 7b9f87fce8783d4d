import Courier.Json.Value

/-!
# Fields left out where they are empty

The written form of a record leaves out texts, lists, dictionaries, flags and numbers that say
nothing.
-/

namespace Courier.Json

/-- A field for a text, left out where it is empty. -/
def textField (key text : String) : List (String × Value) :=
  if text = "" then [] else [(key, .str text)]

/-- A field for a list of texts, left out where it is empty. -/
def textsField (key : String) (texts : List String) : List (String × Value) :=
  if texts = [] then [] else [(key, .strings texts)]

/-- A field for a dictionary, left out where it is empty. -/
def dictField (key : String) (fields : Dict Value) : List (String × Value) :=
  if fields.isEmpty then [] else [(key, .ofDict fields)]

/-- A field for a flag, left out where it is not set. -/
def flagField (key : String) (flag : Bool) : List (String × Value) :=
  if flag then [(key, .bool true)] else []

/-- A field for a number, left out where it is zero. -/
def countField (key : String) (n : Nat) : List (String × Value) :=
  if n = 0 then [] else [(key, .int n)]

/-- A field for a value, left out where there is none. -/
def optionField (key : String) (value : Option Value) : List (String × Value) :=
  (value.map fun v => (key, v)).toList

end Courier.Json
