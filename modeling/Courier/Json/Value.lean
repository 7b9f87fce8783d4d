import Courier.Dict

/-!
# JSON values

Results:

* `Value.field?_ofDict`: an object made from a dictionary has its fields.
* `Value.ofDict_inj`, `Value.strings_inj`: objects and arrays made from different ones differ.
-/

namespace Courier.Json

/-- A number is a 64-bit integer, signed or not, or a finite double given by its shortest text. -/
inductive Number
  | int (value : Int)
  | float (text : String)
  deriving DecidableEq, Repr, Inhabited

/-- A JSON value. The fields of an object stand in the order in which they are written. -/
inductive Value
  | null
  | bool (value : Bool)
  | num (value : Number)
  | str (text : String)
  | arr (items : List Value)
  | obj (fields : List (String × Value))
  deriving Inhabited

namespace Value

/-- An integer. -/
def int (n : Int) : Value := .num (.int n)

/-- A list of texts. -/
def strings (texts : List String) : Value := .arr (texts.map .str)

/-- An object whose fields stand in key order. -/
def ofDict (fields : Dict Value) : Value := .obj fields.entries

/-- The field of an object; `none` for a missing field and for anything but an object. -/
def field? (key : String) : Value → Option Value
  | obj fields => fields.lookup key
  | _ => none

/-- The text of a string. -/
def text? : Value → Option String
  | str text => some text
  | _ => none

/-- The value of an integer. -/
def int? : Value → Option Int
  | num (.int n) => some n
  | _ => none

/-- The value of a boolean. -/
def bool? : Value → Option Bool
  | bool b => some b
  | _ => none

/-- The items of an array. -/
def items? : Value → Option (List Value)
  | arr items => some items
  | _ => none

@[simp] theorem field?_ofDict (fields : Dict Value) (key : String) :
    (ofDict fields).field? key = fields.get? key := rfl

theorem ofDict_inj {d e : Dict Value} : ofDict d = ofDict e ↔ d = e := by
  cases d
  cases e
  simp [ofDict]

theorem strings_inj {s t : List String} : strings s = strings t ↔ s = t := by
  rw [strings, strings, arr.injEq, List.map_inj_right fun _ _ h => str.inj h]

end Value

end Courier.Json
