import Courier.Json.Token

/-!
# JSON documents

The tree of a document, without any limit on its depth, on its numbers or on the strings that
nobody looks at. `Document.parse?` accepts exactly one value between blanks.

Results:

* `Document.runFrom_append`: reading tokens in two parts.
-/

namespace Courier.Json

/-- A document as written: fields in their order, also repeated ones. -/
inductive Document
  | null
  | bool (value : Bool)
  | num (value : Numeral)
  | str (content : Option String)
  | arr (items : List Document)
  | obj (fields : List (Option String × Document))
  deriving Inhabited

namespace Document

/-- A container that is still being read, with its finished members, last one first. -/
inductive Frame
  | items (done : List Document)
  | fields (done : List (Option String × Document))
  | field (done : List (Option String × Document)) (key : Option String)
  deriving Inhabited

/-- What may come next. -/
inductive State
  | value (outer : List Frame)
  | item (outer : List Frame)
  | firstKey (outer : List Frame)
  | key (done : List (Option String × Document)) (outer : List Frame)
  | colon (done : List (Option String × Document)) (key : Option String) (outer : List Frame)
  | next (inner : Frame) (outer : List Frame)
  | whole (document : Document)
  deriving Inhabited

/-- Puts a finished value into the container around it. -/
def place (d : Document) : List Frame → State
  | [] => .whole d
  | .items done :: outer => .next (.items (d :: done)) outer
  | .fields done :: outer => .next (.fields done) outer
  | .field done key :: outer => .next (.fields ((key, d) :: done)) outer

/-- Reads the first token of a value. -/
def beginValue (outer : List Frame) : Token → Option State
  | .null => some (place .null outer)
  | .bool b => some (place (.bool b) outer)
  | .num n => some (place (.num n) outer)
  | .str s => some (place (.str s) outer)
  | .mark '[' => some (.item outer)
  | .mark '\x7b' => some (.firstKey outer)
  | .mark _ => none

/-- Reads one token. -/
def step : State → Token → Option State
  | .value outer, t => beginValue outer t
  | .item outer, .mark ']' => some (place (.arr []) outer)
  | .item outer, t => beginValue (.items [] :: outer) t
  | .firstKey outer, .mark '\x7d' => some (place (.obj []) outer)
  | .firstKey outer, .str key => some (.colon [] key outer)
  | .key done outer, .str key => some (.colon done key outer)
  | .colon done key outer, .mark ':' => some (.value (.field done key :: outer))
  | .next (.items done) outer, .mark ',' => some (.value (.items done :: outer))
  | .next (.items done) outer, .mark ']' => some (place (.arr done.reverse) outer)
  | .next (.fields done) outer, .mark ',' => some (.key done outer)
  | .next (.fields done) outer, .mark '\x7d' => some (place (.obj done.reverse) outer)
  | _, _ => none

/-- Reads all tokens. -/
def runFrom (s : State) (tokens : List Token) : Option State := tokens.foldlM step s

/-- The document that tokens write. -/
def ofTokens? (tokens : List Token) : Option Document :=
  match runFrom (.value []) tokens with
  | some (.whole d) => some d
  | _ => none

/-- The document that characters write, with `none` for a damaged character. -/
def ofChars? (text : List (Option Char)) : Option Document :=
  (Token.lex? text).bind ofTokens?

/-- The document that bytes write. -/
def parse? (bytes : List UInt8) : Option Document := ofChars? (Utf8.decode bytes)

/-- The document that a text writes. -/
def ofText? (text : String) : Option Document := ofChars? (text.toList.map some)

theorem runFrom_append (s : State) (l m : List Token) :
    runFrom s (l ++ m) = (runFrom s l).bind fun s => runFrom s m := by
  simp [runFrom, List.foldlM_append, Option.bind_eq_bind]

/-! ## Values -/

/-- The number of containers that may be nested. -/
def depthLimit : Nat := 127

mutual

/-- The value of a document that stands inside `depth` containers. Of fields with one key the last
    one counts, and fields come out in key order. Too deep a nesting, too large a number and an
    unreadable string have no value. -/
def value? (depth : Nat) : Document → Option Value
  | .null => some .null
  | .bool b => some (.bool b)
  | .num n => n.number?.map .num
  | .str content => content.map .str
  | .arr items =>
    if depth < depthLimit then (values? (depth + 1) items).map .arr else none
  | .obj fields =>
    if depth < depthLimit then (fieldValues? (depth + 1) fields).map fun l => .ofDict (.ofList l)
    else none

/-- The values of all items. -/
def values? (depth : Nat) : List Document → Option (List Value)
  | [] => some []
  | d :: rest => do
    let v ← value? depth d
    let vs ← values? depth rest
    some (v :: vs)

/-- The values of all fields. -/
def fieldValues? (depth : Nat) : List (Option String × Document) → Option (List (String × Value))
  | [] => some []
  | (key, d) :: rest => do
    let key ← key
    let v ← value? depth d
    let vs ← fieldValues? depth rest
    some ((key, v) :: vs)

end

/-! ## Typed reading -/

/-- The text of a readable string. -/
def text? : Document → Option String
  | .str content => content
  | _ => none

/-- The truth value. -/
def bool? : Document → Option Bool
  | .bool b => some b
  | _ => none

/-- The value of an integer within closed bounds. -/
def int? (low high : Int) : Document → Option Int
  | .num n => n.int? low high
  | _ => none

/-- The items of an array, each read in one way. -/
def list? {α : Type} (item : Document → Option α) : Document → Option (List α)
  | .arr items => items.mapM item
  | _ => none

/-- A dictionary with texts for values. Of fields with one key the last one counts. -/
def texts? : Document → Option (Dict String)
  | .obj fields => do
    let l ← fields.mapM fun f => do some (← f.1, ← f.2.text?)
    some (.ofList l)
  | _ => none

/-- One of several names, with what it stands for. It is written as a text, or as an object in which
    it is the only key and stands at null. -/
def choice? {α : Type} (choices : List (String × α)) : Document → Option α
  | .str name => name.bind (List.lookup · choices)
  | .obj [(name, .null)] => name.bind (List.lookup · choices)
  | _ => none

/-- `none` for null, and a value read in one way otherwise. -/
def optional? {α : Type} (read : Document → Option α) : Document → Option (Option α)
  | .null => some none
  | d => (read d).map some

/-- The known fields of a record, of which each occurs at most once. -/
abbrev Record := List (String × Document)

/-- Picks the known fields out of written ones. Their keys must be readable, unknown ones are
    skipped, and a known one may not come twice. -/
def pick? (names : List String) : List (Option String × Document) → Option Record
  | [] => some []
  | (key, d) :: rest => do
    let key ← key
    let record ← pick? names rest
    if key ∈ names then
      if (record.lookup key).isSome then none else some ((key, d) :: record)
    else some record

/-- The fields of a record, which is written as an object or as an array of its fields in order. -/
def record? (names : List String) : Document → Option Record
  | .obj fields => pick? names fields
  | .arr items => if items.length ≤ names.length then some (names.zip items) else none
  | _ => none

/-- A field that must be there. -/
def Record.required? {α : Type} (r : Record) (name : String) (read : Document → Option α) :
    Option α :=
  (r.lookup name).bind read

/-- A field that stands for `default` where it is missing. -/
def Record.default? {α : Type} (r : Record) (name : String) (default : α)
    (read : Document → Option α) : Option α :=
  match r.lookup name with
  | none => some default
  | some d => read d

end Document

end Courier.Json
