import Courier.Json.Redaction

/-!
# What a redacted value shows

A place in a value is reached by saying at each level which member to go on with. What stands there
is a null, a boolean, a number, some text, an array of so many items or an object with certain keys.
Values that look alike in this sense at every place are redacted alike, and no others are.

Results:

* `Value.at?_redact`: every place of a redacted value holds what was there, redacted.
* `Value.redact_eq_of_sameSkeleton`, `Value.sameSkeleton_of_shapes`: skeletons are what redacting
  keeps, and are known from the shapes at all places.
* `Value.redact_hides`: what redacting hides, and what it keeps.
-/

namespace Courier.Json.Value

/-! ## Places -/

/-- What stands at one place of a value, whatever a text says. -/
inductive Shape
  | null
  | bool (value : Bool)
  | num (value : Number)
  | str
  | arr (length : Nat)
  | obj (keys : List String)
  deriving DecidableEq, Repr

/-- The shape of a value. -/
def shape : Value → Shape
  | .null => .null
  | .bool b => .bool b
  | .num n => .num n
  | .str _ => .str
  | .arr items => .arr items.length
  | .obj fields => .obj (fields.map (·.1))

/-- The items of an array, or the values in the fields of an object. -/
def members : Value → List Value
  | .arr items => items
  | .obj fields => fields.map (·.2)
  | _ => []

/-- The value at a place, which is given by the numbers of the members that lead there. -/
def at? : List Nat → Value → Option Value
  | [], v => some v
  | i :: path, v => v.members[i]?.bind (at? path)

/-- Two values have the same shape at every place. -/
def SameShapes (v w : Value) : Prop :=
  ∀ path, (v.at? path).map shape = (w.at? path).map shape

/-! ## Places of redacted values -/

theorem redactItems_eq_map (items : List Value) : redactItems items = items.map redact := by
  induction items with
  | nil => rfl
  | cons v rest ih => rw [redactItems, ih, List.map_cons]

theorem redactFields_eq_map (fields : List (String × Value)) :
    redactFields fields = fields.map fun f => (f.1, f.2.redact) := by
  induction fields with
  | nil => rfl
  | cons f rest ih => rw [redactFields, ih, List.map_cons]

theorem shape_redact (v : Value) : v.redact.shape = v.shape := by
  cases v with
  | arr items => rw [redact, shape, shape, redactItems_eq_map, List.length_map]
  | obj fields => rw [redact, shape, shape, redactFields_eq_map, List.map_map]; rfl
  | _ => rfl

theorem members_redact (v : Value) : v.redact.members = v.members.map redact := by
  cases v with
  | arr items => exact redactItems_eq_map items
  | obj fields =>
    rw [redact, members, members, redactFields_eq_map, List.map_map, List.map_map]
    rfl
  | _ => rfl

/-- Every place of a redacted value holds what was there, redacted. -/
theorem at?_redact (path : List Nat) (v : Value) :
    v.redact.at? path = (v.at? path).map redact := by
  induction path generalizing v with
  | nil => rfl
  | cons i path ih =>
    rw [at?, at?, members_redact, List.getElem?_map]
    cases v.members[i]? with
    | none => rfl
    | some w => exact ih w

theorem sameShapes_redact (v : Value) : SameShapes v.redact v := by
  intro path
  rw [at?_redact, Option.map_map]
  congr 1
  funext w
  exact shape_redact w

theorem sameShapes_of_redact_eq {v w : Value} (h : v.redact = w.redact) : SameShapes v w :=
  fun path => by rw [← sameShapes_redact v path, h, sameShapes_redact w path]

/-! ## Skeletons -/

mutual

/-- Values with one skeleton are redacted alike. -/
theorem redact_eq_of_sameSkeleton : ∀ {v w : Value}, SameSkeleton v w → v.redact = w.redact
  | _, _, .null => rfl
  | _, _, .bool _ => rfl
  | _, _, .num _ => rfl
  | _, _, .str _ _ => rfl
  | _, _, .arr h => congrArg arr (redactItems_eq_of_sameSkeletons h)
  | _, _, .obj h => congrArg obj (redactFields_eq_of_sameFields h)

theorem redactItems_eq_of_sameSkeletons : ∀ {l m : List Value}, SameSkeletons l m →
    redactItems l = redactItems m
  | _, _, .nil => rfl
  | _, _, .cons hv hl => by
    rw [redactItems, redactItems, redact_eq_of_sameSkeleton hv,
      redactItems_eq_of_sameSkeletons hl]

theorem redactFields_eq_of_sameFields : ∀ {l m : List (String × Value)}, SameFields l m →
    redactFields l = redactFields m
  | _, _, .nil => rfl
  | _, _, .cons key hv hl => by
    rw [redactFields, redactFields, redact_eq_of_sameSkeleton hv, redactFields_eq_of_sameFields hl]

end

/-- Two lists of values have the same shapes, member by member. -/
def SameMembers (l m : List Value) : Prop :=
  ∀ (i : Nat) (path : List Nat),
    (l[i]?.bind (at? path)).map shape = (m[i]?.bind (at? path)).map shape

theorem SameShapes.members {v w : Value} (h : SameShapes v w) :
    SameMembers v.members w.members := fun i path => h (i :: path)

theorem SameMembers.head {v w : Value} {l m : List Value} (h : SameMembers (v :: l) (w :: m)) :
    SameShapes v w := fun path => h 0 path

theorem SameMembers.tail {v w : Value} {l m : List Value} (h : SameMembers (v :: l) (w :: m)) :
    SameMembers l m := fun i path => h (i + 1) path

mutual

/-- The shapes at all places make up the skeleton. -/
theorem sameSkeleton_of_shapes : ∀ {v w : Value}, SameShapes v w → SameSkeleton v w
  | v, w, h => by
    have hshape : v.shape = w.shape := Option.some.inj (h [])
    cases v with
    | null =>
      cases w with
      | null => exact .null
      | _ => cases hshape
    | bool b =>
      cases w with
      | bool c =>
        cases hshape
        exact .bool b
      | _ => cases hshape
    | num n =>
      cases w with
      | num k =>
        cases hshape
        exact .num n
      | _ => cases hshape
    | str s =>
      cases w with
      | str t => exact .str s t
      | _ => cases hshape
    | arr l =>
      cases w with
      | arr m => exact .arr (sameSkeletons_of_shapes (Shape.arr.inj hshape) h.members)
      | _ => cases hshape
    | obj l =>
      cases w with
      | obj m => exact .obj (sameFields_of_shapes (Shape.obj.inj hshape) h.members)
      | _ => cases hshape

theorem sameSkeletons_of_shapes : ∀ {l m : List Value}, l.length = m.length →
    SameMembers l m → SameSkeletons l m
  | [], [], _, _ => .nil
  | _ :: _, _ :: _, hlength, h =>
    .cons (sameSkeleton_of_shapes h.head) (sameSkeletons_of_shapes (Nat.succ.inj hlength) h.tail)

theorem sameFields_of_shapes : ∀ {l m : List (String × Value)}, l.map (·.1) = m.map (·.1) →
    SameMembers (l.map (·.2)) (m.map (·.2)) → SameFields l m
  | [], [], _, _ => .nil
  | (key, v) :: l, (other, w) :: m, hkeys, h => by
    obtain ⟨hkey, hrest⟩ := List.cons.inj hkeys
    obtain rfl : key = other := hkey
    exact .cons key (sameSkeleton_of_shapes h.head) (sameFields_of_shapes hrest h.tail)

end

/-- Redacting hides what the texts in a value say, and nothing else. Two values are redacted alike
    exactly if they have one skeleton, which is to say the same shape at every place. The result has
    this skeleton too: at every place it holds what was there, redacted, and its texts are marks
    where the value has texts. So redacting it again changes nothing. -/
theorem redact_hides (v w : Value) :
    (v.redact = w.redact ↔ SameSkeleton v w) ∧
    (SameSkeleton v w ↔ SameShapes v w) ∧
    (∀ path, v.redact.at? path = (v.at? path).map redact) ∧
    (∀ path text, v.redact.at? path = some (.str text) ↔
      text = mark ∧ ∃ secret, v.at? path = some (.str secret)) ∧
    v.redact.redact = v.redact := by
  have hshapes {v w : Value} (h : v.redact = w.redact) : SameSkeleton v w :=
    sameSkeleton_of_shapes (sameShapes_of_redact_eq h)
  refine ⟨⟨hshapes, redact_eq_of_sameSkeleton⟩, ⟨fun h => ?_, sameSkeleton_of_shapes⟩,
    fun path => at?_redact path v, fun path text => ?_, ?_⟩
  · exact sameShapes_of_redact_eq (redact_eq_of_sameSkeleton h)
  · rw [at?_redact]
    constructor
    · intro htext
      obtain ⟨u, hu, hredact⟩ := Option.map_eq_some_iff.1 htext
      cases u with
      | str secret => exact ⟨(Value.str.inj hredact).symm, secret, hu⟩
      | _ => cases hredact
    · rintro ⟨rfl, secret, hsecret⟩
      rw [hsecret]
      rfl
  · exact redact_eq_of_sameSkeleton (sameSkeleton_of_shapes (sameShapes_redact v))

end Courier.Json.Value
