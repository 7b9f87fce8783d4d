import Courier.Json.Field
import Courier.Proofs.Json.Reading
import Courier.Proofs.Text.Utf8

/-!
# Records with fields left out

The written form of a record is a list of keys, each with the value that stands there or nothing
where the field is left out. A record is read back if what a field stands for where it is missing is
just what it is left out for.

Results:

* `Document.parse?_encode_render`: the bytes of a written value are read as its document.
* `Document.record?_ofValue`: the fields of a written record are found under their keys.
* `Document.Restores.default?_eq`: a part that is left out for its default is read back.
* `Value.record_inj`: the fields of an object determine what the record says.
-/

namespace Courier.Json

/-! ## Bytes -/

namespace Document

theorem parse?_encode (text : String) : parse? (Utf8.encode text) = ofText? text := by
  rw [parse?, Utf8.encode_eq_flatMap, Utf8.decode_flatMap, ofText?]

/-- The bytes of a written value are read as its document. -/
theorem parse?_encode_render {v : Value} (h : v.HasNoDouble) :
    parse? (Utf8.encode v.render) = some (ofValue v) := by
  rw [parse?_encode, ofText?_render h]

end Document

/-! ## Parts -/

section Part

variable {α : Type} {isEmpty : α → Prop} [DecidablePred isEmpty] {write : α → Value} {a b : α}

/-- What stands for something in a record. Nothing does if it is empty. -/
def part (isEmpty : α → Prop) [DecidablePred isEmpty] (write : α → Value) (a : α) : Option Value :=
  if isEmpty a then none else some (write a)

theorem part_eq_none_iff : part isEmpty write a = none ↔ isEmpty a := by
  unfold part
  split <;> simp [*]

/-- Different things are written differently if only one of them is empty. -/
theorem part_inj (hempty : ∀ {a b}, isEmpty a → isEmpty b → a = b)
    (hwrite : ∀ {a b}, write a = write b → a = b) :
    part isEmpty write a = part isEmpty write b ↔ a = b := by
  constructor
  · intro h
    unfold part at h
    split at h
    · split at h
      · exact hempty ‹_› ‹_›
      · cases h
    · split at h
      · cases h
      · exact hwrite (Option.some.inj h)
  · rintro rfl
    rfl

theorem optionField_part (key : String) :
    optionField key (part isEmpty write a) = if isEmpty a then [] else [(key, write a)] := by
  unfold part
  split <;> rfl

theorem hasNoDouble_part (h : (write a).HasNoDouble) :
    ∀ v ∈ part isEmpty write a, v.HasNoDouble := by
  intro v hv
  unfold part at hv
  split at hv
  · cases hv
  · cases hv
    exact h

end Part

/-- What stands for a text. -/
def textPart : String → Option Value := part (· = "") .str

/-- What stands for a list of texts. -/
def textsPart : List String → Option Value := part (· = []) .strings

/-- What stands for a dictionary. -/
def dictPart : Dict Value → Option Value := part (·.isEmpty = true) .ofDict

/-- What stands for a flag. -/
def flagPart : Bool → Option Value := part (· = false) .bool

/-- What stands for a number. -/
def countPart : Nat → Option Value := part (· = 0) fun n => .int n

theorem textField_eq (key text : String) :
    textField key text = optionField key (textPart text) := by
  rw [textField, textPart, optionField_part]

theorem textsField_eq (key : String) (texts : List String) :
    textsField key texts = optionField key (textsPart texts) := by
  rw [textsField, textsPart, optionField_part]

theorem dictField_eq (key : String) (fields : Dict Value) :
    dictField key fields = optionField key (dictPart fields) := by
  rw [dictField, dictPart, optionField_part]

theorem flagField_eq (key : String) (flag : Bool) :
    flagField key flag = optionField key (flagPart flag) := by
  cases flag <;> rfl

theorem countField_eq (key : String) (n : Nat) :
    countField key n = optionField key (countPart n) := by
  rw [countField, countPart, optionField_part]

theorem singleton_eq_optionField (key : String) (v : Value) :
    [(key, v)] = optionField key (some v) := rfl

theorem textPart_eq_none_iff {text : String} : textPart text = none ↔ text = "" :=
  part_eq_none_iff

theorem textsPart_eq_none_iff {texts : List String} : textsPart texts = none ↔ texts = [] :=
  part_eq_none_iff

theorem dictPart_eq_none_iff {fields : Dict Value} :
    dictPart fields = none ↔ fields.isEmpty = true :=
  part_eq_none_iff

theorem flagPart_eq_none_iff {flag : Bool} : flagPart flag = none ↔ flag = false :=
  part_eq_none_iff

theorem countPart_eq_none_iff {n : Nat} : countPart n = none ↔ n = 0 := part_eq_none_iff

theorem textPart_inj {s t : String} : textPart s = textPart t ↔ s = t :=
  part_inj (fun hs ht => hs.trans ht.symm) Value.str.inj

theorem textsPart_inj {s t : List String} : textsPart s = textsPart t ↔ s = t :=
  part_inj (fun hs ht => hs.trans ht.symm) Value.strings_inj.1

theorem dictPart_inj {d e : Dict Value} : dictPart d = dictPart e ↔ d = e :=
  part_inj (fun hd he => (Dict.eq_empty_of_isEmpty hd).trans (Dict.eq_empty_of_isEmpty he).symm)
    Value.ofDict_inj.1

theorem flagPart_inj {a b : Bool} : flagPart a = flagPart b ↔ a = b :=
  part_inj (fun ha hb => ha.trans hb.symm) Value.bool.inj

theorem countPart_inj {m n : Nat} : countPart m = countPart n ↔ m = n :=
  part_inj (fun hm hn => hm.trans hn.symm) fun h =>
    Int.ofNat_inj.1 (Number.int.inj (Value.num.inj h))

/-! ## Records -/

/-- The fields of a record, from what stands at each key. -/
def recordFields (parts : List (String × Option Value)) : List (String × Value) :=
  parts.flatMap fun p => optionField p.1 p.2

/-- The object of a record, from what stands at each key. -/
def Value.record (parts : List (String × Option Value)) : Value := .obj (recordFields parts)

theorem recordFields_cons_none (key : String) (parts : List (String × Option Value)) :
    recordFields ((key, none) :: parts) = recordFields parts := rfl

theorem recordFields_cons_some (key : String) (v : Value)
    (parts : List (String × Option Value)) :
    recordFields ((key, some v) :: parts) = (key, v) :: recordFields parts := rfl

theorem mem_recordFields {parts : List (String × Option Value)} {f : String × Value} :
    f ∈ recordFields parts ↔ (f.1, some f.2) ∈ parts := by
  induction parts with
  | nil => simp [recordFields]
  | cons p rest ih =>
    obtain ⟨key, part⟩ := p
    cases part with
    | none => simp [recordFields_cons_none, ih]
    | some v => simp [recordFields_cons_some, ih, Prod.ext_iff]

/-- The keys that are written are some of those of the record, in its order. -/
theorem keys_recordFields (parts : List (String × Option Value)) :
    ((recordFields parts).map (·.1)).Sublist (parts.map (·.1)) := by
  induction parts with
  | nil => exact .slnil
  | cons p rest ih =>
    obtain ⟨key, part⟩ := p
    cases part with
    | none => exact ih.cons key
    | some v => exact ih.cons_cons key

theorem lookup_eq_none_of_not_mem {α : Type} {l : List (String × α)} {key : String}
    (h : key ∉ l.map (·.1)) : l.lookup key = none := by
  rw [List.lookup_eq_none_iff]
  intro f hf
  have hne : key ≠ f.1 := fun heq => h (heq ▸ List.mem_map_of_mem hf)
  simpa using hne

theorem lookup_recordFields {parts : List (String × Option Value)}
    (h : (parts.map (·.1)).Nodup) (key : String) :
    (recordFields parts).lookup key = (parts.lookup key).join := by
  induction parts with
  | nil => rfl
  | cons p rest ih =>
    obtain ⟨name, part⟩ := p
    obtain ⟨hnew, hrest⟩ := List.nodup_cons.1 h
    by_cases hkey : key = name
    · subst hkey
      cases part with
      | none =>
        rw [recordFields_cons_none, ih hrest, lookup_eq_none_of_not_mem hnew, List.lookup_cons_self]
        rfl
      | some v => simp [recordFields_cons_some]
    · have hb : (key == name) = false := by simpa using hkey
      cases part with
      | none => rw [recordFields_cons_none, ih hrest, List.lookup_cons, hb]
      | some v => rw [recordFields_cons_some, List.lookup_cons, ih hrest, List.lookup_cons, hb]

theorem Value.field?_record {parts : List (String × Option Value)}
    (h : (parts.map (·.1)).Nodup) (key : String) :
    (Value.record parts).field? key = (parts.lookup key).join :=
  lookup_recordFields h key

theorem parts_eq_of_lookup {parts parts' : List (String × Option Value)}
    (hkeys : parts.map (·.1) = parts'.map (·.1)) (h : (parts.map (·.1)).Nodup)
    (hlookup : ∀ key, (parts.lookup key).join = (parts'.lookup key).join) : parts = parts' := by
  induction parts generalizing parts' with
  | nil => exact (List.map_eq_nil_iff.1 hkeys.symm).symm
  | cons p rest ih =>
    obtain _ | ⟨p', rest'⟩ := parts'
    · simp at hkeys
    · obtain ⟨name, part⟩ := p
      obtain ⟨name', part'⟩ := p'
      obtain ⟨rfl, hrests⟩ := List.cons.inj hkeys
      obtain ⟨hnew, hrest⟩ := List.nodup_cons.1 h
      have hpart : part = part' := by
        have hname := hlookup name
        rwa [List.lookup_cons_self, List.lookup_cons_self] at hname
      have htail : rest = rest' := by
        refine ih hrests hrest fun key => ?_
        by_cases hkey : key = name
        · subst hkey
          rw [lookup_eq_none_of_not_mem hnew, lookup_eq_none_of_not_mem (hrests ▸ hnew)]
        · have hb : (key == name) = false := by simpa using hkey
          simpa only [List.lookup_cons, hb] using hlookup key
      rw [hpart, htail]

/-- The fields of an object determine what a record of known keys says. -/
theorem Value.record_inj {parts parts' : List (String × Option Value)}
    (hfields : ∀ key, (Value.record parts).field? key = (Value.record parts').field? key)
    (hkeys : parts.map (·.1) = parts'.map (·.1)) (h : (parts.map (·.1)).Nodup) :
    parts = parts' := by
  refine parts_eq_of_lookup hkeys h fun key => ?_
  rw [← field?_record h, ← field?_record (hkeys ▸ h), hfields]

/-! ## Doubles -/

theorem Value.hasNoDouble_ofDict_map (fields : Dict String) :
    (Value.ofDict (fields.mapValues .str)).HasNoDouble := by
  show Value.FieldsHaveNoDouble _
  rw [Value.fieldsHaveNoDouble_iff]
  intro f hf
  obtain ⟨e, _, rfl⟩ := List.mem_map.1 hf
  trivial

theorem hasNoDouble_map {α : Type} {write : α → Value} (h : ∀ a, (write a).HasNoDouble)
    (o : Option α) : ∀ v ∈ o.map write, v.HasNoDouble := by
  intro v hv
  obtain ⟨a, _, rfl⟩ := Option.map_eq_some_iff.1 hv
  exact h a

theorem Value.hasNoDouble_record {parts : List (String × Option Value)}
    (h : ∀ p ∈ parts, ∀ v ∈ p.2, v.HasNoDouble) : (Value.record parts).HasNoDouble := by
  show Value.FieldsHaveNoDouble (recordFields parts)
  rw [Value.fieldsHaveNoDouble_iff]
  intro f hf
  exact h _ (mem_recordFields.1 hf) _ rfl

/-! ## Reading records -/

namespace Document

theorem ofFields_eq_map (fields : List (String × Value)) :
    ofFields fields = fields.map fun f => (some f.1, ofValue f.2) := by
  induction fields with
  | nil => rfl
  | cons f rest ih =>
    rw [ofFields, ih]
    rfl

/-- Of known fields with different keys all are picked. -/
theorem pick?_ofFields {names : List String} {fields : List (String × Value)}
    (h : (fields.map (·.1)).Nodup) (hknown : ∀ f ∈ fields, f.1 ∈ names) :
    pick? names (ofFields fields) = some (fields.map fun f => (f.1, ofValue f.2)) := by
  induction fields with
  | nil => rfl
  | cons f rest ih =>
    obtain ⟨hnew, hrest⟩ := List.nodup_cons.1 h
    have hlookup : (rest.map fun f => (f.1, ofValue f.2)).lookup f.1 = none := by
      apply lookup_eq_none_of_not_mem
      simpa [List.map_map, Function.comp_def] using hnew
    have hname : f.1 ∈ names := hknown f List.mem_cons_self
    rw [ofFields, pick?, ih hrest fun g hg => hknown g (List.mem_cons_of_mem _ hg)]
    simp [hname, hlookup]

theorem lookup_map_ofValue (fields : List (String × Value)) (key : String) :
    (fields.map fun f => (f.1, ofValue f.2)).lookup key = (fields.lookup key).map ofValue := by
  induction fields with
  | nil => rfl
  | cons f rest ih =>
    rw [List.map_cons, List.lookup_cons, List.lookup_cons, ih]
    split <;> rfl

/-- The fields of a written record are found under their keys. -/
theorem record?_ofValue (parts : List (String × Option Value)) (names : List String)
    (hnames : parts.map (·.1) = names) (h : names.Nodup) :
    ∃ r : Record, record? names (ofValue (.record parts)) = some r ∧
      ∀ key, r.lookup key = (parts.lookup key).join.map ofValue := by
  subst hnames
  have hwritten := (keys_recordFields parts).nodup h
  have hknown : ∀ f ∈ recordFields parts, f.1 ∈ parts.map (·.1) := fun f hf =>
    (keys_recordFields parts).mem (List.mem_map_of_mem hf)
  refine ⟨_, pick?_ofFields hwritten hknown, fun key => ?_⟩
  rw [lookup_map_ofValue, lookup_recordFields h]

/-- What stands for a value says it to a reader: nothing stands there only for the value that a
    missing field is read as, and what stands there is read as the value. -/
def Restores {α : Type} (default : α) (read : Document → Option α) (part : Option Value) (a : α) :
    Prop :=
  (part.map ofValue).elim (some default) read = some a

theorem Restores.default?_eq {α : Type} {default a : α} {read : Document → Option α}
    {part : Option Value} (h : Restores default read part a) {r : Record} {key : String}
    (hr : r.lookup key = part.map ofValue) : r.default? key default read = some a := by
  rw [Record.default?, hr, ← h]
  cases part <;> rfl

theorem restores_part {α β : Type} {default a : α} {read : Document → Option α} {b : β}
    {isEmpty : β → Prop} [DecidablePred isEmpty] {write : β → Value}
    (hempty : isEmpty b → default = a) (hwrite : read (ofValue (write b)) = some a) :
    Restores default read (part isEmpty write b) a := by
  unfold part
  split
  · exact congrArg some (hempty ‹_›)
  · exact hwrite

theorem restores_text (text : String) : Restores "" text? (textPart text) text :=
  restores_part (fun h => h.symm) rfl

theorem mapM_texts (l : List (String × String)) :
    ((l.map fun e => (some e.1, ofValue (.str e.2))).mapM fun f => do some (← f.1, ← f.2.text?)) =
      some l := by
  induction l with
  | nil => rfl
  | cons e rest ih =>
    rw [List.map_cons, List.mapM_cons, ih]
    rfl

theorem texts?_ofValue (d : Dict String) :
    (ofValue (.ofDict (d.mapValues .str))).texts? = some d := by
  have hentries : ofFields (d.mapValues .str).entries =
      d.entries.map fun e => (some e.1, ofValue (.str e.2)) := by
    rw [ofFields_eq_map, Dict.mapValues, List.map_map]
    rfl
  rw [Value.ofDict, ofValue, texts?, hentries, mapM_texts, Option.bind_eq_bind, Option.bind_some,
    Dict.ofList_entries]

theorem restores_texts (d : Dict String) :
    Restores .empty texts? (dictPart (d.mapValues .str)) d := by
  refine restores_part (fun h => ?_) (texts?_ofValue d)
  rw [Dict.isEmpty_mapValues] at h
  exact (Dict.eq_empty_of_isEmpty h).symm

/-- A value that may be missing is read back if its reader does not take null for one. -/
theorem restores_optional {α : Type} {read : Document → Option α} {write : α → Value}
    (hnull : read .null = none) (h : ∀ a, read (ofValue (write a)) = some a) (o : Option α) :
    Restores none (optional? read) (o.map write) o := by
  cases o with
  | none => rfl
  | some a =>
    have hne : ofValue (write a) ≠ .null := by
      intro heq
      have hread := h a
      rw [heq, hnull] at hread
      contradiction
    show optional? read (ofValue (write a)) = some (some a)
    unfold optional?
    split
    · contradiction
    · rw [h]
      rfl

end Document

end Courier.Json
