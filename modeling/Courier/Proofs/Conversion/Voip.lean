import Courier.Apns.Request
import Courier.Fcm.Message
import Courier.Gcm.Request
import Courier.Proofs.Json.Reading

/-!
# Calls after conversion

The three services get one call in three forms: as texts with nested JSON, as JSON, and as JSON with
the number of the call in decimal. A form is a way to write each kind of entry together with a way
to read it back. Whatever the form, the data of a call are read back as the call.

Results:

* `VoipPush.ofData?_data`: the data of a call determine it in every form.
* `VoipPush.convert_determines`: what the three converters make of calls determines them.
-/

namespace Courier

open Json (Value)

/-! ## Codecs -/

/-- A way to write values of one kind, and to read back what was written. -/
structure Codec (β α : Type) where
  write : β → α
  read? : α → Option β
  read?_write : ∀ b, read? (write b) = some b

namespace Codec

variable {α β γ : Type}

/-- Values that stand for themselves. -/
def self : Codec α α := ⟨id, some, fun _ => rfl⟩

/-- Values written in two steps. -/
def trans (c : Codec γ β) (d : Codec β α) : Codec γ α where
  write g := d.write (c.write g)
  read? a := (d.read? a).bind c.read?
  read?_write g := by rw [d.read?_write, Option.bind_some, c.read?_write]

/-- Integers in decimal. -/
def decimal : Codec Int String where
  write := toString
  read? text := (Json.Numeral.ofChars? text.toList).map Json.Numeral.integerPart
  read?_write n := by
    rw [Json.Numeral.ofChars?_toString, Option.map_some, Json.Numeral.integerPart_ofInt]

/-- Truth values as words. -/
def word : Codec Bool String where
  write := toString
  read? text := if text = "true" then some true else if text = "false" then some false else none
  read?_write b := by cases b <;> rfl

/-- Texts as JSON. -/
def jsonText : Codec String Value := ⟨.str, Value.text?, fun _ => rfl⟩

/-- Integers as JSON. -/
def jsonInt : Codec Int Value := ⟨.int, Value.int?, fun _ => rfl⟩

/-- Truth values as JSON. -/
def jsonBool : Codec Bool Value := ⟨.bool, Value.bool?, fun _ => rfl⟩

/-- Values as JSON text. -/
def nested (c : Codec β Value) (h : ∀ b, (c.write b).IsExact 0) : Codec β String where
  write b := Fcm.nested (c.write b)
  read? text := (Value.ofText? text).bind c.read?
  read?_write b := by
    rw [Fcm.nested, Value.ofText?_render (h b), Option.bind_some, c.read?_write]

/-- Reads the entry at `key`, which must be there. -/
def required? (c : Codec β α) (key : String) (d : Dict α) : Option β := (d.get? key).bind c.read?

/-- Reads the entry at `key`, if there is one. -/
def optional? (c : Codec β α) (key : String) (d : Dict α) : Option (Option β) :=
  match d.get? key with
  | none => some none
  | some a => (c.read? a).map some

theorem required?_eq (c : Codec β α) {key : String} {d : Dict α} {b : β}
    (h : d.get? key = some (c.write b)) : c.required? key d = some b := by
  rw [required?, h, Option.bind_some, c.read?_write]

theorem optional?_eq (c : Codec β α) {key : String} {d : Dict α} {b : Option β}
    (h : d.get? key = b.map c.write) : c.optional? key d = some b := by
  cases b with
  | none => simp only [optional?, h, Option.map_none]
  | some b => simp only [optional?, h, Option.map_some, c.read?_write]

end Codec

/-! ## Peers and merging -/

/-- The kind of a number in decimal. -/
def PeerKind.ofText? (text : String) : Option PeerKind :=
  [.unknown, .individual, .group, .sip].find? fun kind => toString kind.code == text

theorem PeerKind.ofText?_code (kind : PeerKind) : ofText? (toString kind.code) = some kind := by
  cases kind <;> rfl

/-- The text of a field. -/
def Json.Value.textAt? (v : Value) (key : String) : Option String := (v.field? key).bind Value.text?

/-- The integer that the text of a field writes. -/
def Json.Value.decimalAt? (v : Value) (key : String) : Option Int :=
  (v.textAt? key).bind Codec.decimal.read?

/-- The peer of an object. -/
def Peer.ofJson? (v : Value) : Option Peer := do
  some {
    id := ← v.decimalAt? "id"
    kind := ← (v.textAt? "type").bind PeerKind.ofText?
    strId := ← v.textAt? "strId" }

/-- The peer with its access hash of an object. -/
def OutPeer.ofJson? (v : Value) : Option OutPeer := do
  some {
    id := ← v.decimalAt? "id"
    kind := ← (v.textAt? "type").bind PeerKind.ofText?
    accessHash := ← v.decimalAt? "accessHash"
    strId := ← v.textAt? "strId" }

/-- The way to collapse pushes of an object. -/
def Merge.ofJson? (v : Value) : Option Merge := do
  some { key := ← v.textAt? "key", merge := ← (v.field? "merge").bind Value.bool? }

theorem Dict.textAt?_toJson (d : Dict String) (key : String) :
    d.toJson.textAt? key = d.get? key := by
  rw [Value.textAt?, Dict.toJson, Value.field?_ofDict, Dict.get?_mapValues]
  cases d.get? key <;> rfl

theorem Dict.decimalAt?_toJson {d : Dict String} {key : String} {n : Int}
    (h : d.get? key = some (toString n)) : d.toJson.decimalAt? key = some n := by
  rw [Value.decimalAt?, Dict.textAt?_toJson, h]
  exact Codec.decimal.read?_write n

theorem Peer.get?_fields (p : Peer) (key : String) : p.fields.get? key =
    [("id", toString p.id), ("type", toString p.kind.code), ("strId", p.strId)].lookup key :=
  Dict.get?_ofList (by simp) key

theorem OutPeer.get?_fields (p : OutPeer) (key : String) : p.fields.get? key =
    [("id", toString p.id), ("type", toString p.kind.code),
      ("accessHash", toString p.accessHash), ("strId", p.strId)].lookup key :=
  Dict.get?_ofList (by simp) key

theorem Merge.field?_toJson (m : Merge) (key : String) :
    m.toJson.field? key = [("key", .str m.key), ("merge", .bool m.merge)].lookup key :=
  Dict.get?_ofList (by simp) key

theorem Peer.ofJson?_toJson (p : Peer) : Peer.ofJson? p.fields.toJson = some p := by
  have hget := p.get?_fields
  have hid : p.fields.toJson.decimalAt? "id" = some p.id := Dict.decimalAt?_toJson (hget "id")
  have hkind : (p.fields.toJson.textAt? "type").bind PeerKind.ofText? = some p.kind := by
    rw [Dict.textAt?_toJson, hget "type"]
    exact PeerKind.ofText?_code p.kind
  have hstrId : p.fields.toJson.textAt? "strId" = some p.strId := by
    rw [Dict.textAt?_toJson, hget "strId"]
    rfl
  rw [Peer.ofJson?, hid, hkind, hstrId]
  rfl

theorem OutPeer.ofJson?_toJson (p : OutPeer) : OutPeer.ofJson? p.fields.toJson = some p := by
  have hget := p.get?_fields
  have hid : p.fields.toJson.decimalAt? "id" = some p.id := Dict.decimalAt?_toJson (hget "id")
  have hkind : (p.fields.toJson.textAt? "type").bind PeerKind.ofText? = some p.kind := by
    rw [Dict.textAt?_toJson, hget "type"]
    exact PeerKind.ofText?_code p.kind
  have hhash : p.fields.toJson.decimalAt? "accessHash" = some p.accessHash :=
    Dict.decimalAt?_toJson (hget "accessHash")
  have hstrId : p.fields.toJson.textAt? "strId" = some p.strId := by
    rw [Dict.textAt?_toJson, hget "strId"]
    rfl
  rw [OutPeer.ofJson?, hid, hkind, hhash, hstrId]
  rfl

theorem Merge.ofJson?_toJson (m : Merge) : Merge.ofJson? m.toJson = some m := by
  have hfield := m.field?_toJson
  have hkey : m.toJson.textAt? "key" = some m.key := by
    rw [Value.textAt?, hfield "key"]
    rfl
  have hmerge : (m.toJson.field? "merge").bind Value.bool? = some m.merge := by
    rw [hfield "merge"]
    rfl
  rw [Merge.ofJson?, hkey, hmerge]
  rfl

/-- Peers as JSON. -/
def Peer.codec : Codec Peer Value := ⟨fun p => p.fields.toJson, Peer.ofJson?, Peer.ofJson?_toJson⟩

/-- Peers with their access hash as JSON. -/
def OutPeer.codec : Codec OutPeer Value :=
  ⟨fun p => p.fields.toJson, OutPeer.ofJson?, OutPeer.ofJson?_toJson⟩

/-- Ways to collapse pushes as JSON. -/
def Merge.codec : Codec Merge Value := ⟨Merge.toJson, Merge.ofJson?, Merge.ofJson?_toJson⟩

theorem Json.Value.fieldsExact_iff {depth : Nat} {fields : List (String × Value)} :
    Value.FieldsExact depth fields ↔ ∀ f ∈ fields, f.2.IsExact depth := by
  induction fields with
  | nil => simp [Value.FieldsExact]
  | cons f rest ih => simp [Value.FieldsExact, ih]

theorem Json.Value.isExact_ofDict {d : Dict Value} (h : ∀ f ∈ d.entries, f.2.IsExact 1) :
    (Value.ofDict d).IsExact 0 :=
  ⟨by decide, d.sorted, Json.Value.fieldsExact_iff.mpr h⟩

theorem Dict.isExact_toJson (d : Dict String) : d.toJson.IsExact 0 := by
  refine Json.Value.isExact_ofDict fun f hf => ?_
  obtain ⟨e, -, rfl⟩ := List.mem_map.mp hf
  trivial

theorem Merge.isExact_toJson (m : Merge) : m.toJson.IsExact 0 := by
  refine Json.Value.isExact_ofDict fun ⟨key, v⟩ hf => ?_
  have hget := (Dict.get?_eq_some_iff _ _ _).mpr hf
  rw [Dict.get?_ofList (by simp)] at hget
  have hmem := Dict.mem_of_lookup_eq_some hget
  simp only [List.mem_cons, List.not_mem_nil, or_false] at hmem
  obtain h | h := hmem <;> cases h <;> trivial

/-! ## Forms -/

/-- How a service is given the entries of a call. -/
structure Form (α : Type) where
  callId : Codec Int α
  int : Codec Int α
  text : Codec String α
  flag : Codec Bool α
  peer : Codec Peer α
  outPeer : Codec OutPeer α
  merge : Codec Merge α

/-- The form of Firebase: texts, with nested JSON where there is more to say. -/
def Fcm.form : Form String where
  callId := .decimal
  int := .decimal
  text := .self
  flag := .word
  peer := Peer.codec.nested fun p => p.fields.isExact_toJson
  outPeer := OutPeer.codec.nested fun p => p.fields.isExact_toJson
  merge := Merge.codec.nested Merge.isExact_toJson

/-- The form of the legacy Google service: JSON. -/
def Gcm.form : Form Value where
  callId := .jsonInt
  int := .jsonInt
  text := .jsonText
  flag := .jsonBool
  peer := Peer.codec
  outPeer := OutPeer.codec
  merge := Merge.codec

/-- The form of Apple's push service: JSON, with the number of the call in decimal. -/
def Apns.form : Form Value := { Gcm.form with callId := .trans .decimal .jsonText }

variable {α : Type}

/-- A dictionary of those entries of a list that are there. -/
def Dict.ofOptions (l : List (String × Option α)) : Dict α :=
  l.foldl (fun d e => d.insertSome e.1 e.2) .empty

theorem Dict.get?_foldl_insertSome {l : List (String × Option α)} (h : (l.map Prod.fst).Nodup)
    (d : Dict α) (key : String) :
    (l.foldl (fun d e => d.insertSome e.1 e.2) d).get? key =
      (l.lookup key).join.or (d.get? key) := by
  induction l generalizing d with
  | nil => rfl
  | cons e rest ih =>
    obtain ⟨hnot, hrest⟩ := List.nodup_cons.mp h
    rw [List.foldl_cons, ih hrest, List.lookup_cons]
    by_cases hkey : key = e.1
    · subst hkey
      have hnone : rest.lookup e.1 = none := List.lookup_eq_none_iff.mpr fun a ha =>
        bne_iff_ne.mpr fun heq => hnot (List.mem_map.mpr ⟨a, ha, heq.symm⟩)
      rw [hnone, Dict.get?_insertSome_self, beq_self_eq_true]
      rfl
    · have hbeq : (key == e.1) = false := by simpa using hkey
      rw [hbeq, Dict.get?_insertSome_of_ne _ hkey]

theorem Dict.get?_ofOptions {l : List (String × Option α)} (h : (l.map Prod.fst).Nodup)
    (key : String) : (Dict.ofOptions l).get? key = (l.lookup key).join := by
  rw [Dict.ofOptions, Dict.get?_foldl_insertSome h, Dict.get?_empty, Option.or_none]

/-- The entries of a call in a form. -/
def VoipPush.entries (f : Form α) (p : VoipPush) : List (String × Option α) :=
  [("callId", f.callId.write p.callId), ("attemptIndex", f.int.write p.attemptIndex),
    ("displayName", f.text.write p.displayName), ("eventBusId", f.text.write p.eventBusId),
    ("updateType", f.text.write p.updateType), ("disposalReason", f.text.write p.disposalReason),
    ("video", f.flag.write p.video),
    ("callIdStr", if p.callIdStr = "" then none else some (f.text.write p.callIdStr)),
    ("peer", p.peer.map f.peer.write), ("outPeer", p.outPeer.map f.outPeer.write),
    ("merge", p.merge.map f.merge.write)]

/-- The data of a call in a form. -/
def VoipPush.data (f : Form α) (p : VoipPush) : Dict α := .ofOptions (p.entries f)

theorem VoipPush.get?_data (f : Form α) (p : VoipPush) (key : String) :
    (p.data f).get? key = ((p.entries f).lookup key).join :=
  Dict.get?_ofOptions (by simp [entries]) key

theorem Fcm.voipData_eq (p : VoipPush) : Fcm.voipData p = p.data Fcm.form := rfl

theorem Gcm.voipData_eq (p : VoipPush) : Gcm.voipData p = p.data Gcm.form := rfl

/-- What Apple's push service is told of a call: neither the text of its number nor how to
    collapse. -/
def Apns.told (p : VoipPush) : VoipPush := { p with callIdStr := "", merge := none }

theorem Apns.voipFields_eq (p : VoipPush) :
    Apns.voipFields p = (Apns.told p).data Apns.form := rfl

/-- The call that data in a form describe. Without a text of its number that is empty. -/
def VoipPush.ofData? (f : Form α) (d : Dict α) : Option VoipPush := do
  some {
    callId := ← f.callId.required? "callId" d
    callIdStr := (← f.text.optional? "callIdStr" d).getD ""
    attemptIndex := ← f.int.required? "attemptIndex" d
    displayName := ← f.text.required? "displayName" d
    eventBusId := ← f.text.required? "eventBusId" d
    updateType := ← f.text.required? "updateType" d
    disposalReason := ← f.text.required? "disposalReason" d
    peer := ← f.peer.optional? "peer" d
    outPeer := ← f.outPeer.optional? "outPeer" d
    video := ← f.flag.required? "video" d
    merge := ← f.merge.optional? "merge" d }

/-- The data of a call determine it in every form. -/
theorem VoipPush.ofData?_data (f : Form α) (p : VoipPush) : ofData? f (p.data f) = some p := by
  have hget := p.get?_data f
  have hstr : f.text.optional? "callIdStr" (p.data f) =
      some (if p.callIdStr = "" then none else some p.callIdStr) := by
    refine f.text.optional?_eq ((hget "callIdStr").trans ?_)
    show (if p.callIdStr = "" then none else some (f.text.write p.callIdStr)) = _
    split <;> rfl
  rw [ofData?, f.callId.required?_eq (hget "callId"), hstr,
    f.int.required?_eq (hget "attemptIndex"), f.text.required?_eq (hget "displayName"),
    f.text.required?_eq (hget "eventBusId"), f.text.required?_eq (hget "updateType"),
    f.text.required?_eq (hget "disposalReason"), f.peer.optional?_eq (hget "peer"),
    f.outPeer.optional?_eq (hget "outPeer"), f.flag.required?_eq (hget "video"),
    f.merge.optional?_eq (hget "merge")]
  cases p
  simp only [Option.bind_eq_bind, Option.bind_some]
  split <;> simp_all

/-- The order of a push and the `aps` object are no entries of a call. -/
theorem VoipPush.ofData?_insert (f : Form α) (d : Dict α) {key : String}
    (h : key = "seq" ∨ key = "aps") (a : α) : ofData? f (d.insert key a) = ofData? f d := by
  obtain rfl | rfl := h <;> simp [ofData?, Codec.required?, Codec.optional?]

/-- A call is read from its data whether or not they carry the order of the push. -/
theorem VoipPush.ofData?_sequence (f : Form α) (p : VoipPush) (sequence : Int) (a : α) :
    ofData? f (if sequence > 0 then (p.data f).insert "seq" a else p.data f) = some p := by
  split
  · rw [ofData?_insert f _ (.inl rfl), ofData?_data]
  · exact ofData?_data f p

/-! ## Conversion -/

theorem Fcm.convert_voip (n : Notification) (p : VoipPush) (policy : Policy) :
    ∃ m, Fcm.convert { n with payload := some (.voip p) } policy = .ok (.send m) ∧
      VoipPush.ofData? Fcm.form m.data = some p := by
  refine ⟨_, rfl, ?_⟩
  show VoipPush.ofData? Fcm.form (if n.sequence > 0 then _ else Fcm.voipData p) = _
  rw [Fcm.voipData_eq]
  exact p.ofData?_sequence Fcm.form n.sequence _

theorem Gcm.convert_voip (n : Notification) (p : VoipPush) (policy : Policy) :
    ∃ r, Gcm.convert { n with payload := some (.voip p) } policy = .ok (.send r) ∧
      VoipPush.ofData? Gcm.form r.data = some p := by
  refine ⟨_, rfl, ?_⟩
  show VoipPush.ofData? Gcm.form (if n.sequence > 0 then _ else Gcm.voipData p) = _
  rw [Gcm.voipData_eq]
  exact p.ofData?_sequence Gcm.form n.sequence _

/-- The payload of a call. -/
def Apns.voipPayload (sequence : Int) (p : VoipPush) : Dict Value :=
  (Apns.addSequence sequence (Apns.voipFields p)).insert "aps" (.ofDict .empty)

theorem Apns.convert_voip (n : Notification) (p : VoipPush) (policy : Policy)
    (capabilities : Capabilities) (now : Moment) :
    ∃ r, Apns.convert { n with payload := some (.voip p) } policy
        { capabilities with supportsVoip := true } now = .ok (.send r) ∧
      r.payload = .ofDict (Apns.voipPayload n.sequence p) :=
  ⟨_, rfl, rfl⟩

theorem Apns.ofData?_voipPayload (sequence : Int) (p : VoipPush) :
    VoipPush.ofData? Apns.form (Apns.voipPayload sequence p) = some (Apns.told p) := by
  rw [Apns.voipPayload, VoipPush.ofData?_insert _ _ (.inr rfl), Apns.voipFields_eq,
    Apns.addSequence]
  exact (Apns.told p).ofData?_sequence Apns.form sequence _

theorem Apns.voipPayload_inj (sequence : Int) (p q : VoipPush) :
    Apns.voipPayload sequence p = Apns.voipPayload sequence q ↔ Apns.told p = Apns.told q := by
  constructor
  · intro h
    have hp := Apns.ofData?_voipPayload sequence p
    rw [h, Apns.ofData?_voipPayload] at hp
    exact (Option.some.inj hp).symm
  · intro h
    rw [Apns.voipPayload, Apns.voipPayload, Apns.voipFields_eq, Apns.voipFields_eq, h]

/-- Calls survive conversion. What Firebase and the legacy Google service are given decodes to the
    whole call, and Apple's push service is given one payload for two calls exactly if they differ
    at most in the text of the number and in how to collapse. -/
theorem VoipPush.convert_determines :
    (∀ (n : Notification) (p : VoipPush) (policy : Policy), ∃ m,
      Fcm.convert { n with payload := some (.voip p) } policy = .ok (.send m) ∧
      ofData? Fcm.form m.data = some p) ∧
    (∀ (n : Notification) (p : VoipPush) (policy : Policy), ∃ r,
      Gcm.convert { n with payload := some (.voip p) } policy = .ok (.send r) ∧
      ofData? Gcm.form r.data = some p) ∧
    (∀ (n n' : Notification) (p p' : VoipPush) (policy policy' : Policy)
      (capabilities capabilities' : Capabilities) (now now' : Moment), ∃ r r',
      Apns.convert { n with payload := some (.voip p) } policy
        { capabilities with supportsVoip := true } now = .ok (.send r) ∧
      Apns.convert { n' with payload := some (.voip p'), sequence := n.sequence } policy'
        { capabilities' with supportsVoip := true } now' = .ok (.send r') ∧
      (r.payload = r'.payload ↔
        { p with callIdStr := "", merge := none } =
          { p' with callIdStr := "", merge := none })) := by
  refine ⟨Fcm.convert_voip, Gcm.convert_voip, ?_⟩
  intro n n' p p' policy policy' capabilities capabilities' now now'
  obtain ⟨r, hr, hpayload⟩ := Apns.convert_voip n p policy capabilities now
  obtain ⟨r', hr', hpayload'⟩ := Apns.convert_voip { n' with sequence := n.sequence } p' policy'
    capabilities' now'
  refine ⟨r, r', hr, hr', ?_⟩
  rw [hpayload, hpayload', Json.Value.ofDict_inj]
  exact Apns.voipPayload_inj n.sequence p p'

end Courier
