import Courier.Fcm.Client
import Courier.Gcm.Request
import Courier.Http.BodyStream
import Courier.Proofs.Json.Record

/-!
# Nothing of a request is lost in writing

What is empty is left out, and comes back as just that: a message to Firebase is read back from its
bytes, whichever of its fields are left out, and the fields of a request to the legacy service tell
it from all others.

Results:

* `Fcm.Message.ofBytes?_bytes`: a message is read back from its bytes.
* `Fcm.Client.envelope_inj`: the fields of an envelope determine what is in it.
* `Gcm.Request.toJson_inj`: the fields of a request determine it.
* `written_restores`: all of this, and which fields are left out.
-/

namespace Courier

open Json
open Json.Document (restores_text restores_texts restores_optional)

/-! ## Messages to Firebase -/

namespace Fcm

/-- What stands at each key of what concerns Android devices. -/
def Android.parts (a : Android) : List (String × Option Value) :=
  [("collapse_key", textPart a.collapseKey), ("priority", some (.str a.priority.name)),
    ("ttl", textPart a.timeToLive)]

/-- What stands at each key of a text to show. -/
def Alert.parts (a : Alert) : List (String × Option Value) :=
  [("title", textPart a.title), ("body", textPart a.body)]

/-- What stands at each key of a message. -/
def Message.parts (m : Message) : List (String × Option Value) :=
  [("token", textPart m.token), ("data", dictPart (m.data.mapValues .str)),
    ("notification", m.notification.map Alert.toJson), ("android", m.android.map Android.toJson)]

theorem Android.toJson_eq (a : Android) : a.toJson = .record a.parts := by
  rw [toJson, textField_eq, textField_eq, singleton_eq_optionField]
  simp [Value.record, recordFields, parts]

theorem Alert.toJson_eq (a : Alert) : a.toJson = .record a.parts := by
  rw [toJson, textField_eq, textField_eq]
  simp [Value.record, recordFields, parts]

theorem Message.toJson_eq (m : Message) : m.toJson = .record m.parts := by
  rw [toJson, textField_eq, dictField_eq]
  simp [Value.record, recordFields, parts]

theorem Urgency.ofDocument?_name (u : Urgency) :
    Urgency.ofDocument? (.ofValue (.str u.name)) = some u := by
  cases u <;> rfl

theorem Android.ofDocument?_toJson (a : Android) :
    Android.ofDocument? (.ofValue a.toJson) = some a := by
  obtain ⟨r, hr, hlookup⟩ :=
    Document.record?_ofValue a.parts ["collapse_key", "priority", "ttl"] rfl (by decide)
  have hkey := (restores_text a.collapseKey).default?_eq (hlookup "collapse_key")
  have hpriority : r.required? "priority" Urgency.ofDocument? = some a.priority := by
    rw [Document.Record.required?, hlookup]
    exact Urgency.ofDocument?_name a.priority
  have httl := (restores_text a.timeToLive).default?_eq (hlookup "ttl")
  rw [toJson_eq, ofDocument?, hr, Option.bind_eq_bind, Option.bind_some, hkey, hpriority, httl]
  rfl

theorem Alert.ofDocument?_toJson (a : Alert) :
    Alert.ofDocument? (.ofValue a.toJson) = some a := by
  obtain ⟨r, hr, hlookup⟩ := Document.record?_ofValue a.parts ["title", "body"] rfl (by decide)
  have htitle := (restores_text a.title).default?_eq (hlookup "title")
  have hbody := (restores_text a.body).default?_eq (hlookup "body")
  rw [toJson_eq, ofDocument?, hr, Option.bind_eq_bind, Option.bind_some, htitle, hbody]
  rfl

theorem Message.ofDocument?_toJson (m : Message) :
    Message.ofDocument? (.ofValue m.toJson) = some m := by
  obtain ⟨r, hr, hlookup⟩ := Document.record?_ofValue m.parts
    ["token", "data", "notification", "android"] rfl (by decide)
  have htoken := (restores_text m.token).default?_eq (hlookup "token")
  have hdata := (restores_texts m.data).default?_eq (hlookup "data")
  have hnotification := (restores_optional rfl Alert.ofDocument?_toJson m.notification).default?_eq
    (hlookup "notification")
  have handroid := (restores_optional rfl Android.ofDocument?_toJson m.android).default?_eq
    (hlookup "android")
  rw [toJson_eq, ofDocument?, hr, Option.bind_eq_bind, Option.bind_some, htoken, hdata,
    hnotification, handroid]
  rfl

theorem Android.hasNoDouble_toJson (a : Android) : a.toJson.HasNoDouble := by
  rw [toJson_eq]
  apply Value.hasNoDouble_record
  simp only [parts, List.forall_mem_cons]
  refine ⟨hasNoDouble_part trivial, ?_, hasNoDouble_part trivial, by simp⟩
  rintro v ⟨⟩
  trivial

theorem Alert.hasNoDouble_toJson (a : Alert) : a.toJson.HasNoDouble := by
  rw [toJson_eq]
  apply Value.hasNoDouble_record
  simp only [parts, List.forall_mem_cons]
  exact ⟨hasNoDouble_part trivial, hasNoDouble_part trivial, by simp⟩

theorem Message.hasNoDouble_toJson (m : Message) : m.toJson.HasNoDouble := by
  rw [toJson_eq]
  apply Value.hasNoDouble_record
  simp only [parts, List.forall_mem_cons]
  exact ⟨hasNoDouble_part trivial, hasNoDouble_part (Value.hasNoDouble_ofDict_map m.data),
    hasNoDouble_map Alert.hasNoDouble_toJson m.notification,
    hasNoDouble_map Android.hasNoDouble_toJson m.android, by simp⟩

/-- The bytes that are written of a message. -/
def Message.bytes (m : Message) : List UInt8 := (Http.Encoding.ofValue m.toJson).bytes

/-- The message that bytes write. -/
def Message.ofBytes? (bytes : List UInt8) : Option Message :=
  (Document.parse? bytes).bind Message.ofDocument?

/-- A message is read back from its bytes. -/
theorem Message.ofBytes?_bytes (m : Message) : ofBytes? m.bytes = some m := by
  rw [ofBytes?, bytes, Http.Encoding.bytes_ofValue,
    Document.parse?_encode_render m.hasNoDouble_toJson, Option.bind_some, ofDocument?_toJson]

theorem Message.bytes_inj {m m' : Message} : m.bytes = m'.bytes ↔ m = m' := by
  constructor
  · intro h
    have hread := ofBytes?_bytes m
    rw [h, ofBytes?_bytes] at hread
    exact (Option.some.inj hread).symm
  · rintro rfl
    rfl

theorem Message.toJson_inj {m m' : Message} : m.toJson = m'.toJson ↔ m = m' := by
  constructor
  · intro h
    rw [← bytes_inj, bytes, h, bytes]
  · rintro rfl
    rfl

/-- Of a message exactly the empty fields are left out. -/
structure Message.Omits (m : Message) : Prop where
  token : m.toJson.field? "token" = none ↔ m.token = ""
  data : m.toJson.field? "data" = none ↔ m.data.isEmpty = true
  notification : m.toJson.field? "notification" = none ↔ m.notification = none
  android : m.toJson.field? "android" = none ↔ m.android = none

theorem Message.field?_toJson (m : Message) (key : String) :
    m.toJson.field? key = (m.parts.lookup key).join := by
  have hnodup : (m.parts.map (·.1)).Nodup := by
    show ["token", "data", "notification", "android"].Nodup
    decide
  rw [toJson_eq, Value.field?_record hnodup]

theorem Message.omits (m : Message) : m.Omits where
  token := by
    rw [field?_toJson]
    exact textPart_eq_none_iff
  data := by
    rw [field?_toJson, ← Dict.isEmpty_mapValues Value.str]
    exact dictPart_eq_none_iff
  notification := by
    rw [field?_toJson]
    exact Option.map_eq_none_iff
  android := by
    rw [field?_toJson]
    exact Option.map_eq_none_iff

/-- What stands at each key of an envelope. -/
def Client.parts (c : Client) (m : Message) : List (String × Option Value) :=
  [("validate_only", flagPart c.validateOnly), ("message", some m.toJson)]

theorem Client.envelope_eq (c : Client) (m : Message) : c.envelope m = .record (c.parts m) := by
  rw [envelope, flagField_eq, singleton_eq_optionField]
  simp [Value.record, recordFields, parts]

/-- The fields of an envelope determine what is in it. -/
theorem Client.envelope_inj {c c' : Client} {m m' : Message} :
    (∀ key, (c.envelope m).field? key = (c'.envelope m').field? key) ↔
      c.validateOnly = c'.validateOnly ∧ m = m' := by
  constructor
  · intro h
    simp only [envelope_eq] at h
    have hnodup : ((c.parts m).map (·.1)).Nodup := by
      show ["validate_only", "message"].Nodup
      decide
    have hparts := Value.record_inj h rfl hnodup
    simpa [parts, flagPart_inj, Message.toJson_inj] using hparts
  · rintro ⟨hflag, rfl⟩ key
    rw [envelope, envelope, hflag]

end Fcm

/-! ## Requests to the legacy service -/

namespace Gcm

/-- What stands at each key of a text to show. -/
def Alert.parts (a : Alert) : List (String × Option Value) :=
  [("title", textPart a.title), ("body", textPart a.body), ("sound", textPart a.sound),
    ("title_loc_key", textPart a.titleLocKey), ("title_loc_args", textsPart a.titleLocArgs),
    ("body_loc_key", textPart a.bodyLocKey), ("body_loc_args", textsPart a.bodyLocArgs)]

/-- What stands at each key of a request. -/
def Request.parts (r : Request) : List (String × Option Value) :=
  [("to", some (.str r.recipient)), ("registration_ids", textsPart r.registrationIds),
    ("collapse_key", textPart r.collapseKey), ("priority", textPart r.priority),
    ("content_available", flagPart r.contentAvailable), ("time_to_live", countPart r.timeToLive),
    ("dry_run", flagPart r.dryRun), ("data", dictPart r.data),
    ("notification", r.notification.map Alert.toJson)]

theorem Alert.toJson_eq (a : Alert) : a.toJson = .record a.parts := by
  simp only [toJson, textField_eq, textsField_eq]
  simp [Value.record, recordFields, parts]

theorem Request.toJson_eq (r : Request) : r.toJson = .record r.parts := by
  simp only [toJson, textField_eq, textsField_eq, flagField_eq, countField_eq, dictField_eq,
    singleton_eq_optionField]
  simp [Value.record, recordFields, parts]

theorem Alert.nodup_keys (a : Alert) : (a.parts.map (·.1)).Nodup := by
  show ["title", "body", "sound", "title_loc_key", "title_loc_args", "body_loc_key",
    "body_loc_args"].Nodup
  decide

theorem Request.nodup_keys (r : Request) : (r.parts.map (·.1)).Nodup := by
  show ["to", "registration_ids", "collapse_key", "priority", "content_available", "time_to_live",
    "dry_run", "data", "notification"].Nodup
  decide

theorem Alert.toJson_injective : Function.Injective Alert.toJson := by
  intro a b h
  rw [toJson_eq, toJson_eq] at h
  have hfields (key : String) :
      (Value.record a.parts).field? key = (Value.record b.parts).field? key := by rw [h]
  have hparts := Value.record_inj hfields rfl a.nodup_keys
  cases a
  cases b
  simpa [parts, textPart_inj, textsPart_inj] using hparts

/-- The fields of a request determine it. -/
theorem Request.toJson_inj {r r' : Request} :
    (∀ key, r.toJson.field? key = r'.toJson.field? key) ↔ r = r' := by
  constructor
  · intro h
    simp only [toJson_eq] at h
    have hparts := Value.record_inj h rfl r.nodup_keys
    have halert (o o' : Option Alert) : o.map Alert.toJson = o'.map Alert.toJson ↔ o = o' :=
      (Option.map_injective Alert.toJson_injective).eq_iff
    cases r
    cases r'
    simpa [parts, textPart_inj, textsPart_inj, flagPart_inj, countPart_inj, dictPart_inj, halert]
      using hparts
  · rintro rfl key
    rfl

/-- Of a request exactly the empty fields are left out, but never the recipient. -/
structure Request.Omits (r : Request) : Prop where
  recipient : r.toJson.field? "to" = some (.str r.recipient)
  registrationIds : r.toJson.field? "registration_ids" = none ↔ r.registrationIds = []
  collapseKey : r.toJson.field? "collapse_key" = none ↔ r.collapseKey = ""
  priority : r.toJson.field? "priority" = none ↔ r.priority = ""
  contentAvailable : r.toJson.field? "content_available" = none ↔ r.contentAvailable = false
  timeToLive : r.toJson.field? "time_to_live" = none ↔ r.timeToLive = 0
  dryRun : r.toJson.field? "dry_run" = none ↔ r.dryRun = false
  data : r.toJson.field? "data" = none ↔ r.data.isEmpty = true
  notification : r.toJson.field? "notification" = none ↔ r.notification = none

theorem Request.field?_toJson (r : Request) (key : String) :
    r.toJson.field? key = (r.parts.lookup key).join := by
  rw [toJson_eq, Value.field?_record r.nodup_keys]

theorem Request.omits (r : Request) : r.Omits := by
  constructor <;> rw [field?_toJson]
  · rfl
  · exact textsPart_eq_none_iff
  · exact textPart_eq_none_iff
  · exact textPart_eq_none_iff
  · exact flagPart_eq_none_iff
  · exact countPart_eq_none_iff
  · exact flagPart_eq_none_iff
  · exact dictPart_eq_none_iff
  · exact Option.map_eq_none_iff

end Gcm

/-- A message to Firebase is read back from its bytes, so that one with nothing to show differs from
    one with an empty text to show, and one without anything for Android devices from one with the
    defaults for them; the envelope adds a flag to it. A request to the legacy service is known from
    its fields. Still all that is empty is left out. -/
theorem written_restores :
    (∀ m : Fcm.Message, Fcm.Message.ofBytes? m.bytes = some m ∧ m.Omits ∧
        { m with notification := none }.bytes ≠ { m with notification := some {} }.bytes ∧
        { m with android := none }.bytes ≠ { m with android := some {} }.bytes) ∧
      (∀ (c c' : Fcm.Client) (m m' : Fcm.Message),
        (∀ key, (c.envelope m).field? key = (c'.envelope m').field? key) ↔
          c.validateOnly = c'.validateOnly ∧ m = m') ∧
      (∀ r : Gcm.Request, r.Omits) ∧
      ∀ r r' : Gcm.Request, (∀ key, r.toJson.field? key = r'.toJson.field? key) ↔ r = r' := by
  refine ⟨fun m => ⟨m.ofBytes?_bytes, m.omits, ?_, ?_⟩, fun _ _ _ _ => Fcm.Client.envelope_inj,
    Gcm.Request.omits, fun _ _ => Gcm.Request.toJson_inj⟩
  · rw [ne_eq, Fcm.Message.bytes_inj]
    simp
  · rw [ne_eq, Fcm.Message.bytes_inj]
    simp

end Courier
