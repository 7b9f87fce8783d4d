import Courier.Proofs.Conversion.Envelope
import Courier.Proofs.Conversion.Voip
import Courier.Proofs.Text.Base64
import Mathlib

/-!
# Encrypted data after conversion

All three services pass encrypted data on as an object of two texts, the nonce in decimal and the
data in Base64. Nothing else of the push is written into it.

Results:

* `EncryptedPush.convert_recoverable`: the receiver reads the nonce and the data back, whatever
  surrounds them, and there is no push without data.
-/

namespace Courier

open Json (Value)

/-! ## The object of two texts -/

/-- The object by which a service passes encrypted data on. -/
def sealedObject (dataKey nonceText dataText : String) : Value :=
  .obj [(dataKey, .str dataText), ("nonce", .str nonceText)]

/-- Two entries stand in key order, whichever is put first. -/
theorem Dict.entries_pair {α : Type} {key other : String} (h : other < key) (a b : α) :
    (Dict.ofList [(key, a), (other, b)]).entries = [(other, b), (key, a)] := by
  show insertEntry other b [(key, a)] = _
  rw [insertEntry, if_pos h]

theorem Apns.ofDict_encryptedFields (p : EncryptedPush) :
    Value.ofDict (encryptedFields p) =
      sealedObject "encrypted_data" (toString p.nonce) p.dataText := by
  rw [Value.ofDict, encryptedFields, Dict.entries_pair (by decide)]
  rfl

theorem Gcm.userInfo_eq (p : EncryptedPush) :
    userInfo p = sealedObject "encrypted" (toString p.nonce) p.dataText := by
  rw [userInfo, Dict.toJson, Dict.mapValues_ofList]
  show Value.obj (Dict.ofList [("nonce", .str _), ("encrypted", .str _)]).entries = _
  rw [Dict.entries_pair (by decide)]
  rfl

/-- Firebase nests what the legacy service is told. -/
theorem Fcm.ofText?_userInfo (p : EncryptedPush) :
    Value.ofText? (userInfo p) = some (Gcm.userInfo p) :=
  Value.ofText?_render (Dict.isExact_toJson _)

theorem EncryptedPush.toInt?_nonce (p : EncryptedPush) :
    (toString p.nonce).toInt? = some p.nonce :=
  -- only an import of the whole library brings this lemma in
  Int.toInt?_repr p.nonce

theorem EncryptedPush.decodeOne?_dataText (p : EncryptedPush) :
    Base64.decodeOne? p.dataText.toList = some p.data := by
  rw [EncryptedPush.dataText, String.toList_ofList, Base64.decodeOne?_encode]

/-! ## Conversion -/

variable (n : Notification) {p : EncryptedPush} (policy : Policy)

theorem Apns.convert_encrypted (h : p.data ≠ []) (capabilities : Capabilities) (now : Moment) :
    ∃ r, convert (n.carrying (.encrypted p)) policy capabilities now = .ok (.send r) ∧
      r.payload.field? "user_info" =
        some (sealedObject "encrypted_data" (toString p.nonce) p.dataText) := by
  rw [convert_payload, parts, encryptedParts, if_neg h]
  refine ⟨_, rfl, ?_⟩
  rw [field?_envelop n policy now _ (by decide) (by decide), Dict.get?_insert_self,
    ofDict_encryptedFields]

theorem Apns.convert_encrypted_nil (h : p.data = []) (capabilities : Capabilities)
    (now : Moment) :
    convert (n.carrying (.encrypted p)) policy capabilities now =
      .error .emptyEncryptedPayload := by
  rw [convert_payload, parts, encryptedParts, if_pos h]
  rfl

theorem Gcm.convert_encrypted (h : p.data ≠ []) :
    ∃ r, convert (n.carrying (.encrypted p)) policy = .ok (.send r) ∧
      r.data.get? "userInfo" =
        some (sealedObject "encrypted" (toString p.nonce) p.dataText) := by
  rw [convert_payload, addPayload, addEncrypted, if_neg h]
  refine ⟨_, rfl, ?_⟩
  rw [envelop_insert n _ (by decide), Dict.get?_insert_self, userInfo_eq]

theorem Gcm.convert_encrypted_nil (h : p.data = []) :
    convert (n.carrying (.encrypted p)) policy = .error .emptyEncryptedPayload := by
  rw [convert_payload, addPayload, addEncrypted, if_pos h]
  rfl

theorem Fcm.convert_encrypted (h : p.data ≠ []) :
    ∃ m, convert (n.carrying (.encrypted p)) policy = .ok (.send m) ∧
      (m.data.get? "userInfo").bind Value.ofText? =
        some (sealedObject "encrypted" (toString p.nonce) p.dataText) := by
  rw [convert_payload, payloadMessage, encryptedMessage, if_neg h]
  refine ⟨_, rfl, ?_⟩
  rw [envelop_insert n _ (by decide), Dict.get?_insert_self, Option.bind_some,
    ofText?_userInfo, Gcm.userInfo_eq]

theorem Fcm.convert_encrypted_nil (h : p.data = []) :
    convert (n.carrying (.encrypted p)) policy = .error .emptyEncryptedPayload := by
  rw [convert_payload, payloadMessage, encryptedMessage, if_pos h]
  rfl

/-- Encrypted data are recoverable from what each service is sent. The two texts say the nonce and
    the data and depend on nothing else, so neither what is shown nor the policy nor what surrounds
    the payload touches them. Without data there is no push. -/
theorem EncryptedPush.convert_recoverable :
    (∀ (nonce : Int) (data : List UInt8), data ≠ [] → ∃ nonceText dataText : String,
      nonceText.toInt? = some nonce ∧ Base64.decodeOne? dataText.toList = some data ∧
      ∀ (n : Notification) (shown : Option AlertingPush) (policy : Policy)
        (capabilities : Capabilities) (now : Moment),
        (∃ r, Apns.convert (n.sealing nonce data shown) policy capabilities now = .ok (.send r) ∧
          Apns.convert? (n.sealing nonce data shown) policy capabilities now =
            ((now.later? (Apns.effectiveTimeToLive n.timeToLive)).map fun _ => .ok (.send r)) ∧
          r.payload.field? "user_info" =
            some (sealedObject "encrypted_data" nonceText dataText)) ∧
        (∃ r, Gcm.convert (n.sealing nonce data shown) policy = .ok (.send r) ∧
          r.data.get? "userInfo" = some (sealedObject "encrypted" nonceText dataText)) ∧
        (∃ m, Fcm.convert (n.sealing nonce data shown) policy = .ok (.send m) ∧
          (m.data.get? "userInfo").bind Value.ofText? =
            some (sealedObject "encrypted" nonceText dataText))) ∧
    (∀ (n : Notification) (nonce : Int) (shown : Option AlertingPush) (policy : Policy)
      (capabilities : Capabilities) (now : Moment),
      Apns.convert (n.sealing nonce [] shown) policy capabilities now =
        .error .emptyEncryptedPayload ∧
      Apns.convert? (n.sealing nonce [] shown) policy capabilities now =
        some (.error .emptyEncryptedPayload) ∧
      Gcm.convert (n.sealing nonce [] shown) policy = .error .emptyEncryptedPayload ∧
      Fcm.convert (n.sealing nonce [] shown) policy = .error .emptyEncryptedPayload) := by
  constructor
  · intro nonce data hdata
    let bare : EncryptedPush := { nonce := nonce, data := data }
    refine ⟨toString nonce, bare.dataText, bare.toInt?_nonce, bare.decodeOne?_dataText, ?_⟩
    intro n shown policy capabilities now
    let p : EncryptedPush := { bare with publicAlerting := shown }
    have hp : p.data ≠ [] := hdata
    obtain ⟨r, hr, hinfo⟩ := Apns.convert_encrypted n policy hp capabilities now
    exact ⟨⟨r, hr, Apns.convert?_eq_of_send hr, hinfo⟩, Gcm.convert_encrypted n policy hp,
      Fcm.convert_encrypted n policy hp⟩
  · intro n nonce shown policy capabilities now
    let p : EncryptedPush := { nonce := nonce, publicAlerting := shown }
    have hp : p.data = [] := rfl
    have hr := Apns.convert_encrypted_nil n policy hp capabilities now
    exact ⟨hr, Apns.convert?_eq_of_error hr, Gcm.convert_encrypted_nil n policy hp,
      Fcm.convert_encrypted_nil n policy hp⟩

/-- Two bytes that need padding, a nonce below zero and a text to show that brings its own data. -/
theorem EncryptedPush.convert_recoverable_two :
    ([0xFB, 0xFF] : List UInt8) ≠ [] ∧ ∃ nonceText dataText : String,
      nonceText.toInt? = some (-7) ∧
      Base64.decodeOne? dataText.toList = some [0xFB, 0xFF] ∧
      (∃ r, Apns.convert (Notification.sealing { sequence := 5 } (-7) [0xFB, 0xFF]
          (some { title := "Alice", mid := some "m-1" })) { allowAlerts := true } {} default =
            .ok (.send r) ∧
        r.payload.field? "user_info" =
          some (sealedObject "encrypted_data" nonceText dataText)) ∧
      (∃ r, Gcm.convert (Notification.sealing { sequence := 5 } (-7) [0xFB, 0xFF]
          (some { title := "Alice", mid := some "m-1" })) { allowAlerts := true } =
            .ok (.send r) ∧
        r.data.get? "userInfo" = some (sealedObject "encrypted" nonceText dataText)) ∧
      ∃ m, Fcm.convert (Notification.sealing { sequence := 5 } (-7) [0xFB, 0xFF]
          (some { title := "Alice", mid := some "m-1" })) { allowAlerts := true } =
            .ok (.send m) ∧
        (m.data.get? "userInfo").bind Value.ofText? =
          some (sealedObject "encrypted" nonceText dataText) := by
  have hdata : ([0xFB, 0xFF] : List UInt8) ≠ [] := by decide
  obtain ⟨nonceText, dataText, hnonce, htext, hconvert⟩ :=
    EncryptedPush.convert_recoverable.1 (-7) [0xFB, 0xFF] hdata
  obtain ⟨⟨r, hr, -, hinfo⟩, hgcm, hfcm⟩ := hconvert { sequence := 5 }
    (some { title := "Alice", mid := some "m-1" }) { allowAlerts := true } {} default
  exact ⟨hdata, nonceText, dataText, hnonce, htext, ⟨r, hr, hinfo⟩, hgcm, hfcm⟩

end Courier
