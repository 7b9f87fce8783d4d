import Courier.Proofs.Conversion.Envelope
import Courier.Proofs.Conversion.Voip

/-!
# What both Google services are told

Firebase takes texts alone and the legacy service takes JSON. Where both are told of a push, the
data of the one are the data of the other with every value turned into text.

Results:

* `Fcm.voipData_eq_asText`: the data of a call.
* `Payload.data_asText`: the data of every payload that both are told of alike.
* `Payload.convert_agrees`: both conversions succeed or fail alike, and say the same.
-/

namespace Courier

open Json (Value)

/-! ## Values as text -/

/-- A value as text: a string stands for itself, an object is written with its keys in order. -/
def Json.Value.asText : Value → String
  | .str text => text
  | .num (.int n) => toString n
  | .bool b => toString b
  | .obj fields => (Value.ofDict (.ofList fields)).render
  | v => v.render

theorem Json.Value.asText_ofDict (d : Dict Value) :
    (Value.ofDict d).asText = Fcm.nested (.ofDict d) := by
  show (Value.ofDict (.ofList d.entries)).render = _
  rw [Dict.ofList_entries]
  rfl

/-- An object that may be there, as text. -/
theorem Json.Value.map_asText_ofDict {β : Type} (fields : β → Dict Value) (b : Option β) :
    (b.map fun b => Value.ofDict (fields b)).map Value.asText =
      b.map fun b => Fcm.nested (.ofDict (fields b)) := by
  cases b with
  | none => rfl
  | some b => exact congrArg some (asText_ofDict (fields b))

/-! ## The data of a payload -/

theorem Fcm.voipData_eq_asText (p : VoipPush) :
    voipData p = (Gcm.voipData p).mapValues Value.asText := by
  have hstr : (if p.callIdStr = "" then none else some (Value.str p.callIdStr)).map Value.asText =
      if p.callIdStr = "" then none else some p.callIdStr := by
    split <;> rfl
  have hpeer : (p.peer.map fun peer => peer.fields.toJson).map Value.asText =
      p.peer.map fun peer => nested peer.fields.toJson :=
    Value.map_asText_ofDict (fun peer : Peer => peer.fields.mapValues .str) p.peer
  have houtPeer : (p.outPeer.map fun peer => peer.fields.toJson).map Value.asText =
      p.outPeer.map fun peer => nested peer.fields.toJson :=
    Value.map_asText_ofDict (fun peer : OutPeer => peer.fields.mapValues .str) p.outPeer
  have hmerge : (p.merge.map Merge.toJson).map Value.asText =
      p.merge.map fun merge => nested merge.toJson :=
    Value.map_asText_ofDict
      (fun merge : Merge => .ofList [("key", .str merge.key), ("merge", .bool merge.merge)]) p.merge
  rw [Gcm.voipData, Dict.mapValues_insertSome, Dict.mapValues_insertSome,
    Dict.mapValues_insertSome, Dict.mapValues_insertSome, Dict.mapValues_ofList, hstr, hpeer,
    houtPeer, hmerge]
  rfl

/-- A payload that both Google services are told of alike. -/
def Payload.IsShared (policy : Policy) : Payload → Prop
  | .voip _ | .silent => True
  | .alerting _ => policy.allowAlerts = true
  | .encrypted p => p.publicAlerting = none

/-- A payload of encrypted data that hold no byte. -/
def Payload.IsHollow : Payload → Prop
  | .encrypted p => p.data = []
  | _ => False

theorem Fcm.addAlert_asText (p : AlertingPush) :
    (addAlert p {}).data = ((Dict.empty.insertSome "mid" (p.mid.map .str)).insertSome "category"
      (p.category.map .str)).mapValues Value.asText := by
  have htext (text : Option String) : (text.map Value.str).map Value.asText = text := by
    cases text <;> rfl
  rw [Dict.mapValues_insertSome, Dict.mapValues_insertSome, htext, htext]
  rfl

theorem Fcm.userInfo_asText (p : EncryptedPush) : userInfo p = (Gcm.userInfo p).asText :=
  (Value.asText_ofDict _).symm

theorem Payload.refused_of_isHollow {payload : Payload} (h : payload.IsHollow) (policy : Policy) :
    Fcm.payloadMessage payload policy = .error .emptyEncryptedPayload ∧
      ∀ r, Gcm.addPayload payload policy r = .error .emptyEncryptedPayload := by
  cases payload with
  | voip p => exact h.elim
  | alerting p => exact h.elim
  | silent => exact h.elim
  | encrypted p => exact ⟨if_pos h, fun r => if_pos h⟩

/-- The data of every payload that both are told of alike. -/
theorem Payload.data_asText {payload : Payload} {policy : Policy}
    (hshared : payload.IsShared policy)
    (hhollow : ¬ payload.IsHollow) :
    ∃ m r, Fcm.payloadMessage payload policy = .ok m ∧
      Gcm.addPayload payload policy { priority := "high" } = .ok r ∧
      m.data = r.data.mapValues Value.asText := by
  cases payload with
  | voip p => exact ⟨_, _, rfl, rfl, Fcm.voipData_eq_asText p⟩
  | silent => exact ⟨_, _, rfl, rfl, rfl⟩
  | alerting p =>
    have hallow : policy.allowAlerts = true := hshared
    exact ⟨_, _, if_pos hallow, if_pos hallow, Fcm.addAlert_asText p⟩
  | encrypted p =>
    obtain ⟨nonce, data, shown⟩ := p
    obtain rfl : shown = none := hshared
    refine ⟨_, _, if_neg hhollow, if_neg hhollow, ?_⟩
    show Dict.empty.insert "userInfo" _ = (Dict.empty.insert "userInfo" _).mapValues _
    rw [Dict.mapValues_insert, Fcm.userInfo_asText]
    rfl

/-! ## The time to live -/

theorem Fcm.seconds_zero : seconds 0 = "" := rfl

theorem Fcm.seconds_of_pos {t : Nat} (h : 0 < t) : seconds t = toString t ++ "s" := if_pos h

theorem Fcm.append_s_ne_empty (text : String) : text ++ "s" ≠ "" := by
  intro h
  have hlist := congrArg String.toList h
  rw [String.toList_append] at hlist
  exact List.append_ne_nil_of_right_ne_nil _ (by decide) hlist

theorem Fcm.seconds_eq_empty_iff (t : Nat) : seconds t = "" ↔ t = 0 := by
  rcases Nat.eq_zero_or_pos t with rfl | ht
  · exact ⟨fun _ => rfl, fun _ => seconds_zero⟩
  · rw [seconds_of_pos ht]
    exact ⟨fun h => absurd h (append_s_ne_empty _), fun h => absurd h (Nat.ne_of_gt ht)⟩

/-- Different numbers of seconds are written differently. -/
theorem Fcm.seconds_eq_iff (t : Nat) {k : Nat} (hk : 0 < k) :
    seconds t = toString k ++ "s" ↔ t = k := by
  constructor
  · intro heq
    rcases Nat.eq_zero_or_pos t with rfl | ht
    · exact absurd heq.symm (append_s_ne_empty _)
    · rw [seconds_of_pos ht] at heq
      have hlist := congrArg String.toList heq
      rw [String.toList_append, String.toList_append] at hlist
      have hdigits : Codec.decimal.write (t : Int) = Codec.decimal.write (k : Int) :=
        String.toList_inj.mp (List.append_cancel_right hlist)
      have hread := congrArg Codec.decimal.read? hdigits
      rw [Codec.decimal.read?_write, Codec.decimal.read?_write] at hread
      exact Int.ofNat_inj.mp (Option.some.inj hread)
  · rintro rfl
    exact seconds_of_pos hk

/-! ## Conversion -/

/-- Both Google services refuse encrypted data without data, and are otherwise told the same: the
    data of the one are those of the other as text, under the same keys, and the two requests stand
    in place of the same pushes and are kept as long. -/
theorem Payload.convert_agrees (n : Notification) {payload : Payload} {policy : Policy}
    (hshared : payload.IsShared policy) :
    (payload.IsHollow ∧
      Fcm.convert (n.carrying payload) policy = .error .emptyEncryptedPayload ∧
      Gcm.convert (n.carrying payload) policy = .error .emptyEncryptedPayload) ∨
    (¬ payload.IsHollow ∧ ∃ m r a,
      Fcm.convert (n.carrying payload) policy = .ok (.send m) ∧
      Gcm.convert (n.carrying payload) policy = .ok (.send r) ∧
      m.data = r.data.mapValues Value.asText ∧ m.data.keys = r.data.keys ∧
      m.android = some a ∧ a.collapseKey = r.collapseKey ∧ r.collapseKey = n.collapseKey ∧
      r.timeToLive = n.timeToLive ∧ (a.timeToLive = "" ↔ n.timeToLive = 0) ∧
      ∀ k, 0 < k → (a.timeToLive = toString k ++ "s" ↔ n.timeToLive = k)) := by
  by_cases hhollow : payload.IsHollow
  · obtain ⟨hfcm, hgcm⟩ := Payload.refused_of_isHollow hhollow policy
    rw [Fcm.convert_payload, Gcm.convert_payload, hfcm, hgcm]
    exact .inl ⟨hhollow, rfl, rfl⟩
  · obtain ⟨m, r, hm, hr, hdata⟩ := Payload.data_asText hshared hhollow
    rw [Fcm.convert_payload, Gcm.convert_payload, hm, hr]
    have henveloped : (Fcm.envelop n m).data = (Gcm.envelop n r).data.mapValues Value.asText := by
      show m.data.ordered toString n.sequence = (r.data.ordered .int n.sequence).mapValues _
      rw [Dict.mapValues_ordered, hdata]
      rfl
    have hkeys : (Fcm.envelop n m).data.keys = (Gcm.envelop n r).data.keys := by
      rw [henveloped]
      exact Dict.keys_eq fun key => by rw [Dict.get?_mapValues, Option.isSome_map]
    exact .inr ⟨hhollow, _, _, _, rfl, rfl, henveloped, hkeys, rfl, rfl, rfl, rfl,
      Fcm.seconds_eq_empty_iff n.timeToLive, fun k hk => Fcm.seconds_eq_iff n.timeToLive hk⟩

/-- A text to show with a message id, in order and kept for ninety seconds. -/
theorem Payload.convert_agrees_alerting :
    (Payload.alerting { mid := some "m-1" }).IsShared { allowAlerts := true } ∧ ∃ m r a,
      Fcm.convert (Notification.carrying { timeToLive := 90, sequence := 5 }
        (.alerting { mid := some "m-1" })) { allowAlerts := true } = .ok (.send m) ∧
      Gcm.convert (Notification.carrying { timeToLive := 90, sequence := 5 }
        (.alerting { mid := some "m-1" })) { allowAlerts := true } = .ok (.send r) ∧
      m.data = r.data.mapValues Value.asText ∧ m.data.keys = r.data.keys ∧
      m.android = some a ∧ a.collapseKey = r.collapseKey ∧
      a.timeToLive = toString 90 ++ "s" ∧ r.timeToLive = 90 := by
  have hshared : (Payload.alerting { mid := some "m-1" }).IsShared { allowAlerts := true } := rfl
  obtain ⟨hhollow, -⟩ | ⟨-, m, r, a, hm, hr, hdata, hkeys, ha, hkey, -, htime, -, hseconds⟩ :=
    Payload.convert_agrees { timeToLive := 90, sequence := 5 } hshared
  · exact hhollow.elim
  · exact ⟨hshared, m, r, a, hm, hr, hdata, hkeys, ha, hkey, (hseconds 90 (by decide)).mpr rfl,
      htime⟩

end Courier
