import Courier.Proofs.Conversion.Envelope

/-!
# Encrypted data with a text to show

An encrypted push may have a part for everybody to see. It ought to be sent as that text alone would
be, with the encrypted data beside it. Firebase is sent just that. The legacy Google service is sent
the text without its message id and its category.

Results:

* `EncryptedPush.convert_shown`: what is sent for encrypted data with a text to show, against what
  is sent for a text to show.
* `EncryptedPush.not_convert_shown`: where alerts are allowed the legacy service loses a message id.
-/

namespace Courier

/-- A text to show without what the app is told beside it. -/
def AlertingPush.textOnly (p : AlertingPush) : AlertingPush :=
  { p with mid := none, category := none }

theorem AlertingPush.textOnly_eq {p : AlertingPush} (hmid : p.mid = none)
    (hcategory : p.category = none) : p.textOnly = p := by
  cases p
  simp_all [textOnly]

/-- Encrypted data with a text to show. -/
def EncryptedPush.showing (e : EncryptedPush) (p : AlertingPush) : EncryptedPush :=
  { e with publicAlerting := some p }

/-! ## The legacy Google service -/

namespace Gcm

/-- One conversion sends what another one sends, and the encrypted data beside it. -/
def AddsUserInfo (e : EncryptedPush) (plain full : Except ConversionError (Converted Request)) :
    Prop :=
  ∃ r, plain = .ok (.send r) ∧ r.data.get? "userInfo" = none ∧
    full = .ok (.send { r with data := r.data.insert "userInfo" (userInfo e) })

/-- A request that shows a text, or only wakes the app where alerts are disallowed. -/
def shown (p : AlertingPush) (policy : Policy) (r : Request) : Request :=
  if policy.allowAlerts then addAlert p policy.sound r else degrade p r

theorem addPayload_textOnly (p : AlertingPush) (policy : Policy) (r : Request) :
    addPayload (.alerting p.textOnly) policy r = .ok (shown p policy r) := by
  unfold shown
  cases h : policy.allowAlerts <;> simp only [addPayload, h] <;> rfl

theorem addPayload_showing {e : EncryptedPush} (h : e.data ≠ []) (p : AlertingPush)
    (policy : Policy) (r : Request) :
    addPayload (.encrypted (e.showing p)) policy r =
      .ok { shown p policy r with
        data := (shown p policy r).data.insert "userInfo" (userInfo e) } := by
  have hdata : (e.showing p).data ≠ [] := h
  rw [addPayload, addEncrypted, if_neg hdata]
  rfl

theorem get?_shown (p : AlertingPush) (policy : Policy) (r : Request) {key : String}
    (h : key ≠ "badge") : (shown p policy r).data.get? key = r.data.get? key := by
  unfold shown degrade
  split
  · rfl
  · show (if p.badge > 0 then r.data.insert "badge" (.int p.badge) else r.data).get? key = _
    split
    · exact Dict.get?_insert_of_ne _ h _
    · rfl

variable (n : Notification) {e : EncryptedPush} (p : AlertingPush) (policy : Policy)

theorem convert_textOnly :
    convert (n.carrying (.alerting p.textOnly)) policy =
      .ok (.send (envelop n (shown p policy { priority := "high" }))) := by
  rw [convert_payload, addPayload_textOnly]
  rfl

theorem convert_showing (h : e.data ≠ []) :
    convert (n.carrying (.encrypted (e.showing p))) policy =
      let r := envelop n (shown p policy { priority := "high" })
      .ok (.send { r with data := r.data.insert "userInfo" (userInfo e) }) := by
  rw [convert_payload, addPayload_showing h]
  show Except.ok (Converted.send (envelop n _)) = _
  rw [envelop_insert n _ (by decide)]

theorem get?_envelop_shown {key : String} (hseq : key ≠ "seq") (hbadge : key ≠ "badge") :
    (envelop n (shown p policy { priority := "high" })).data.get? key = none := by
  show ((shown p policy { priority := "high" }).data.ordered _ n.sequence).get? key = none
  rw [Dict.get?_ordered _ _ _ hseq, get?_shown _ _ _ hbadge]
  rfl

/-- The text is sent as it would be alone, but for what the app is told beside it. -/
theorem addsUserInfo_textOnly (h : e.data ≠ []) :
    AddsUserInfo e (convert (n.carrying (.alerting p.textOnly)) policy)
      (convert (n.carrying (.encrypted (e.showing p))) policy) :=
  ⟨_, convert_textOnly n p policy, get?_envelop_shown n p policy (by decide) (by decide),
    convert_showing n p policy h⟩

/-- Where alerts are allowed a text to show brings its message id and its category. -/
theorem convert_alerting (hallow : policy.allowAlerts = true) :
    ∃ r, convert (n.carrying (.alerting p)) policy = .ok (.send r) ∧
      r.data.get? "mid" = p.mid.map .str ∧ r.data.get? "category" = p.category.map .str := by
  rw [convert_payload, addPayload, if_pos hallow]
  refine ⟨_, rfl, ?_, ?_⟩
  · show (Dict.ordered _ _ _).get? "mid" = _
    rw [Dict.get?_ordered _ _ _ (by decide), Dict.get?_insertSome_of_ne _ (by decide),
      Dict.get?_insertSome_self]
    exact Option.or_none
  · show (Dict.ordered _ _ _).get? "category" = _
    rw [Dict.get?_ordered _ _ _ (by decide), Dict.get?_insertSome_self,
      Dict.get?_insertSome_of_ne _ (by decide)]
    exact Option.or_none

theorem addsUserInfo_iff (h : e.data ≠ []) :
    AddsUserInfo e (convert (n.carrying (.alerting p)) policy)
        (convert (n.carrying (.encrypted (e.showing p))) policy) ↔
      (policy.allowAlerts = true → p.mid = none ∧ p.category = none) := by
  constructor
  · rintro ⟨r, hplain, -, hfull⟩ hallow
    obtain ⟨r', hplain', hmid, hcategory⟩ := convert_alerting n p policy hallow
    obtain rfl : r' = r := by rw [hplain] at hplain'; cases hplain'; rfl
    have hdata : (envelop n (shown p policy { priority := "high" })).data.insert "userInfo"
        (userInfo e) = r'.data.insert "userInfo" (userInfo e) := by
      rw [convert_showing n p policy h] at hfull
      exact congrArg Request.data (Converted.send.inj (Except.ok.inj hfull))
    -- the two requests hold the same at every key but the one that is added
    have hget {key : String} (hkey : key ≠ "userInfo") (hseq : key ≠ "seq")
        (hbadge : key ≠ "badge") : r'.data.get? key = none := by
      have := congrArg (Dict.get? · key) hdata
      simp only [Dict.get?_insert_of_ne _ hkey] at this
      rw [← this, get?_envelop_shown n p policy hseq hbadge]
    rw [hget (by decide) (by decide) (by decide)] at hmid hcategory
    exact ⟨Option.map_eq_none_iff.mp hmid.symm, Option.map_eq_none_iff.mp hcategory.symm⟩
  · intro hnone
    cases hallow : policy.allowAlerts with
    | true =>
      obtain ⟨hmid, hcategory⟩ := hnone hallow
      have := addsUserInfo_textOnly n p policy h
      rwa [AlertingPush.textOnly_eq hmid hcategory] at this
    | false =>
      have hsame : convert (n.carrying (.alerting p)) policy =
          convert (n.carrying (.alerting p.textOnly)) policy := by
        rw [convert_payload, convert_payload, addPayload, addPayload, hallow]
        rfl
      rw [hsame]
      exact addsUserInfo_textOnly n p policy h

end Gcm

/-! ## Firebase -/

namespace Fcm

/-- One conversion sends what another one sends, and the encrypted data beside it. -/
def AddsUserInfo (e : EncryptedPush) (plain full : Except ConversionError (Converted Message)) :
    Prop :=
  ∃ m, plain = .ok (.send m) ∧ m.data.get? "userInfo" = none ∧
    full = .ok (.send { m with data := m.data.insert "userInfo" (userInfo e) })

variable (n : Notification) {e : EncryptedPush} (p : AlertingPush) {policy : Policy}

theorem convert_alerting (hallow : policy.allowAlerts = true) :
    convert (n.carrying (.alerting p)) policy = .ok (.send (envelop n (addAlert p {}))) := by
  rw [convert_payload, payloadMessage, if_pos hallow]
  rfl

theorem convert_showing (h : e.data ≠ []) (hallow : policy.allowAlerts = true) :
    convert (n.carrying (.encrypted (e.showing p))) policy =
      let m := envelop n (addAlert p {})
      .ok (.send { m with data := m.data.insert "userInfo" (userInfo e) }) := by
  have hdata : (e.showing p).data ≠ [] := h
  rw [convert_payload, payloadMessage, encryptedMessage, if_neg hdata, EncryptedPush.showing]
  simp only [if_pos hallow]
  show Except.ok (Converted.send (envelop n _)) = _
  rw [envelop_insert n _ (by decide)]
  rfl

theorem get?_envelop_addAlert :
    (envelop n (addAlert p {})).data.get? "userInfo" = none := by
  show (Dict.ordered _ _ ((Dict.empty.insertSome "mid" p.mid).insertSome "category" _)).get? _ = _
  rw [Dict.get?_ordered _ _ _ (by decide), Dict.get?_insertSome_of_ne _ (by decide),
    Dict.get?_insertSome_of_ne _ (by decide), Dict.get?_empty]

theorem addsUserInfo_alerting (h : e.data ≠ []) (hallow : policy.allowAlerts = true) :
    AddsUserInfo e (convert (n.carrying (.alerting p)) policy)
      (convert (n.carrying (.encrypted (e.showing p))) policy) :=
  ⟨_, convert_alerting n p hallow, get?_envelop_addAlert n p, convert_showing n p h hallow⟩

end Fcm

/-! ## Both Google services -/

/-- The legacy service is sent the text as it would be alone, without message id and category: all
    of it exactly where alerts are disallowed or there is neither. Firebase is sent all of it
    wherever alerts are allowed. -/
theorem EncryptedPush.convert_shown (n : Notification) {e : EncryptedPush} (hdata : e.data ≠ [])
    (p : AlertingPush) (policy : Policy) :
    Gcm.AddsUserInfo e (Gcm.convert (n.carrying (.alerting p.textOnly)) policy)
      (Gcm.convert (n.carrying (.encrypted (e.showing p))) policy) ∧
    (Gcm.AddsUserInfo e (Gcm.convert (n.carrying (.alerting p)) policy)
        (Gcm.convert (n.carrying (.encrypted (e.showing p))) policy) ↔
      (policy.allowAlerts = true → p.mid = none ∧ p.category = none)) ∧
    (policy.allowAlerts = true →
      Fcm.AddsUserInfo e (Fcm.convert (n.carrying (.alerting p)) policy)
        (Fcm.convert (n.carrying (.encrypted (e.showing p))) policy)) :=
  ⟨Gcm.addsUserInfo_textOnly n p policy hdata, Gcm.addsUserInfo_iff n p policy hdata,
    Fcm.addsUserInfo_alerting n p hdata⟩

/-- A text with a message id, where alerts are allowed. -/
theorem EncryptedPush.convert_shown_mid :
    ([0x73] : List UInt8) ≠ [] ∧
    Fcm.AddsUserInfo { nonce := -7, data := [0x73] }
      (Fcm.convert (Notification.carrying { sequence := 3 }
        (.alerting { title := "Alice", mid := some "m-1" })) { allowAlerts := true })
      (Fcm.convert (Notification.carrying { sequence := 3 } (.encrypted
        (EncryptedPush.showing { nonce := -7, data := [0x73] }
          { title := "Alice", mid := some "m-1" }))) { allowAlerts := true }) ∧
    ¬ Gcm.AddsUserInfo { nonce := -7, data := [0x73] }
      (Gcm.convert (Notification.carrying { sequence := 3 }
        (.alerting { title := "Alice", mid := some "m-1" })) { allowAlerts := true })
      (Gcm.convert (Notification.carrying { sequence := 3 } (.encrypted
        (EncryptedPush.showing { nonce := -7, data := [0x73] }
          { title := "Alice", mid := some "m-1" }))) { allowAlerts := true }) := by
  have hdata : ([0x73] : List UInt8) ≠ [] := by decide
  obtain ⟨-, hgcm, hfcm⟩ := EncryptedPush.convert_shown { sequence := 3 }
    (e := { nonce := -7, data := [0x73] }) hdata { title := "Alice", mid := some "m-1" }
    { allowAlerts := true }
  exact ⟨hdata, hfcm rfl, fun h => nomatch (hgcm.mp h rfl).1⟩

/-- Not every text to show is sent as it would be alone: the legacy service loses a message id. -/
theorem EncryptedPush.not_convert_shown :
    ¬ ∀ (n : Notification) (e : EncryptedPush) (p : AlertingPush) (policy : Policy), e.data ≠ [] →
      Gcm.AddsUserInfo e (Gcm.convert (n.carrying (.alerting p)) policy)
        (Gcm.convert (n.carrying (.encrypted (e.showing p))) policy) ∧
      (policy.allowAlerts = true →
        Fcm.AddsUserInfo e (Fcm.convert (n.carrying (.alerting p)) policy)
          (Fcm.convert (n.carrying (.encrypted (e.showing p))) policy)) := by
  intro h
  -- the bytes of "secret"
  let e : EncryptedPush := { nonce := -7, data := [0x73, 0x65, 0x63, 0x72, 0x65, 0x74] }
  let p : AlertingPush :=
    { title := "Alice", body := "Hello", badge := 3, mid := some "m-1", category := some "message" }
  have hdata : e.data ≠ [] := by decide
  have hgcm := (h {} e p { allowAlerts := true } hdata).1
  exact nomatch ((Gcm.addsUserInfo_iff {} p { allowAlerts := true } hdata).mp hgcm rfl).1

end Courier
