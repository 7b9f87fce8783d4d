import Courier.Proofs.Conversion.Envelope
import Mathlib.Tactic.TFAE

/-!
# Requests that fit together

Apple's push service rejects or drops a push whose kind, priority and payload do not fit together.
Every request that a notification is converted to is consistent: what stands in its `aps` object and
beside it follows from the kind of the payload, from its text to show and from whether alerts are
allowed.

Results:

* `Apns.partsOf_of_parts`: the four ways to make parts of a payload.
* `Apns.isAlertOf_alertFields`: what is shown of a text.
* `Apns.PartsOf.get?_aps`: what stands in the `aps` object of a payload.
* `Apns.PartsOf.mem_fieldKeys`: what stands beside it.
* `Apns.convert_consistent`: every request is consistent.
-/

namespace Courier

open Json (Value)

/-- The text to show of a payload, whether it is the payload or a part of it. -/
def Payload.shown? : Payload → Option AlertingPush
  | .alerting p => some p
  | .encrypted p => p.publicAlerting
  | .voip _ | .silent => none

/-- Whether a text has a title or a body. -/
def AlertingPush.Speaks (p : AlertingPush) : Prop :=
  p.locTitle.isSome ∨ p.title ≠ "" ∨ p.locBody.isSome ∨ p.body ≠ ""

instance (p : AlertingPush) : Decidable p.Speaks :=
  inferInstanceAs (Decidable (_ ∨ _ ∨ _ ∨ _))

namespace Apns

variable {policy : Policy} {capabilities : Capabilities} {payload : Payload} {p : Parts}

/-! ## Kinds of payloads -/

/-- Whether a payload is a text that must not be shown. -/
def IsSuppressed (policy : Policy) (payload : Payload) : Prop :=
  policy.allowAlerts = false ∧ ∃ p, payload = .alerting p

/-- Whether the app may change a push before it is shown. -/
def IsMutable (policy : Policy) (payload : Payload) : Prop :=
  (policy.allowAlerts = true ∧ ∃ p, payload = .alerting p) ∨ ∃ p, payload = .encrypted p

theorem IsSuppressed.not_isMutable (h : IsSuppressed policy payload) :
    ¬ IsMutable policy payload := by
  obtain ⟨hallow, p, rfl⟩ := h
  simp [IsMutable, hallow]

/-- What is shown and heard of a text, or only its number where alerts are disallowed. -/
def shownAps (policy : Policy) : Option AlertingPush → Dict Value
  | some p => if policy.allowAlerts then addAlert p policy.sound .empty else addBadge p.badge .empty
  | none => .empty

/-- The ways to make parts of a payload. -/
inductive PartsOf (policy : Policy) (capabilities : Capabilities) : Payload → Parts → Prop
  | voip (p : VoipPush) (capable : capabilities.supportsVoip = true) :
    PartsOf policy capabilities (.voip p) ⟨.voip, shownAps policy none, voipFields p⟩
  | shown (p : AlertingPush) (allowed : policy.allowAlerts = true) :
    PartsOf policy capabilities (.alerting p) ⟨.alert, addMutable (shownAps policy (some p)),
      (Dict.empty.insertSome "mid" (p.mid.map .str)).insertSome "category" (p.category.map .str)⟩
  | suppressed (p : AlertingPush) (disallowed : policy.allowAlerts = false) :
    PartsOf policy capabilities (.alerting p)
      ⟨.background, addWake (shownAps policy (some p)), .empty⟩
  | encrypted (p : EncryptedPush) (nonempty : p.data ≠ []) :
    PartsOf policy capabilities (.encrypted p) ⟨.alert,
      addMutable (shownAps policy p.publicAlerting),
      Dict.empty.insert "user_info" (.ofDict (encryptedFields p))⟩

theorem partsOf_of_parts (h : parts payload policy capabilities = .ok (some p)) :
    PartsOf policy capabilities payload p := by
  cases payload with
  | silent => cases h
  | voip v =>
    rw [parts] at h
    split at h
    · cases h
      exact .voip v ‹_›
    · cases h
  | alerting a =>
    replace h : alertingParts a policy = p := Option.some.inj (Except.ok.inj h)
    rw [alertingParts] at h
    split at h
    · have hshown : PartsOf policy capabilities (.alerting a) _ := .shown a ‹_›
      rw [shownAps, if_pos ‹_›, h] at hshown
      exact hshown
    · rename_i hallow
      have hsuppressed : PartsOf policy capabilities (.alerting a) _ :=
        .suppressed a (by simpa using hallow)
      rw [shownAps, if_neg hallow] at hsuppressed
      exact h ▸ hsuppressed
  | encrypted e =>
    rw [parts, encryptedParts] at h
    split at h
    · cases h
    · cases h
      have hencrypted : PartsOf policy capabilities (.encrypted e) _ := .encrypted e ‹_›
      obtain ⟨nonce, data, shown⟩ := e
      cases shown <;> exact hencrypted

/-! ## What is shown -/

theorem isEmpty_alertFields (p : AlertingPush) : (alertFields p).isEmpty = true ↔ ¬ p.Speaks := by
  unfold alertFields AlertingPush.Speaks
  cases p.locTitle <;> cases p.locBody <;> by_cases ht : p.title = "" <;>
    by_cases hb : p.body = "" <;> simp [ht, hb]

/-- What is shown of a text: of the title and of the body the localized form if there is one, and
    the plain form otherwise. -/
structure IsAlertOf (p : AlertingPush) (alert : Dict Value) : Prop where
  nonempty : alert.keys ≠ []
  locTitle : alert.get? "title-loc-key" = p.locTitle.map (.str ·.key) ∧
    alert.get? "title-loc-args" = p.locTitle.map (.strings ·.args)
  title : alert.get? "title" =
    if p.locTitle.isSome ∨ p.title = "" then none else some (.str p.title)
  oneTitle : ¬ (alert.contains "title" ∧ alert.contains "title-loc-key")
  locBody : alert.get? "loc-key" = p.locBody.map (.str ·.key) ∧
    alert.get? "loc-args" = p.locBody.map (.strings ·.args)
  body : alert.get? "body" =
    if p.locBody.isSome ∨ p.body = "" then none else some (.str p.body)
  oneBody : ¬ (alert.contains "body" ∧ alert.contains "loc-key")

theorem isAlertOf_alertFields {p : AlertingPush} (h : p.Speaks) : IsAlertOf p (alertFields p) := by
  have hnonempty : (alertFields p).keys ≠ [] := by
    rw [ne_eq, ← Dict.isEmpty_iff_keys, isEmpty_alertFields]
    exact not_not_intro h
  refine ⟨hnonempty, ?_, ?_, ?_, ?_, ?_, ?_⟩ <;> unfold alertFields <;> cases p.locTitle <;>
    cases p.locBody <;> by_cases ht : p.title = "" <;> by_cases hb : p.body = "" <;>
    simp [ht, hb, Dict.contains]

theorem get?_addBadge (badge : Int) (aps : Dict Value) (key : String) :
    (addBadge badge aps).get? key =
      if key = "badge" ∧ 0 < badge then some (.int badge) else aps.get? key := by
  unfold addBadge
  split
  · simp [Dict.get?_insert, *]
  · rw [if_neg (by omega)]

theorem get?_addAlert (p : AlertingPush) (sound : String) (key : String) :
    (addAlert p sound .empty).get? key =
      if key = "badge" ∧ 0 < p.badge then some (.int p.badge)
      else if key = "sound" ∧ sound ≠ "" then some (.str sound)
      else if key = "alert" ∧ p.Speaks then some (.ofDict (alertFields p))
      else none := by
  have hempty := isEmpty_alertFields p
  unfold addAlert
  rw [get?_addBadge]
  by_cases hspeaks : p.Speaks <;> by_cases hsound : sound = "" <;>
    simp_all [Dict.get?_insert]

/-- What stands in the `aps` object of a payload with a text to show. -/
theorem get?_shownAps (policy : Policy) (shown : Option AlertingPush) (key : String)
    (value : Value) :
    (shownAps policy shown).get? key = some value ↔ ∃ p, shown = some p ∧
      (key = "badge" ∧ 0 < p.badge ∧ value = .int p.badge ∨
        policy.allowAlerts = true ∧
          (key = "sound" ∧ policy.sound ≠ "" ∧ value = .str policy.sound ∨
            key = "alert" ∧ p.Speaks ∧ value = .ofDict (alertFields p))) := by
  cases shown with
  | none => simp [shownAps]
  | some p =>
    rw [shownAps]
    by_cases hallow : policy.allowAlerts = true
    · rw [if_pos hallow, get?_addAlert]
      grind
    · rw [if_neg hallow, get?_addBadge, Dict.get?_empty]
      grind

theorem shownAps_unmarked (policy : Policy) (shown : Option AlertingPush) {key : String}
    (h : key = "mutable-content" ∨ key = "content-available") :
    (shownAps policy shown).get? key = none := by
  rw [Option.eq_none_iff_forall_ne_some]
  intro value hvalue
  rw [get?_shownAps] at hvalue
  obtain ⟨p, -, ⟨rfl, -⟩ | ⟨-, ⟨rfl, -⟩ | ⟨rfl, -⟩⟩⟩ := hvalue <;> simp at h

/-- What stands in the `aps` object of a payload. -/
theorem PartsOf.get?_aps (h : PartsOf policy capabilities payload p) (key : String)
    (value : Value) :
    p.aps.get? key = some value ↔
      (key = "mutable-content" ∧ IsMutable policy payload ∧ value = .int 1) ∨
      (key = "content-available" ∧ IsSuppressed policy payload ∧ value = .int 1) ∨
      (shownAps policy payload.shown?).get? key = some value := by
  cases h with
  | voip p => simp [IsMutable, IsSuppressed, Payload.shown?]
  | shown p allowed =>
    rw [addMutable, Dict.get?_insert_eq_some_iff (shownAps_unmarked policy _ (.inl rfl))]
    simp [IsMutable, IsSuppressed, Payload.shown?, allowed]
  | suppressed p disallowed =>
    rw [addWake, Dict.get?_insert_eq_some_iff (shownAps_unmarked policy _ (.inr rfl))]
    simp [IsMutable, IsSuppressed, Payload.shown?, disallowed]
  | encrypted p nonempty =>
    rw [addMutable, Dict.get?_insert_eq_some_iff (shownAps_unmarked policy _ (.inl rfl))]
    simp [IsMutable, IsSuppressed, Payload.shown?]

/-! ## What stands beside it -/

/-- The keys of the fields that a payload puts beside the `aps` object. -/
def fieldKeys : List String :=
  ["mid", "category", "user_info", "callId", "attemptIndex", "displayName", "eventBusId",
    "updateType", "disposalReason", "peer", "outPeer", "video"]

theorem PartsOf.mem_fieldKeys (h : PartsOf policy capabilities payload p) {key : String}
    (hkey : p.root.contains key = true) : key ∈ fieldKeys := by
  cases h with
  | voip p =>
    simp only [voipFields, Dict.contains_insertSome, Dict.contains_ofList, List.map_cons,
      List.map_nil, List.mem_cons, List.not_mem_nil, or_false] at hkey
    obtain ⟨rfl, -⟩ | ⟨rfl, -⟩ | rfl | rfl | rfl | rfl | rfl | rfl | rfl := hkey <;> decide
  | shown p =>
    rw [Dict.contains_insertSome, Dict.contains_insertSome] at hkey
    obtain ⟨rfl, -⟩ | ⟨rfl, -⟩ | hempty := hkey
    · decide
    · decide
    · cases hempty
  | suppressed p => cases hkey
  | encrypted p =>
    rw [Dict.contains_insert] at hkey
    obtain rfl | hempty := hkey
    · decide
    · cases hempty

/-! ## Requests -/

theorem PartsOf.pushType_voip_iff (h : PartsOf policy capabilities payload p) :
    p.pushType = .voip ↔ ∃ call, payload = .voip call := by
  cases h <;> simp

theorem PartsOf.pushType_background_iff (h : PartsOf policy capabilities payload p) :
    p.pushType = .background ↔ IsSuppressed policy payload := by
  cases h <;> simp_all [IsSuppressed]

/-- What must hold of a request with a root object and the `aps` object in it. -/
structure Consistent (n : Notification) (policy : Policy) (capabilities : Capabilities)
    (r : Request) (payload : Payload) (root aps : Dict Value) : Prop where
  carried : n.payload = some payload
  object : r.payload = .ofDict root
  nested : root.get? "aps" = some (.ofDict aps)
  /-- Beside the `aps` object stand the number of the push and the fields of its payload only. -/
  keys : ∀ key, root.contains key = true → key = "aps" ∨ key = "seq" ∨ key ∈ fieldKeys
  sequence : ∀ value, root.get? "seq" = some value ↔ 0 < n.sequence ∧ value = .int n.sequence
  voip : r.pushType = .voip ↔ ∃ call, payload = .voip call
  capable : r.pushType = .voip → capabilities.supportsVoip = true
  /-- A push is in the background in every respect or in none. -/
  background : [r.pushType = .background, r.priority = 5,
    aps.get? "content-available" = some (.int 1), IsSuppressed policy payload].TFAE
  immediate : r.pushType ≠ .background → r.priority = 10 ∧ aps.get? "content-available" = none
  quiet : aps.contains "alert" = true ∨ aps.contains "sound" = true → policy.allowAlerts = true
  alert : ∀ value, aps.get? "alert" = some value →
    ∃ p alert, payload.shown? = some p ∧ value = .ofDict alert ∧ IsAlertOf p alert
  /-- An allowed text with something in it is shown. -/
  alerting : ∀ p, payload.shown? = some p → policy.allowAlerts = true →
    (aps.contains "alert" = true ↔ p.Speaks)
  isMutable : ∀ value, aps.get? "mutable-content" = some value ↔
    IsMutable policy payload ∧ value = .int 1
  apart : ¬ (aps.contains "mutable-content" = true ∧ aps.contains "content-available" = true)
  badge : ∀ value, aps.get? "badge" = some value ↔
    ∃ p, payload.shown? = some p ∧ 0 < p.badge ∧ value = .int p.badge

theorem PartsOf.root_sequence (h : PartsOf policy capabilities payload p) :
    p.root.get? "seq" = none := by
  cases hroot : p.root.get? "seq" with
  | none => rfl
  | some value =>
    have hkey : p.root.contains "seq" = true := by rw [Dict.contains, hroot, Option.isSome_some]
    exact absurd (h.mem_fieldKeys hkey) (by decide)

/-- What is shown or heard is allowed. -/
theorem PartsOf.allowed (h : PartsOf policy capabilities payload p) {key : String}
    (hkey : key = "alert" ∨ key = "sound") {value : Value} (hvalue : p.aps.get? key = some value) :
    policy.allowAlerts = true := by
  rw [h.get?_aps, get?_shownAps] at hvalue
  obtain ⟨rfl, -⟩ | ⟨rfl, -⟩ | ⟨q, -, ⟨rfl, -⟩ | ⟨hallow, -⟩⟩ := hvalue
  · simp at hkey
  · simp at hkey
  · simp at hkey
  · exact hallow

theorem PartsOf.consistent {n : Notification} (h : PartsOf policy capabilities payload p)
    (hn : n.payload = some payload) (now : Moment) :
    Consistent n policy capabilities (envelop n policy now p) payload
      ((p.root.ordered .int n.sequence).insert "aps" (.ofDict p.aps)) p.aps where
  carried := hn
  object := rfl
  nested := Dict.get?_insert_self _ _ _
  keys := by
    intro key hkey
    by_cases hseq : key = "seq"
    · exact .inr (.inl hseq)
    · rw [Dict.contains_insert, Dict.contains, Dict.get?_ordered _ _ _ hseq] at hkey
      exact hkey.imp_right fun hroot => .inr (h.mem_fieldKeys hroot)
  sequence := by
    intro value
    rw [Dict.get?_insert_of_ne _ (by decide), Dict.ordered]
    split
    · rw [Dict.get?_insert_self]
      grind
    · rw [h.root_sequence]
      grind
  voip := h.pushType_voip_iff
  capable := by
    intro hvoip
    cases h with
    | voip _ capable => exact capable
    | shown _ _ | suppressed _ _ | encrypted _ _ => cases hvoip
  background := by
    have hpriority : (envelop n policy now p).priority = 5 ↔ p.pushType = .background := by
      show p.pushType.priority = 5 ↔ _
      cases p.pushType <;> decide
    have hwake : p.aps.get? "content-available" = some (.int 1) ↔ IsSuppressed policy payload := by
      simp [h.get?_aps, get?_shownAps]
    tfae_have 1 ↔ 2 := hpriority.symm
    tfae_have 1 ↔ 4 := h.pushType_background_iff
    tfae_have 3 ↔ 4 := hwake
    tfae_finish
  immediate := by
    intro hother
    have hshown : ¬ IsSuppressed policy payload := mt h.pushType_background_iff.2 hother
    constructor
    · show p.pushType.priority = 10
      cases hkind : p.pushType with
      | background => exact absurd hkind hother
      | alert | voip => rfl
    · simp [Option.eq_none_iff_forall_ne_some, h.get?_aps, get?_shownAps, hshown]
  quiet := by
    simp only [Dict.contains, Option.isSome_iff_exists]
    rintro (⟨value, hvalue⟩ | ⟨value, hvalue⟩)
    · exact h.allowed (.inl rfl) hvalue
    · exact h.allowed (.inr rfl) hvalue
  alert := by
    intro value hvalue
    obtain ⟨q, hq, -, hspeaks, halert⟩ : ∃ q, payload.shown? = some q ∧
        policy.allowAlerts = true ∧ q.Speaks ∧ value = .ofDict (alertFields q) := by
      simpa [h.get?_aps, get?_shownAps] using hvalue
    exact ⟨q, alertFields q, hq, halert, isAlertOf_alertFields hspeaks⟩
  alerting := by
    intro q hq hallow
    simp [Dict.contains, Option.isSome_iff_exists, h.get?_aps, get?_shownAps, hq, hallow]
  isMutable := by
    intro value
    simp [h.get?_aps, get?_shownAps]
  apart := by
    rintro ⟨hmutable, hwake⟩
    have hshown : IsMutable policy payload := by
      simpa [Dict.contains, Option.isSome_iff_exists, h.get?_aps, get?_shownAps] using hmutable
    have hsuppressed : IsSuppressed policy payload := by
      simpa [Dict.contains, Option.isSome_iff_exists, h.get?_aps, get?_shownAps] using hwake
    exact hsuppressed.not_isMutable hshown
  badge := by
    intro value
    simp [h.get?_aps, get?_shownAps]

/-- Every request that a notification is converted to is consistent. -/
theorem convert_consistent {n : Notification} {now : Moment} {r : Request}
    (h : convert n policy capabilities now = .ok (.send r)) :
    ∃ payload root aps, Consistent n policy capabilities r payload root aps := by
  cases hpayload : n.payload with
  | none =>
    rw [convert_missing hpayload] at h
    cases h
  | some payload =>
    rw [n.eq_carrying hpayload, convert_payload] at h
    cases hparts : parts payload policy capabilities with
    | error e =>
      rw [hparts] at h
      cases h
    | ok made =>
      rw [hparts] at h
      cases made with
      | none => cases h
      | some p =>
        cases h
        exact ⟨payload, _, p.aps, (partsOf_of_parts hparts).consistent hpayload now⟩

/-- The third push of encrypted data, with a title and a number to show. -/
theorem convert_consistent_encrypted :
    ∃ r, convert
        { Notification.sealing {} 7 [1] (some { title := "a", badge := 2 }) with sequence := 3 }
        { allowAlerts := true } {} default = .ok (.send r) ∧
      ∃ payload root aps, Consistent
        { Notification.sealing {} 7 [1] (some { title := "a", badge := 2 }) with sequence := 3 }
        { allowAlerts := true } {} r payload root aps :=
  ⟨_, rfl, convert_consistent rfl⟩

end Apns

end Courier
