import Courier.Proofs.Conversion.Envelope

/-!
# Suppressed texts

Where a project disallows alerts, what a text to show says must not get into any request. A view of
a notification leaves it out, and with alerts disallowed each converter makes the same of a
notification as of its view. So two notifications that look alike in the view are sent alike.

Results:

* `Apns.convert_badgeOnly`, `Gcm.convert_badgeOnly`, `Fcm.convert_unsaid`: with alerts disallowed a
  notification is converted as its view is.
* `Notification.convert_suppressed`: nothing of a suppressed text gets into a request.
-/

namespace Courier

/-! ## Views -/

/-- A text to show without what it says. -/
def AlertingPush.unsaid (p : AlertingPush) : AlertingPush :=
  { p with title := "", locTitle := none, body := "", locBody := none, mid := none }

/-- A text to show without what it says and of which category it is. -/
def AlertingPush.badgeOnly (p : AlertingPush) : AlertingPush := { p.unsaid with category := none }

/-- Changes the text to show of a payload, whether it is the payload or a part of it. -/
def Payload.mapAlerting (f : AlertingPush → AlertingPush) : Payload → Payload
  | .voip p => .voip p
  | .alerting p => .alerting (f p)
  | .encrypted p => .encrypted { p with publicAlerting := p.publicAlerting.map f }
  | .silent => .silent

/-- Changes the text to show of a notification. -/
def Notification.mapAlerting (f : AlertingPush → AlertingPush) (n : Notification) : Notification :=
  { n with payload := n.payload.map (Payload.mapAlerting f) }

theorem Payload.mapAlerting_mapAlerting (f g : AlertingPush → AlertingPush) (payload : Payload) :
    (payload.mapAlerting f).mapAlerting g = payload.mapAlerting (g ∘ f) := by
  cases payload <;> simp [mapAlerting]

/-- Less of a text is seen without its category. -/
theorem Notification.badgeOnly_unsaid (n : Notification) :
    (n.mapAlerting .unsaid).mapAlerting .badgeOnly = n.mapAlerting .badgeOnly := by
  simp only [mapAlerting, Option.map_map]
  congr 2
  funext payload
  exact payload.mapAlerting_mapAlerting _ _

/-! ## Conversion of a view -/

variable {policy policy' : Policy}

theorem Apns.parts_badgeOnly (h : policy.allowAlerts = false) (h' : policy'.allowAlerts = false)
    (capabilities : Capabilities) (payload : Payload) :
    parts (payload.mapAlerting .badgeOnly) policy capabilities =
      parts payload policy' capabilities := by
  cases payload with
  | voip p => rfl
  | silent => rfl
  | alerting p =>
    simp only [Payload.mapAlerting, parts, alertingParts, h, h']
    rfl
  | encrypted p =>
    obtain ⟨nonce, data, shown⟩ := p
    cases shown with
    | none => rfl
    | some p =>
      simp only [Payload.mapAlerting, Option.map_some, parts, encryptedParts, h, h']
      rfl

theorem Gcm.addPayload_badgeOnly (h : policy.allowAlerts = false)
    (h' : policy'.allowAlerts = false) (r : Request) (payload : Payload) :
    addPayload (payload.mapAlerting .badgeOnly) policy r = addPayload payload policy' r := by
  cases payload with
  | voip p => rfl
  | silent => rfl
  | alerting p =>
    simp only [Payload.mapAlerting, addPayload, h, h']
    rfl
  | encrypted p =>
    obtain ⟨nonce, data, shown⟩ := p
    cases shown with
    | none => rfl
    | some p =>
      simp only [Payload.mapAlerting, Option.map_some, addPayload, addEncrypted, h, h']
      rfl

theorem Fcm.payloadMessage_unsaid (h : policy.allowAlerts = false)
    (h' : policy'.allowAlerts = false) (payload : Payload) :
    payloadMessage (payload.mapAlerting .unsaid) policy = payloadMessage payload policy' := by
  cases payload with
  | voip p => rfl
  | silent => rfl
  | alerting p =>
    simp only [Payload.mapAlerting, payloadMessage, h, h']
    rfl
  | encrypted p =>
    obtain ⟨nonce, data, shown⟩ := p
    cases shown with
    | none => rfl
    | some p =>
      simp only [Payload.mapAlerting, Option.map_some, payloadMessage, encryptedMessage, h, h']
      rfl

theorem Notification.mapAlerting_of_some (f : AlertingPush → AlertingPush) {n : Notification}
    {payload : Payload} (h : n.payload = some payload) :
    n.mapAlerting f = n.carrying (payload.mapAlerting f) := by
  rw [mapAlerting, h]
  rfl

theorem Notification.mapAlerting_of_none (f : AlertingPush → AlertingPush) {n : Notification}
    (h : n.payload = none) : (n.mapAlerting f).payload = none := by
  rw [mapAlerting, h]
  rfl

theorem Apns.convert_badgeOnly (h : policy.allowAlerts = false) (h' : policy'.allowAlerts = false)
    (htopic : policy.topic = policy'.topic) (n : Notification) (capabilities : Capabilities)
    (now : Moment) :
    convert (n.mapAlerting .badgeOnly) policy capabilities now =
      convert n policy' capabilities now := by
  cases hpayload : n.payload with
  | none =>
    have hview := Notification.mapAlerting_of_none .badgeOnly hpayload
    rw [convert_missing hview, convert_missing hpayload]
  | some payload =>
    have hself := Notification.eq_carrying hpayload
    have hview := Notification.mapAlerting_of_some .badgeOnly hpayload
    have henvelop : envelop n policy now = envelop n policy' now := by
      funext p
      simp only [envelop, htopic]
    rw [hview, convert_payload, parts_badgeOnly h h', henvelop, ← convert_payload, ← hself]

theorem Gcm.convert_badgeOnly (h : policy.allowAlerts = false) (h' : policy'.allowAlerts = false)
    (n : Notification) : convert (n.mapAlerting .badgeOnly) policy = convert n policy' := by
  cases hpayload : n.payload with
  | none =>
    have hview := Notification.mapAlerting_of_none .badgeOnly hpayload
    rw [convert_missing hview, convert_missing hpayload]
  | some payload =>
    have hself := Notification.eq_carrying hpayload
    have hview := Notification.mapAlerting_of_some .badgeOnly hpayload
    rw [hview, convert_payload, addPayload_badgeOnly h h', ← convert_payload, ← hself]

theorem Fcm.convert_unsaid (h : policy.allowAlerts = false) (h' : policy'.allowAlerts = false)
    (n : Notification) : convert (n.mapAlerting .unsaid) policy = convert n policy' := by
  cases hpayload : n.payload with
  | none =>
    have hview := Notification.mapAlerting_of_none .unsaid hpayload
    rw [convert_missing hview, convert_missing hpayload]
  | some payload =>
    have hself := Notification.eq_carrying hpayload
    have hview := Notification.mapAlerting_of_some .unsaid hpayload
    rw [hview, convert_payload, payloadMessage_unsaid h h', ← convert_payload, ← hself]

/-! ## Two notifications -/

theorem Apns.convert_eq_of_badgeOnly {n n' : Notification} (h : policy.allowAlerts = false)
    (h' : policy'.allowAlerts = false) (htopic : policy.topic = policy'.topic)
    (hview : n.mapAlerting .badgeOnly = n'.mapAlerting .badgeOnly) (capabilities : Capabilities)
    (now : Moment) :
    convert n policy capabilities now = convert n' policy' capabilities now ∧
      convert? n policy capabilities now = convert? n' policy' capabilities now := by
  have hsame : convert n policy capabilities now = convert n' policy' capabilities now :=
    calc convert n policy capabilities now
      _ = convert (n.mapAlerting .badgeOnly) policy capabilities now :=
        (convert_badgeOnly h h rfl n capabilities now).symm
      _ = convert (n'.mapAlerting .badgeOnly) policy capabilities now := by rw [hview]
      _ = convert n' policy' capabilities now :=
        convert_badgeOnly h h' htopic n' capabilities now
  have htime : (n.mapAlerting .badgeOnly).timeToLive = (n'.mapAlerting .badgeOnly).timeToLive := by
    rw [hview]
  refine ⟨hsame, ?_⟩
  rw [convert?, convert?, hsame, show n.timeToLive = n'.timeToLive from htime]

theorem Gcm.convert_eq_of_badgeOnly {n n' : Notification} (h : policy.allowAlerts = false)
    (h' : policy'.allowAlerts = false)
    (hview : n.mapAlerting .badgeOnly = n'.mapAlerting .badgeOnly) :
    convert n policy = convert n' policy' := by
  rw [← convert_badgeOnly h h n, hview, convert_badgeOnly h h' n']

theorem Fcm.convert_eq_of_unsaid {n n' : Notification} (h : policy.allowAlerts = false)
    (h' : policy'.allowAlerts = false) (hview : n.mapAlerting .unsaid = n'.mapAlerting .unsaid) :
    convert n policy = convert n' policy' := by
  rw [← convert_unsaid h h n, hview, convert_unsaid h h' n']

/-- Where alerts are disallowed nothing of a suppressed text gets into a request: two notifications
    that differ at most in what their text to show says are sent alike, also under policies with
    different sounds. Apple's push service and the legacy Google service are not told its category
    either. -/
theorem Notification.convert_suppressed {n n' : Notification} {policy : Policy}
    (hoff : policy.allowAlerts = false) (sound : String) :
    (n.mapAlerting .unsaid = n'.mapAlerting .unsaid →
      (∀ (capabilities : Capabilities) (now : Moment),
        Apns.convert n policy capabilities now =
          Apns.convert n' { policy with sound := sound } capabilities now ∧
        Apns.convert? n policy capabilities now =
          Apns.convert? n' { policy with sound := sound } capabilities now) ∧
      Fcm.convert n policy = Fcm.convert n' { policy with sound := sound } ∧
      Gcm.convert n policy = Gcm.convert n' { policy with sound := sound }) ∧
    (n.mapAlerting .badgeOnly = n'.mapAlerting .badgeOnly →
      (∀ (capabilities : Capabilities) (now : Moment),
        Apns.convert n policy capabilities now =
          Apns.convert n' { policy with sound := sound } capabilities now ∧
        Apns.convert? n policy capabilities now =
          Apns.convert? n' { policy with sound := sound } capabilities now) ∧
      Gcm.convert n policy = Gcm.convert n' { policy with sound := sound }) := by
  have hoff' : { policy with sound := sound }.allowAlerts = false := hoff
  constructor
  · intro hview
    have hbadge : n.mapAlerting .badgeOnly = n'.mapAlerting .badgeOnly := by
      rw [← n.badgeOnly_unsaid, hview, n'.badgeOnly_unsaid]
    exact ⟨Apns.convert_eq_of_badgeOnly hoff hoff' rfl hbadge,
      Fcm.convert_eq_of_unsaid hoff hoff' hview, Gcm.convert_eq_of_badgeOnly hoff hoff' hbadge⟩
  · intro hview
    exact ⟨Apns.convert_eq_of_badgeOnly hoff hoff' rfl hview,
      Gcm.convert_eq_of_badgeOnly hoff hoff' hview⟩

/-- Two encrypted pushes, one with a title and a message id to show and one with a body. -/
theorem Notification.convert_suppressed_encrypted :
    ({} : Policy).allowAlerts = false ∧
    (Notification.sealing {} 7 [1] (some { title := "a", mid := some "m" })).mapAlerting .unsaid =
      (Notification.sealing {} 7 [1] (some { body := "b" })).mapAlerting .unsaid ∧
    Apns.convert (Notification.sealing {} 7 [1] (some { title := "a", mid := some "m" })) {} {}
        default =
      Apns.convert (Notification.sealing {} 7 [1] (some { body := "b" })) { sound := "ping" } {}
        default ∧
    Fcm.convert (Notification.sealing {} 7 [1] (some { title := "a", mid := some "m" })) {} =
      Fcm.convert (Notification.sealing {} 7 [1] (some { body := "b" })) { sound := "ping" } ∧
    Gcm.convert (Notification.sealing {} 7 [1] (some { title := "a", mid := some "m" })) {} =
      Gcm.convert (Notification.sealing {} 7 [1] (some { body := "b" })) { sound := "ping" } := by
  have hoff : ({} : Policy).allowAlerts = false := rfl
  have hview :
      (Notification.sealing {} 7 [1] (some { title := "a", mid := some "m" })).mapAlerting .unsaid =
        (Notification.sealing {} 7 [1] (some { body := "b" })).mapAlerting .unsaid := rfl
  obtain ⟨happle, hfirebase, hlegacy⟩ := (Notification.convert_suppressed hoff "ping").1 hview
  exact ⟨hoff, hview, (happle {} default).1, hfirebase, hlegacy⟩

end Courier
