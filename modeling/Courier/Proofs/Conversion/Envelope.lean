import Courier.Apns.Request
import Courier.Fcm.Message
import Courier.Gcm.Request

/-!
# Payloads and what surrounds them

Each converter puts a payload into a form of its own and then adds what the notification says around
it: the order of the push, how long it is kept and what it stands in place of. Here the two steps
are taken apart, so what is shown of the first one holds of the whole conversion.

Results:

* `Gcm.convert_payload`, `Fcm.convert_payload`, `Apns.convert_payload`: a conversion puts the
  payload into the form of the service and envelops it.
* `Apns.convert?_eq_of_send`: a conversion that gives a request fails only with the clock.
-/

namespace Courier

variable {α β : Type}

/-- A notification with another payload. -/
def Notification.carrying (n : Notification) (payload : Payload) : Notification :=
  { n with payload := some payload }

/-- A notification with encrypted data and what is shown of them. -/
def Notification.sealing (n : Notification) (nonce : Int) (data : List UInt8)
    (shown : Option AlertingPush) : Notification :=
  n.carrying (.encrypted { nonce := nonce, data := data, publicAlerting := shown })

theorem Notification.eq_carrying {n : Notification} {payload : Payload}
    (h : n.payload = some payload) : n = n.carrying payload := by
  cases n
  simp_all [carrying]

/-! ## The order of a push -/

/-- Data with the number that orders pushes, if there is one. -/
def Dict.ordered (write : Int → α) (sequence : Int) (d : Dict α) : Dict α :=
  if sequence > 0 then d.insert "seq" (write sequence) else d

namespace Dict

theorem get?_ordered (write : Int → α) (sequence : Int) (d : Dict α) {key : String}
    (h : key ≠ "seq") : (d.ordered write sequence).get? key = d.get? key := by
  unfold ordered
  split
  · exact get?_insert_of_ne d h _
  · rfl

theorem ordered_insert (write : Int → α) (sequence : Int) (d : Dict α) {key : String}
    (h : key ≠ "seq") (value : α) :
    (d.insert key value).ordered write sequence = (d.ordered write sequence).insert key value := by
  unfold ordered
  split
  · exact insert_comm d h value _
  · rfl

theorem mapValues_ordered (f : α → β) (write : Int → α) (sequence : Int) (d : Dict α) :
    (d.ordered write sequence).mapValues f = (d.mapValues f).ordered (f ∘ write) sequence := by
  unfold ordered
  split
  · exact mapValues_insert f d "seq" _
  · rfl

end Dict

/-! ## The legacy Google service -/

namespace Gcm

/-- A request with what surrounds its payload. -/
def envelop (n : Notification) (r : Request) : Request :=
  { r with
    collapseKey := n.collapseKey
    timeToLive := n.timeToLive
    data := r.data.ordered .int n.sequence }

theorem convert_payload (n : Notification) (payload : Payload) (policy : Policy) :
    convert (n.carrying payload) policy =
      (addPayload payload policy { priority := "high" }).map fun r => .send (envelop n r) := by
  show (addPayload payload policy { priority := "high" }).bind _ = _
  cases addPayload payload policy { priority := "high" } <;> rfl

theorem convert_missing {n : Notification} (h : n.payload = none) (policy : Policy) :
    convert n policy = .error .missingPayload := by
  rw [convert, Notification.requirePayload, h]
  rfl

theorem envelop_insert (n : Notification) (r : Request) {key : String} (h : key ≠ "seq")
    (value : Json.Value) :
    envelop n { r with data := r.data.insert key value } =
      { envelop n r with data := (envelop n r).data.insert key value } := by
  unfold envelop
  rw [Dict.ordered_insert _ _ _ h]

end Gcm

/-! ## Firebase -/

namespace Fcm

/-- The seconds of a time to live before an `s`; a time to live of zero is left out. -/
def seconds (timeToLive : Nat) : String :=
  if timeToLive > 0 then toString timeToLive ++ "s" else ""

/-- A message with what surrounds its payload. -/
def envelop (n : Notification) (m : Message) : Message :=
  { m with
    data := m.data.ordered toString n.sequence
    android := some {
      priority := .high
      collapseKey := n.collapseKey
      timeToLive := seconds n.timeToLive } }

theorem convert_payload (n : Notification) (payload : Payload) (policy : Policy) :
    convert (n.carrying payload) policy =
      (payloadMessage payload policy).map fun m => .send (envelop n m) := by
  show (payloadMessage payload policy).bind _ = _
  cases payloadMessage payload policy <;> rfl

theorem convert_missing {n : Notification} (h : n.payload = none) (policy : Policy) :
    convert n policy = .error .missingPayload := by
  rw [convert, Notification.requirePayload, h]
  rfl

theorem envelop_insert (n : Notification) (m : Message) {key : String} (h : key ≠ "seq")
    (value : String) :
    envelop n { m with data := m.data.insert key value } =
      { envelop n m with data := (envelop n m).data.insert key value } := by
  unfold envelop
  rw [Dict.ordered_insert _ _ _ h]

end Fcm

/-! ## Apple's push service -/

namespace Apns

/-- A request with what surrounds its payload. -/
def envelop (n : Notification) (policy : Policy) (now : Moment) (p : Parts) : Request where
  pushType := p.pushType
  priority := p.pushType.priority
  expiration := expiration now n.timeToLive
  topic := policy.topic
  collapseId := if n.collapseKey = "" then none else some n.collapseKey
  payload := .ofDict ((p.root.ordered .int n.sequence).insert "aps" (.ofDict p.aps))

theorem convert_payload (n : Notification) (payload : Payload) (policy : Policy)
    (capabilities : Capabilities) (now : Moment) :
    convert (n.carrying payload) policy capabilities now =
      (parts payload policy capabilities).map fun
        | none => .ignore
        | some p => .send (envelop n policy now p) := by
  show (parts payload policy capabilities).bind _ = _
  cases parts payload policy capabilities with
  | error e => rfl
  | ok p => cases p <;> rfl

theorem convert_missing {n : Notification} (h : n.payload = none) (policy : Policy)
    (capabilities : Capabilities) (now : Moment) :
    convert n policy capabilities now = .error .missingPayload := by
  rw [convert, Notification.requirePayload, h]
  rfl

theorem field?_envelop (n : Notification) (policy : Policy) (now : Moment) (p : Parts)
    {key : String} (hseq : key ≠ "seq") (haps : key ≠ "aps") :
    (envelop n policy now p).payload.field? key = p.root.get? key := by
  show ((p.root.ordered .int n.sequence).insert "aps" (.ofDict p.aps)).get? key = _
  rw [Dict.get?_insert_of_ne _ haps, Dict.get?_ordered _ _ _ hseq]

/-- A conversion that gives a request fails only if no clock can show the end of the push. -/
theorem convert?_eq_of_send {n : Notification} {policy : Policy} {capabilities : Capabilities}
    {now : Moment} {r : Request} (h : convert n policy capabilities now = .ok (.send r)) :
    convert? n policy capabilities now =
      (now.later? (effectiveTimeToLive n.timeToLive)).map fun _ => .ok (.send r) := by
  rw [convert?, h]

theorem convert?_eq_of_error {n : Notification} {policy : Policy} {capabilities : Capabilities}
    {now : Moment} {e : ConversionError} (h : convert n policy capabilities now = .error e) :
    convert? n policy capabilities now = some (.error e) := by
  rw [convert?, h]

end Apns

end Courier
