import Courier.Certificate.Capabilities
import Courier.Conversion
import Courier.Moment

/-!
# Requests to Apple's push service

A notification becomes a payload with an `aps` object in it, and a few settings that travel beside
it. Where a project disallows alerts, a text to show only wakes the app.

Results:

* `Apns.expiration_eq`: the expiration in exact arithmetic.
-/

namespace Courier.Apns

open Json (Value)

/-- The kind of a push. Model of `ApnsPushType`. -/
inductive PushType
  | alert
  | background
  | voip
  deriving DecidableEq, Repr, Inhabited

/-- The name of a kind. -/
def PushType.name : PushType → String
  | .alert => "alert"
  | .background => "background"
  | .voip => "voip"

/-- A background push spares the battery, any other is delivered at once. -/
def PushType.priority : PushType → Nat
  | .background => 5
  | .alert | .voip => 10

/-- A push for any device. The expiration is in seconds since the epoch. Model of `ApnsRequest`. -/
structure Request where
  pushType : PushType
  priority : Nat
  expiration : Nat
  topic : Option String
  collapseId : Option String
  payload : Value
  deriving Inhabited

/-! ## Expiration -/

/-- How long a push without its own time to live is kept, in seconds.
    Model of `DEFAULT_EXPIRATION`. -/
def defaultTimeToLive : Nat := 1200

/-- The time to live that counts. -/
def effectiveTimeToLive (timeToLive : Nat) : Nat :=
  if timeToLive = 0 then defaultTimeToLive else timeToLive

/-- The whole seconds from the epoch to the end of a push, none if that is before the epoch. -/
def expiration (now : Moment) (timeToLive : Nat) : Nat :=
  (now.later (effectiveTimeToLive timeToLive)).sinceEpoch?.getD 0

theorem expiration_eq (now : Moment) (timeToLive : Nat) :
    expiration now timeToLive = (now.seconds + effectiveTimeToLive timeToLive).toNat :=
  Moment.sinceEpoch?_getD (now.later (effectiveTimeToLive timeToLive))

/-! ## Payloads -/

/-- The title and the body to show; a localized form wins over a plain one. -/
def alertFields (p : AlertingPush) : Dict Value :=
  let d : Dict Value := .empty
  let d := match p.locTitle with
    | some title =>
      (d.insert "title-loc-key" (.str title.key)).insert "title-loc-args" (.strings title.args)
    | none => if p.title = "" then d else d.insert "title" (.str p.title)
  match p.locBody with
  | some body => (d.insert "loc-key" (.str body.key)).insert "loc-args" (.strings body.args)
  | none => if p.body = "" then d else d.insert "body" (.str p.body)

/-- Adds the number to show on the app's icon. Model of `add_badge`. -/
def addBadge (badge : Int) (aps : Dict Value) : Dict Value :=
  if badge > 0 then aps.insert "badge" (.int badge) else aps

/-- Adds what is shown and heard. Model of `add_alert`. -/
def addAlert (p : AlertingPush) (sound : String) (aps : Dict Value) : Dict Value :=
  let alert := alertFields p
  let aps := if alert.isEmpty then aps else aps.insert "alert" (.ofDict alert)
  let aps := if sound = "" then aps else aps.insert "sound" (.str sound)
  addBadge p.badge aps

/-- Lets the app change the push before it is shown. -/
def addMutable (aps : Dict Value) : Dict Value := aps.insert "mutable-content" (.int 1)

/-- Wakes the app without showing anything. -/
def addWake (aps : Dict Value) : Dict Value := aps.insert "content-available" (.int 1)

/-- The fields of a call. Model of `add_voip`. -/
def voipFields (p : VoipPush) : Dict Value :=
  (Dict.ofList [("callId", .str (toString p.callId)), ("attemptIndex", .int p.attemptIndex),
      ("displayName", .str p.displayName), ("eventBusId", .str p.eventBusId),
      ("updateType", .str p.updateType), ("disposalReason", .str p.disposalReason),
      ("video", .bool p.video)])
    |>.insertSome "peer" (p.peer.map fun peer => peer.fields.toJson)
    |>.insertSome "outPeer" (p.outPeer.map fun peer => peer.fields.toJson)

/-- The fields of encrypted data. -/
def encryptedFields (p : EncryptedPush) : Dict Value :=
  .ofList [("nonce", .str (toString p.nonce)), ("encrypted_data", .str p.dataText)]

/-- The parts of a payload: the kind of the push, the `aps` object and the fields beside it. -/
structure Parts where
  pushType : PushType
  aps : Dict Value := .empty
  root : Dict Value := .empty
  deriving Inhabited

/-- The parts of a text to show. -/
def alertingParts (p : AlertingPush) (policy : Policy) : Parts :=
  if policy.allowAlerts then
    { pushType := .alert
      aps := addMutable (addAlert p policy.sound .empty)
      root := (Dict.empty.insertSome "mid" (p.mid.map .str)).insertSome "category"
        (p.category.map .str) }
  else { pushType := .background, aps := addWake (addBadge p.badge .empty) }

/-- The parts of encrypted data. Model of `add_encrypted`. -/
def encryptedParts (p : EncryptedPush) (policy : Policy) : Except ConversionError Parts :=
  if p.data = [] then .error .emptyEncryptedPayload
  else
    let aps : Dict Value := match p.publicAlerting with
      | some alerting =>
        if policy.allowAlerts then addAlert alerting policy.sound .empty
        else addBadge alerting.badge .empty
      | none => .empty
    .ok { pushType := .alert
          aps := addMutable aps
          root := Dict.empty.insert "user_info" (.ofDict (encryptedFields p)) }

/-- The parts of a payload, or nothing to send. -/
def parts (payload : Payload) (policy : Policy) (capabilities : Capabilities) :
    Except ConversionError (Option Parts) :=
  match payload with
  | .silent => .ok none
  | .voip p =>
    if capabilities.supportsVoip then .ok (some { pushType := .voip, root := voipFields p })
    else .error .voipWithoutCapability
  | .alerting p => .ok (some (alertingParts p policy))
  | .encrypted p => (encryptedParts p policy).map some

/-- Adds the number that orders pushes, if there is one. -/
def addSequence (sequence : Int) (root : Dict Value) : Dict Value :=
  if sequence > 0 then root.insert "seq" (.int sequence) else root

/-- Puts a notification into the form of the service. Model of `to_apns`. -/
def convert (n : Notification) (policy : Policy) (capabilities : Capabilities) (now : Moment) :
    Except ConversionError (Converted Request) := do
  match ← parts (← n.requirePayload) policy capabilities with
  | none => .ok .ignore
  | some p =>
    .ok (.send {
      pushType := p.pushType
      priority := p.pushType.priority
      expiration := expiration now n.timeToLive
      topic := policy.topic
      collapseId := if n.collapseKey = "" then none else some n.collapseKey
      payload := .ofDict ((addSequence n.sequence p.root).insert "aps" (.ofDict p.aps)) })

/-- Puts a notification into the form of the service; `none` if there is a push to send whose end no
    clock can show. -/
def convert? (n : Notification) (policy : Policy) (capabilities : Capabilities) (now : Moment) :
    Option (Except ConversionError (Converted Request)) :=
  match convert n policy capabilities now with
  | .ok (.send request) =>
    (now.later? (effectiveTimeToLive n.timeToLive)).map fun _ => .ok (.send request)
  | answer => some answer

end Courier.Apns
