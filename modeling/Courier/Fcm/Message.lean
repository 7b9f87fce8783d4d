import Courier.Conversion
import Courier.Json.Document
import Courier.Json.Field

/-!
# Messages to Firebase

A notification becomes a message whose data are texts only; whatever has a structure of its own is
nested as JSON text. Alerts that a project disallows are refused.
-/

namespace Courier.Fcm

open Json

/-- How urgent a message is on an Android device. Model of `AndroidPriority`. -/
inductive Urgency
  | normal
  | high
  deriving DecidableEq, Repr, Inhabited

/-- The name of an urgency. -/
def Urgency.name : Urgency → String
  | .normal => "NORMAL"
  | .high => "HIGH"

/-- What only concerns Android devices. The time to live is a number of seconds before an `s`.
    Model of `AndroidConfig`. -/
structure Android where
  collapseKey : String := ""
  priority : Urgency := .normal
  timeToLive : String := ""
  deriving DecidableEq, Repr, Inhabited

/-- A text to show. Model of `FcmNotification`. -/
structure Alert where
  title : String := ""
  body : String := ""
  deriving DecidableEq, Repr, Inhabited

/-- A message to one device. Model of `Message`. -/
structure Message where
  token : String := ""
  data : Dict String := .empty
  notification : Option Alert := none
  android : Option Android := none
  deriving DecidableEq, Inhabited

/-! ## Conversion -/

/-- A value as JSON text. Model of `to_json_string`. -/
def nested (v : Value) : String := v.render

/-- The data of a call. Model of `add_voip`. -/
def voipData (p : VoipPush) : Dict String :=
  (Dict.ofList [("callId", toString p.callId), ("attemptIndex", toString p.attemptIndex),
      ("displayName", p.displayName), ("eventBusId", p.eventBusId),
      ("updateType", p.updateType), ("disposalReason", p.disposalReason),
      ("video", toString p.video)])
    |>.insertSome "callIdStr" (if p.callIdStr = "" then none else some p.callIdStr)
    |>.insertSome "peer" (p.peer.map fun peer => nested peer.fields.toJson)
    |>.insertSome "outPeer" (p.outPeer.map fun peer => nested peer.fields.toJson)
    |>.insertSome "merge" (p.merge.map fun merge => nested merge.toJson)

/-- Adds a text to show. Model of `add_alert`. -/
def addAlert (p : AlertingPush) (m : Message) : Message :=
  { m with
    notification := some { title := p.title, body := p.body }
    data := (m.data.insertSome "mid" p.mid).insertSome "category" p.category }

/-- The encrypted data as nested text. -/
def userInfo (p : EncryptedPush) : String :=
  nested (Dict.toJson (.ofList [("nonce", toString p.nonce), ("encrypted", p.dataText)]))

/-- The message of encrypted data. Of a public part that may not be shown the category stays.
    Model of `add_encrypted`. -/
def encryptedMessage (p : EncryptedPush) (policy : Policy) : Except ConversionError Message :=
  if p.data = [] then .error .emptyEncryptedPayload
  else
    let m : Message := match p.publicAlerting with
      | some alerting =>
        if policy.allowAlerts then addAlert alerting {}
        else { data := Dict.empty.insertSome "category" alerting.category }
      | none => {}
    .ok { m with data := m.data.insert "userInfo" (userInfo p) }

/-- The message of a payload, without what comes from around it. -/
def payloadMessage (payload : Payload) (policy : Policy) : Except ConversionError Message :=
  match payload with
  | .voip p => .ok { data := voipData p }
  | .encrypted p => encryptedMessage p policy
  | .alerting p =>
    if policy.allowAlerts then .ok (addAlert p {}) else .error .alertingNotSupported
  | .silent => .ok {}

/-- Puts a notification into the form of the service, for no device yet. Model of `to_fcm`. -/
def convert (n : Notification) (policy : Policy) : Except ConversionError (Converted Message) := do
  let m ← payloadMessage (← n.requirePayload) policy
  .ok (.send { m with
    data := if n.sequence > 0 then m.data.insert "seq" (toString n.sequence) else m.data
    android := some {
      priority := .high
      collapseKey := n.collapseKey
      timeToLive := if n.timeToLive > 0 then toString n.timeToLive ++ "s" else "" } })

/-! ## Writing -/

/-- The written form of what concerns Android devices. -/
def Android.toJson (a : Android) : Value :=
  .obj (textField "collapse_key" a.collapseKey ++ [("priority", .str a.priority.name)] ++
    textField "ttl" a.timeToLive)

/-- The written form of a text to show. -/
def Alert.toJson (a : Alert) : Value :=
  .obj (textField "title" a.title ++ textField "body" a.body)

/-- The written form of a message. What is empty is left out. -/
def Message.toJson (m : Message) : Value :=
  .obj (textField "token" m.token ++
    dictField "data" (m.data.mapValues .str) ++
    optionField "notification" (m.notification.map Alert.toJson) ++
    optionField "android" (m.android.map Android.toJson))

/-! ## Reading -/

/-- Reads an urgency. -/
def Urgency.ofDocument? : Document → Option Urgency :=
  Document.choice? ([.normal, .high].map fun u => (u.name, u))

/-- Reads what concerns Android devices. -/
def Android.ofDocument? (d : Document) : Option Android := do
  let r ← d.record? ["collapse_key", "priority", "ttl"]
  some {
    collapseKey := ← r.default? "collapse_key" "" Document.text?
    priority := ← r.required? "priority" Urgency.ofDocument?
    timeToLive := ← r.default? "ttl" "" Document.text? }

/-- Reads a text to show. -/
def Alert.ofDocument? (d : Document) : Option Alert := do
  let r ← d.record? ["title", "body"]
  some {
    title := ← r.default? "title" "" Document.text?
    body := ← r.default? "body" "" Document.text? }

/-- Reads a message. -/
def Message.ofDocument? (d : Document) : Option Message := do
  let r ← d.record? ["token", "data", "notification", "android"]
  some {
    token := ← r.default? "token" "" Document.text?
    data := ← r.default? "data" .empty Document.texts?
    notification := ← r.default? "notification" none (Document.optional? Alert.ofDocument?)
    android := ← r.default? "android" none (Document.optional? Android.ofDocument?) }

end Courier.Fcm
