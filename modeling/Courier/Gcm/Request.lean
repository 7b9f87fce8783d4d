import Courier.Conversion
import Courier.Json.Field

/-!
# Requests to the legacy Google service

A notification becomes an envelope with an object of data in it. Where a project disallows alerts,
a text to show only wakes the app.
-/

namespace Courier.Gcm

open Json

/-- A text to show. Model of `GcmNotification`. -/
structure Alert where
  title : String := ""
  body : String := ""
  sound : String := ""
  titleLocKey : String := ""
  titleLocArgs : List String := []
  bodyLocKey : String := ""
  bodyLocArgs : List String := []
  deriving DecidableEq, Repr, Inhabited

/-- The envelope of a push. A time to live of zero stands for the service's own.
    Model of `GcmRequest`. -/
structure Request where
  recipient : String := ""
  registrationIds : List String := []
  collapseKey : String := ""
  priority : String := ""
  contentAvailable : Bool := false
  timeToLive : Nat := 0
  dryRun : Bool := false
  data : Dict Value := .empty
  notification : Option Alert := none
  deriving Inhabited

/-! ## Conversion -/

/-- The data of a call. Model of `add_voip`. -/
def voipData (p : VoipPush) : Dict Value :=
  (Dict.ofList [("callId", .int p.callId), ("attemptIndex", .int p.attemptIndex),
      ("displayName", .str p.displayName), ("eventBusId", .str p.eventBusId),
      ("updateType", .str p.updateType), ("disposalReason", .str p.disposalReason),
      ("video", .bool p.video)])
    |>.insertSome "callIdStr" (if p.callIdStr = "" then none else some (.str p.callIdStr))
    |>.insertSome "peer" (p.peer.map fun peer => peer.fields.toJson)
    |>.insertSome "outPeer" (p.outPeer.map fun peer => peer.fields.toJson)
    |>.insertSome "merge" (p.merge.map Merge.toJson)

/-- What is shown and heard; a localized form wins over a plain one. -/
def alert (p : AlertingPush) (sound : String) : Alert :=
  let a : Alert := { sound := sound }
  let a := match p.locTitle with
    | some title => { a with titleLocKey := title.key, titleLocArgs := title.args }
    | none => { a with title := p.title }
  match p.locBody with
  | some body => { a with bodyLocKey := body.key, bodyLocArgs := body.args }
  | none => { a with body := p.body }

/-- Shows a text. Model of `add_alert`. -/
def addAlert (p : AlertingPush) (sound : String) (r : Request) : Request :=
  { r with notification := some (alert p sound) }

/-- Wakes the app without showing anything. Model of `degrade`. -/
def degrade (p : AlertingPush) (r : Request) : Request :=
  { r with
    contentAvailable := true
    data := if p.badge > 0 then r.data.insert "badge" (.int p.badge) else r.data }

/-- The encrypted data as an object. -/
def userInfo (p : EncryptedPush) : Value :=
  Dict.toJson (.ofList [("nonce", toString p.nonce), ("encrypted", p.dataText)])

/-- Adds encrypted data. Model of `add_encrypted`. -/
def addEncrypted (p : EncryptedPush) (policy : Policy) (r : Request) :
    Except ConversionError Request :=
  if p.data = [] then .error .emptyEncryptedPayload
  else
    let r := match p.publicAlerting with
      | some alerting =>
        if policy.allowAlerts then addAlert alerting policy.sound r else degrade alerting r
      | none => r
    .ok { r with data := r.data.insert "userInfo" (userInfo p) }

/-- Adds a payload. -/
def addPayload (payload : Payload) (policy : Policy) (r : Request) :
    Except ConversionError Request :=
  match payload with
  | .voip p => .ok { r with data := voipData p }
  | .encrypted p => addEncrypted p policy r
  | .alerting p =>
    if policy.allowAlerts then
      let r := addAlert p policy.sound r
      .ok { r with
        data := (r.data.insertSome "mid" (p.mid.map .str)).insertSome "category"
          (p.category.map .str) }
    else .ok (degrade p r)
  | .silent => .ok r

/-- Puts a notification into the form of the service, for no device yet. Model of `to_gcm`. -/
def convert (n : Notification) (policy : Policy) : Except ConversionError (Converted Request) := do
  let r ← addPayload (← n.requirePayload) policy { priority := "high" }
  .ok (.send { r with
    collapseKey := n.collapseKey
    timeToLive := n.timeToLive
    data := if n.sequence > 0 then r.data.insert "seq" (.int n.sequence) else r.data })

/-! ## Writing -/

/-- The written form of a text to show. -/
def Alert.toJson (a : Alert) : Value :=
  .obj (textField "title" a.title ++ textField "body" a.body ++ textField "sound" a.sound ++
    textField "title_loc_key" a.titleLocKey ++ textsField "title_loc_args" a.titleLocArgs ++
    textField "body_loc_key" a.bodyLocKey ++ textsField "body_loc_args" a.bodyLocArgs)

/-- The written form of an envelope. All but the recipient is left out where it is empty. -/
def Request.toJson (r : Request) : Value :=
  .obj ([("to", .str r.recipient)] ++ textsField "registration_ids" r.registrationIds ++
    textField "collapse_key" r.collapseKey ++ textField "priority" r.priority ++
    flagField "content_available" r.contentAvailable ++
    countField "time_to_live" r.timeToLive ++ flagField "dry_run" r.dryRun ++
    dictField "data" r.data ++ optionField "notification" (r.notification.map Alert.toJson))

end Courier.Gcm
