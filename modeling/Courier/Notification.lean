import Courier.Dict

/-!
# Notifications

What a caller submits: a payload and how long, in which order and in place of what it is delivered.
Nothing in it belongs to one push network.
-/

namespace Courier

/-- What the other side of a call is. Model of `PeerType`. -/
inductive PeerKind
  | unknown
  | individual
  | group
  | sip
  deriving DecidableEq, Repr, Inhabited

/-- The number by which the mobile clients know a kind. Model of `PeerType.code`. -/
def PeerKind.code : PeerKind → Nat
  | .individual => 1
  | .group => 2
  | .sip => 4
  | .unknown => 0

/-- The other side of a call. -/
structure Peer where
  id : Int := 0
  kind : PeerKind := .unknown
  strId : String := ""
  deriving DecidableEq, Repr, Inhabited

/-- The other side of a call, with the hash that grants access to it. -/
structure OutPeer where
  id : Int := 0
  kind : PeerKind := .unknown
  accessHash : Int := 0
  strId : String := ""
  deriving DecidableEq, Repr, Inhabited

/-- The texts by which a peer is sent. Model of `Peer.to_fields`. -/
def Peer.fields (p : Peer) : Dict String :=
  .ofList [("id", toString p.id), ("type", toString p.kind.code), ("strId", p.strId)]

/-- The texts by which a peer with its access hash is sent. Model of `OutPeer.to_fields`. -/
def OutPeer.fields (p : OutPeer) : Dict String :=
  .ofList [("id", toString p.id), ("type", toString p.kind.code),
    ("accessHash", toString p.accessHash), ("strId", p.strId)]

/-- How a device collapses consecutive call pushes. -/
structure Merge where
  key : String := ""
  merge : Bool := false
  deriving DecidableEq, Repr, Inhabited

/-- A call. Model of `VoipPush`. -/
structure VoipPush where
  callId : Int := 0
  callIdStr : String := ""
  attemptIndex : Int := 0
  displayName : String := ""
  eventBusId : String := ""
  updateType : String := ""
  disposalReason : String := ""
  peer : Option Peer := none
  outPeer : Option OutPeer := none
  video : Bool := false
  merge : Option Merge := none
  deriving DecidableEq, Repr, Inhabited

/-- A text that the device looks up in its own language. -/
structure LocalizedText where
  key : String := ""
  args : List String := []
  deriving DecidableEq, Repr, Inhabited

/-- A text to show. -/
structure AlertingPush where
  title : String := ""
  locTitle : Option LocalizedText := none
  body : String := ""
  locBody : Option LocalizedText := none
  badge : Int := 0
  mid : Option String := none
  category : Option String := none
  deriving DecidableEq, Repr, Inhabited

/-- Data that only the device can read, with an optional part for everybody to see. -/
structure EncryptedPush where
  nonce : Int := 0
  data : List UInt8 := []
  publicAlerting : Option AlertingPush := none
  deriving DecidableEq, Repr, Inhabited

/-- What is delivered. Model of `Payload`. -/
inductive Payload
  | voip (push : VoipPush)
  | alerting (push : AlertingPush)
  | encrypted (push : EncryptedPush)
  | silent
  deriving DecidableEq, Repr, Inhabited

/-- A push before conversion. A time to live of zero stands for the network's own.
    Model of `Notification`. -/
structure Notification where
  payload : Option Payload := none
  collapseKey : String := ""
  timeToLive : Nat := 0
  sequence : Int := 0
  deriving DecidableEq, Repr, Inhabited

end Courier
