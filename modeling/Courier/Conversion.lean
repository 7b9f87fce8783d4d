import Courier.Error
import Courier.Json.Printer
import Courier.Notification
import Courier.Policy
import Courier.Text.Base64

/-!
# Conversion

What the three push networks have in common when a notification is put into their own form.
-/

namespace Courier

/-- What comes of converting a notification: a request, or nothing to send. Model of `Converted`. -/
inductive Converted (R : Type)
  | send (request : R)
  | ignore
  deriving Repr, Inhabited

/-- Changes the request of a conversion. -/
def Converted.map {R S : Type} (f : R → S) : Converted R → Converted S
  | .send request => .send (f request)
  | .ignore => .ignore

/-- The payload of a notification. Model of `Notification.payload`. -/
def Notification.requirePayload (n : Notification) : Except ConversionError Payload :=
  match n.payload with
  | some payload => .ok payload
  | none => .error .missingPayload

/-- The encrypted data as text. Model of `encode_data`. -/
def EncryptedPush.dataText (p : EncryptedPush) : String := String.ofList (Base64.encode p.data)

/-- Texts as an object. -/
def Dict.toJson (d : Dict String) : Json.Value := .ofDict (d.mapValues .str)

/-- How a device collapses consecutive call pushes, as an object. -/
def Merge.toJson (m : Merge) : Json.Value :=
  .ofDict (.ofList [("key", .str m.key), ("merge", .bool m.merge)])

end Courier
