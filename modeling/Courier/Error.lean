import Courier.Http.Status
import Courier.Text.Quoted
import Courier.Url.Basic

/-!
# What can go wrong

Errors are told apart by their cause. Each has one wording, given by `message`, or none where the
cause lies outside this library. A failed delivery also has a class, and the class alone decides
whether the device token is reported as dead.
-/

namespace Courier

/-! ## Conversion -/

/-- Why a notification cannot be expressed for a push network. -/
inductive ConversionError
  | missingPayload
  | voipWithoutCapability
  | emptyEncryptedPayload
  | alertingNotSupported
  deriving DecidableEq, Repr, Inhabited

/-- The wording of a conversion error. -/
def ConversionError.message : ConversionError → String
  | .missingPayload => "notification has no payload"
  | .voipWithoutCapability => "attempted VoIP push with a certificate lacking VoIP capability"
  | .emptyEncryptedPayload => "encrypted push without encrypted data"
  | .alertingNotSupported => "alerting pushes are not supported when alerts are disallowed"

/-! ## Sending -/

/-- Why sending to one device ended without an answer that can be judged. -/
inductive SendError
  | timeout
  | cancelled
  | internalServerError
  | serviceUnavailable
  | transport
  | encoding
  | invalidResponse (status : Http.Status) (excerpt : String)
  | unexpectedStatus (status : Http.Status)
  | auth (reason : String)
  deriving DecidableEq, Repr, Inhabited

/-- The wording of a send error; a broken transport and a failed encoder have none of their own. -/
def SendError.message? : SendError → Option String
  | .timeout => some "request timed out"
  | .cancelled => some "request cancelled"
  | .internalServerError => some "provider returned 500 Internal Server Error"
  | .serviceUnavailable => some "provider returned 503 Service Unavailable"
  | .transport | .encoding => none
  | .invalidResponse status excerpt =>
    some ("undecodable " ++ status.text ++ " response: " ++ excerpt)
  | .unexpectedStatus status => some ("unexpected response status " ++ status.text)
  | .auth reason => some ("authentication failed: " ++ reason)

/-! ## Delivery -/

/-- What a failed delivery means for the caller. -/
inductive ErrorClass
  | transient
  | invalidToken
  | malformed
  | unknown
  deriving DecidableEq, Repr, Inhabited

/-- The name of a class. -/
def ErrorClass.name : ErrorClass → String
  | .transient => "transient"
  | .invalidToken => "invalid_token"
  | .malformed => "malformed"
  | .unknown => "unknown"

/-- Why one device did not get a push. -/
inductive DeliveryError
  | emptyDeviceList
  | emptyDeviceToken
  | conversion (error : ConversionError)
  | invalidToken (reason : String)
  | rejected (status : Http.Status) (reason : String)
  | send (error : SendError)
  deriving DecidableEq, Repr, Inhabited

namespace DeliveryError

/-- The wording of a delivery error. -/
def message? : DeliveryError → Option String
  | .emptyDeviceList => some "empty device list"
  | .emptyDeviceToken => some "empty device token"
  | .conversion error => some error.message
  | .invalidToken reason => some ("bad device token: " ++ reason)
  | .rejected status reason =>
    some ("provider rejected push: " ++ status.text ++ " " ++ reason)
  | .send error => error.message?

/-- The class of a delivery error. Model of `DeliveryError.class`. -/
def errorClass : DeliveryError → ErrorClass
  | .emptyDeviceList | .emptyDeviceToken | .conversion _ | .send .encoding => .malformed
  | .invalidToken _ => .invalidToken
  | .rejected .. => .unknown
  | .send .timeout | .send .cancelled | .send .internalServerError | .send .serviceUnavailable
  | .send .transport => .transient
  | .send (.invalidResponse ..) | .send (.unexpectedStatus _) | .send (.auth _) => .unknown

/-- Whether the device token is dead. Model of `DeliveryError.is_invalid_token`. -/
def invalidates (e : DeliveryError) : Bool := e.errorClass == .invalidToken

end DeliveryError

/-! ## Construction -/

/-- Why a file cannot be read. -/
inductive FileFault
  | notFound
  | isDirectory
  | other (text : String)
  deriving DecidableEq, Repr, Inhabited

/-- The wording of a file fault. -/
def FileFault.message : FileFault → String
  | .notFound => "No such file or directory (os error 2)"
  | .isDirectory => "Is a directory (os error 21)"
  | .other text => text

/-- Why a text is no base URL for requests. -/
inductive EndpointFault
  | malformed (error : Url.ParseError)
  | notHttp
  deriving DecidableEq, Repr, Inhabited

/-- The wording of an endpoint fault. -/
def EndpointFault.message : EndpointFault → String
  | .malformed error => error.message
  | .notHttp => "not an http(s) base URL"

/-- Why a topic list cannot be read: a block starts with an unknown byte. -/
structure TopicError where
  block : UInt8
  deriving DecidableEq, Repr, Inhabited

/-- The wording of a topic error. -/
def TopicError.message (e : TopicError) : String :=
  let digits := Nat.toDigits 16 e.block.toNat
  "topic: unknown block ID 0x" ++
    String.ofList (List.replicate (2 - digits.length) '0' ++ digits)

/-- Why a project cannot be served. -/
inductive ConstructionError
  | unreadable (path : String) (fault : FileFault)
  | fileTooLarge (path : String) (size limit : Nat)
  | missingCertificate
  | certificate
  | topics (error : TopicError)
  | topicNotAllowed (topic : String) (allowed : List String)
  | client
  | serviceAccount
  | signingKey
  | invalidServerKey
  | endpoint (raw : String) (fault : EndpointFault)
  | duplicateProject (id : String)
  deriving DecidableEq, Repr, Inhabited

/-- The wording of a construction error; what certificates, keys and accounts are refused for is not
    worded here. -/
def ConstructionError.message? : ConstructionError → Option String
  | .unreadable path fault => some ("could not read " ++ path ++ ": " ++ fault.message)
  | .fileTooLarge path size limit =>
    some (path ++ " is " ++ toString size ++ " bytes, credential files are limited to " ++
      toString limit ++ " bytes")
  | .missingCertificate => some "no certificate found in PEM bundle"
  | .topics error => some ("invalid VoIP topic list: " ++ error.message)
  | .topicNotAllowed topic allowed =>
    some ("topic " ++ Text.quoted topic ++ " is not allowed by the certificate (allowed: " ++
      Text.quotedList allowed ++ ")")
  | .invalidServerKey => some "server key is empty or not a valid header value"
  | .endpoint raw fault => some ("invalid endpoint: " ++ raw ++ ": " ++ fault.message)
  | .duplicateProject id => some ("duplicate project id " ++ Text.quoted id)
  | .certificate | .client | .serviceAccount | .signingKey => none

end Courier
