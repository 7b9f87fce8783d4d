import Courier.Certificate.Pem
import Courier.Certificate.Topics
import Courier.Certificate.X509
import Courier.Dict

/-!
# What a certificate allows

A bundle of certificates for Apple's push service says through extensions whether it serves the
sandbox or production, whether calls may be pushed, and for which topics. `Capabilities.ofBlocks`
gathers this over all certificates of a bundle.
-/

namespace Courier

/-- What a bundle of certificates allows. Model of `CertificateCapabilities`. -/
structure Capabilities where
  isSandbox : Bool := false
  supportsVoip : Bool := false
  supportsProduction : Bool := false
  allowedTopics : Dict Unit := .empty
  deriving DecidableEq, Inhabited

namespace Capabilities

/-! ## Extensions -/

/-- Marks a certificate for the sandbox. -/
def developmentOid : List Nat := [1, 2, 840, 113635, 100, 6, 3, 1]

/-- Marks a certificate for production. -/
def productionOid : List Nat := [1, 2, 840, 113635, 100, 6, 3, 2]

/-- Marks a certificate that may push calls. -/
def voipOid : List Nat := [1, 2, 840, 113635, 100, 6, 3, 5]

/-- Carries a topic list. -/
def topicsOid : List Nat := [1, 2, 840, 113635, 100, 6, 3, 6]

/-- Adds topics. -/
def addTopics (c : Capabilities) (topics : List String) : Capabilities :=
  { c with allowedTopics := topics.foldl (fun d t => d.insert t ()) c.allowedTopics }

/-- Adds what one extension says. Model of `CertificateCapabilities.apply`. -/
def apply (c : Capabilities) (e : Extension) : Except TopicError Capabilities :=
  if e.oid = developmentOid then .ok { c with isSandbox := true }
  else if e.oid = productionOid then .ok { c with supportsProduction := true }
  else if e.oid = voipOid then .ok { c with supportsVoip := true }
  else if e.oid = topicsOid then (Topics.extract e.value).map c.addTopics
  else .ok c

/-! ## Bundles -/

/-- The label of the blocks that hold certificates. -/
def certificateLabel : String := "CERTIFICATE"

/-- Adds what one block of a bundle says. Only certificates count; `read` reads one. -/
def applyBlock (read : List UInt8 → Option Certificate) (c : Capabilities) :
    Option Pem.Block → Except ConstructionError Capabilities
  | none => .error .certificate
  | some block =>
    if block.label = certificateLabel then
      match read block.bytes with
      | none => .error .certificate
      | some certificate =>
        (certificate.extensions.foldlM apply c).mapError .topics
    else .ok c

/-- Whether a block is labelled as a certificate. -/
def isCertificate (block : Option Pem.Block) : Bool :=
  block.any fun b => b.label = certificateLabel

/-- What the blocks of a bundle allow. The first fault counts, and there must be a certificate.
    Model of the loop of `CertificateCapabilities.from_pem`. -/
def ofBlocks (read : List UInt8 → Option Certificate) (blocks : List (Option Pem.Block)) :
    Except ConstructionError Capabilities := do
  let c ← blocks.foldlM (applyBlock read) {}
  if blocks.any isCertificate then .ok c else .error .missingCertificate

/-- What the bundle written in a text allows. -/
def ofText (text : List Char) : Except ConstructionError Capabilities :=
  ofBlocks Certificate.ofBytes? (Pem.blocks text)

/-- What the bundle in a file allows. Model of `CertificateCapabilities.from_pem`. -/
def ofBytes (bytes : List UInt8) : Except ConstructionError Capabilities :=
  match (Utf8.decode bytes).mapM id with
  | some text => ofText text
  | none => .error .certificate

/-! ## Topics -/

/-- Refuses a topic that the certificates do not list. Certificates without a list allow any.
    Model of `CertificateCapabilities.check_topic`. -/
def checkTopic (c : Capabilities) : Option String → Except ConstructionError Unit
  | none => .ok ()
  | some topic =>
    if c.allowedTopics.isEmpty || c.allowedTopics.contains topic then .ok ()
    else .error (.topicNotAllowed topic c.allowedTopics.keys)

end Capabilities

end Courier
