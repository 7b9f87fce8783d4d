import Courier.Certificate.Writer
import Courier.Dispatch.Mask
import Courier.Dispatch.Script
import Courier.Http.BodyStream
import Courier.Http.Script
import Courier.Json.Redaction
import Courier.Main
import Courier.Proofs.Conversion.Voip
import Courier.Proofs.Delivery.Addresses
import Courier.Proofs.Delivery.Cancellation
import Courier.Proofs.Delivery.Devices
import Courier.Proofs.Delivery.Verdicts
import Courier.Proofs.Dispatch.Slots
import Courier.Proofs.OAuth.Sharing
import Courier.Proofs.Router.Stream
import Courier.Text.Hex
import Courier.Proofs.Conversion.Envelope
import Courier.Proofs.Conversion.Encrypted
import Courier.Proofs.Conversion.Shown
import Courier.Proofs.Conversion.Suppressed
import Courier.Proofs.Conversion.Agreement
import Courier.Proofs.Certificate.Topics
import Courier.Proofs.Certificate.Bundle
import Courier.Proofs.Certificate.Nested
import Courier.Proofs.Project.Validation
import Courier.Proofs.Router.Assembly
import Courier.Proofs.Project.Faults
import Courier.Proofs.Conversion.Consistent
import Courier.Proofs.Project.FirstFault
import Courier.Proofs.Retry.Counted
import Courier.Proofs.Delivery.Overrun
import Courier.Proofs.Json.Redaction
import Courier.Proofs.Project.Startup
import Courier.Proofs.Json.Record
import Courier.Proofs.Http.Streamed
import Courier.Proofs.Conversion.Written
import Courier.Proofs.Delivery.Excerpts
import Courier.Proofs.Conversion.Expiration
