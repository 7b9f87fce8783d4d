import Courier.Service.Config
import Courier.Text.Blank
import Courier.Url.Parser

/-!
# Reports of the service

Errors are reported to a URL that names a user and a project; metrics go to a host and a port. Both
are looked at before any project is set up.
-/

namespace Courier

/-- Whether errors can be reported to a URL: it has a user name, and its path names a project. -/
def Url.isReportTarget (url : Url) : Bool :=
  url.userinfo ≠ "" && url.userinfo.toList.head? != some ':' && url.path.any (· ≠ "")

/-- Whether the place for error reports can be used. An empty text stands for no place.
    Model of the check in `init_logging`. -/
def Logging.isReadable (logging : Logging) : Bool :=
  match logging.sentryDsn with
  | none => true
  | some "" => true
  | some text =>
    match Url.parse text with
    | .ok (some url) => url.isReportTarget
    | _ => false

/-- Why metrics cannot be sent. -/
inductive MetricsFault
  | blankHost
  | noPort
  | unknownHost (host : String)
  deriving DecidableEq, Repr, Inhabited

/-- The wording of a fault. -/
def MetricsFault.message : MetricsFault → String
  | .blankHost => "the host is blank"
  | .noPort => "the port is zero"
  | .unknownHost host => "no address for " ++ host

/-- Whether metrics can be sent to a target. Model of the checks in `init_metrics`. -/
def MetricsTarget.check (m : Machine) (target : MetricsTarget) : Except MetricsFault Unit :=
  if Text.allBlank target.host then .error .blankHost
  else if target.port = 0 then .error .noPort
  else if m.hasAddress target.host then .ok ()
  else .error (.unknownHost target.host)

end Courier
