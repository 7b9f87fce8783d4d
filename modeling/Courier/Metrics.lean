import Courier.Dispatch.Event
import Courier.Dict

/-!
# Metrics

What is counted while pushes are dispatched. A metric has a value from the moment on at which it is
first touched.
-/

namespace Courier

/-- How the values of a metric come about. Model of `MetricType`. -/
inductive MetricKind
  | counter
  | gauge
  | histogram
  deriving DecidableEq, Repr, Inhabited

/-- The name of a kind. -/
def MetricKind.name : MetricKind → String
  | .counter => "Counter"
  | .gauge => "Gauge"
  | .histogram => "Histogram"

/-- A metric. Model of `MetricDef`. -/
structure Metric where
  name : String
  kind : MetricKind
  description : String
  deriving DecidableEq, Repr, Inhabited

namespace Metric

def received : Metric :=
  ⟨"push.received", .counter, "Number of pushes accepted by the router"⟩

def processed : Metric :=
  ⟨"push.processed", .counter, "Number of device sends that succeeded"⟩

def failed : Metric :=
  ⟨"push.failed", .counter, "Number of device sends that failed"⟩

def ioDuration : Metric :=
  ⟨"push.io.duration", .histogram, "Time spent in a provider call in seconds"⟩

def inflight : Metric :=
  ⟨"push.inflight", .gauge, "Number of pushes holding a dispatcher slot"⟩

/-- All metrics, in the order in which they are described. Model of `ALL_METRICS`. -/
def all : List Metric := [received, processed, failed, ioDuration, inflight]

/-- The key of a metric with labels, which stand in key order. -/
def key (m : Metric) (labels : Dict String) : String :=
  m.name ++ "\x7b" ++ ",".intercalate (labels.entries.map fun l => l.1 ++ "=" ++ l.2) ++ "\x7d"

end Metric

/-- A change of one metric. -/
structure Touch where
  key : String
  amount : Int
  deriving DecidableEq, Repr, Inhabited

/-- The changes that an event of a project makes. -/
def Dispatch.Event.touches (network : Network) (project : String) : Dispatch.Event → List Touch
  | .entered => [⟨Metric.inflight.key (.ofList [("project_id", project)]), 1⟩]
  | .left => [⟨Metric.inflight.key (.ofList [("project_id", project)]), -1⟩]
  | .returned => [⟨Metric.ioDuration.key (.ofList [("provider", network.name)]), 1⟩]
  | .delivered => [⟨Metric.processed.key (labels network project), 1⟩]
  | .failed => [⟨Metric.failed.key (labels network project), 1⟩]
  | .converted | .called _ | .reported _ => []
where
  /-- The labels of a metric that counts deliveries. -/
  labels (network : Network) (project : String) : Dict String :=
    .ofList [("provider", network.name), ("project_id", project)]

/-- The change that a push makes when it is accepted. -/
def Touch.received : Touch := ⟨Metric.received.key .empty, 1⟩

/-- The values of all metrics that were touched. -/
abbrev Metrics := Dict Int

namespace Metrics

/-- Makes a change. -/
def touch (m : Metrics) (t : Touch) : Metrics := m.insert t.key ((m.get? t.key).getD 0 + t.amount)

/-- Makes changes in order. -/
def touchAll (m : Metrics) (l : List Touch) : Metrics := l.foldl touch m

end Metrics

end Courier
