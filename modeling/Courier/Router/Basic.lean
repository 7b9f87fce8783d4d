import Courier.Dispatch.Run
import Courier.Metrics

/-!
# Routers

A router has one worker per project. Projects that cannot be served are listed beside it and keep
nobody else from being served.

Results:

* `Assembly.add_served`: a project that is already served is a duplicate.
-/

namespace Courier

/-- What delivers the pushes of one project: the push network, and what happens when a notification
    is served to devices. -/
structure Worker (σ : Type) where
  network : Network
  serve : List String → Notification → σ → List Dispatch.Event × σ

/-- A worker that converts notifications and asks a push network to deliver them. -/
def Dispatch.worker {R σ : Type} (network : Network)
    (convert : Notification → Except ConversionError (Converted R))
    (deliver : R → String → σ → Verdict × σ) (nopMode : Bool) (cancelled : σ → Bool) :
    Worker σ where
  network := network
  serve devices n := Dispatch.serve cancelled deliver ⟨devices, convert n, nopMode⟩

/-- Workers by project. -/
structure Router (ω : Type) where
  workers : Dict ω

namespace Router

variable {ω : Type}

/-- The number of projects. -/
def size (r : Router ω) : Nat := r.workers.size

/-- Whether there is no project. -/
def isEmpty (r : Router ω) : Bool := r.workers.isEmpty

/-- Adds a worker, whose project must be new. -/
def add (r : Router ω) (e : String × ω) : Except ConstructionError (Router ω) :=
  if r.workers.contains e.1 then .error (.duplicateProject e.1)
  else .ok ⟨r.workers.insert e.1 e.2⟩

/-- A router for workers, which must be for different projects. Model of `Router.new`. -/
def ofList (l : List (String × ω)) : Except ConstructionError (Router ω) := l.foldlM add ⟨.empty⟩

end Router

/-! ## Assembly -/

/-- A router, and the projects that it cannot serve, in order. -/
structure Assembly (ω : Type) where
  router : Router ω
  failures : List (String × ConstructionError)

namespace Assembly

variable {ω : Type}

/-- Nothing assembled yet. -/
def empty : Assembly ω := ⟨⟨.empty⟩, []⟩

/-- Records that a project cannot be served. -/
def fail (a : Assembly ω) (id : String) (error : ConstructionError) : Assembly ω :=
  { a with failures := a.failures ++ [(id, error)] }

/-- Adds a project, which is only built if it is not served yet. The building may break down as a
    whole, which leaves nothing. -/
def add (a : Assembly ω) (id : String) (build : Unit → Option (Except ConstructionError ω)) :
    Option (Assembly ω) :=
  if a.router.workers.contains id then some (a.fail id (.duplicateProject id))
  else
    match build () with
    | none => none
    | some (.ok worker) => some { a with router := ⟨a.router.workers.insert id worker⟩ }
    | some (.error error) => some (a.fail id error)

/-- Assembles a router for projects. Model of `Router.from_config`. -/
def ofList {α : Type} (id : α → String) (build : α → Option (Except ConstructionError ω))
    (l : List α) : Option (Assembly ω) :=
  l.foldlM (fun a p => a.add (id p) fun () => build p) empty

theorem add_served {a : Assembly ω} {id : String} (h : a.router.workers.contains id)
    (build : Unit → Option (Except ConstructionError ω)) :
    a.add id build = some (a.fail id (.duplicateProject id)) := by
  simp [add, h]

end Assembly

end Courier
