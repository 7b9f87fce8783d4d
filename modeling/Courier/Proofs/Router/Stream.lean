import Courier.Proofs.Router.Flight
import Mathlib.Algebra.Order.BigOperators.Group.List
import Mathlib.Algebra.Order.Group.Nat

/-!
# What a stream of pushes yields

Every project of every push that was pulled has its one item: it is joined, held, waits in the
buffer and is yielded, each once. When the stream has ended all of them were yielded, and before
that some of them, in whatever order the stream, its pushes and their projects took their steps.

Results:

* `PushStream.step_happens`: everything that a step can do.
* `PushStream.Happens.sound`: what holds in every state of a stream.
* `PushStream.rests_or_moves`: a stream has ended, or it waits for its input or for a slot, or a
  step brings it nearer to its end.
* `PushStream.steps_yield`: what a stream pulls and yields, in every order of steps.
-/

namespace Courier

variable {R : Type} {r : Router (Site R)}

/-! ## Streams -/

namespace PushStream

variable {input : Nat → Option Push} {replies : Nat → String → Nat → Verdict}
variable {s s' : PushStream R} {e : Step R}

/-- What a step can do. -/
inductive Happens (r : Router (Site R)) (input : Nat → Option Push)
    (replies : Nat → String → Nat → Verdict) (s : PushStream R) : Step R → PushStream R → Prop
  | nothing (e : Step R) : Happens r input replies s e s
  | reap (pick : Nat) (ready : Bool) : Happens r input replies s (.look pick ready) (s.reap pick)
  | stop (pick : Nat) (ready : Bool)
      (h : s.cancelled = true ∨ s.stopped = false ∧ input s.flights.length = none) :
      Happens r input replies s (.look pick ready) { s with stopped := true }
  | pull (pick : Nat) (ready : Bool) {p : Push} (hs : s.stopped = false)
      (hc : s.cancelled = false) (hp : input s.flights.length = some p) :
      Happens r input replies s (.look pick ready) { s with flights := s.flights ++ [.start r p] }
  | cancel :
      Happens r input replies s .cancel
        { s with flights := s.flights.map Flight.cancel, cancelled := true }
  | inside (index : Nat) (e : FanOut.Step R) :
      Happens r input replies s (.inside index e)
        { s with flights := s.flights.modify index fun f => f.step (replies index) e }
  | emit {index : Nat} {item : Invalidations}
      (h : s.flights[index]?.bind Flight.held = some item) :
      Happens r input replies s (.emit index)
        { s with flights := s.flights.modify index Flight.release, buffer := s.buffer ++ [item] }
  | read {item : Invalidations} {rest : List Invalidations} (h : s.buffer = item :: rest) :
      Happens r input replies s .read
        { s with buffer := rest, yielded := s.yielded ++ [item] }

theorem step_happens (r : Router (Site R)) (input : Nat → Option Push)
    (replies : Nat → String → Nat → Verdict) (s : PushStream R) (e : Step R) :
    Happens r input replies s e (s.step r input replies e) := by
  cases e with
  | look pick ready =>
    show Happens r input replies s _ (s.look r input pick ready)
    cases hs : s.stopped with
    | true =>
      rw [look, if_pos hs]
      exact .reap pick ready
    | false =>
      cases hc : s.cancelled with
      | true =>
        rw [look_cancelled hs hc]
        exact .stop pick ready (.inl hc)
      | false =>
        rw [look, if_neg (Bool.eq_false_iff.1 hs), if_neg (Bool.eq_false_iff.1 hc)]
        split
        · exact .reap pick ready
        · split
          · rw [PushStream.pull]
            split
            · exact .pull pick ready hs hc ‹_›
            · exact .stop pick ready (.inr ⟨hs, ‹_›⟩)
          · exact .nothing _
  | cancel => exact .cancel
  | inside index e => exact .inside index e
  | emit index =>
    rw [step]
    split
    · split
      · exact .emit ‹_›
      · exact .nothing _
    · exact .nothing _
  | read =>
    rw [step]
    split
    · exact .read ‹_›
    · exact .nothing _

/-- How often an item is held by the pushes of a stream. -/
def holding (s : PushStream R) (a : Invalidations) : Nat :=
  (s.flights.map fun f => f.held.toList.count a).sum

/-- How often an item was joined by the pushes of a stream. -/
def joining (s : PushStream R) (a : Invalidations) : Nat :=
  (s.flights.map fun f => f.items.count a).sum

/-- What holds of a stream in every state. -/
structure Sound (r : Router (Site R)) (input : Nat → Option Push)
    (replies : Nat → String → Nat → Verdict) (s : PushStream R) : Prop where
  arrival : ∀ i (f : Flight R), s.flights[i]? = some f → input i = some f.push
  flights : ∀ i (f : Flight R), s.flights[i]? = some f → f.Sound r (replies i) s.cancelled
  items : ∀ a, s.yielded.count a + s.buffer.count a + s.holding a = s.joining a
  complete : s.stopped = true → s.cancelled = false → input s.flights.length = none

theorem sound_new (r : Router (Site R)) (input : Nat → Option Push)
    (replies : Nat → String → Nat → Verdict) : ({} : PushStream R).Sound r input replies where
  arrival := by simp
  flights := by simp
  items := fun _ => rfl
  complete := nofun

/-- A change of one push that keeps it sound keeps the pushes of a stream sound. -/
theorem Sound.modify (h : s.Sound r input replies) {index : Nat} {g : Flight R → Flight R}
    (hpush : ∀ f, (g f).push = f.push)
    (hsound : ∀ f : Flight R, f.Sound r (replies index) s.cancelled →
      (g f).Sound r (replies index) s.cancelled)
    {buffer : List Invalidations}
    (hitems : ∀ a, s.yielded.count a + buffer.count a +
      ((s.flights.modify index g).map fun f => f.held.toList.count a).sum =
        ((s.flights.modify index g).map fun f => f.items.count a).sum) :
    ({ s with flights := s.flights.modify index g, buffer := buffer } : PushStream R).Sound
      r input replies where
  arrival := by
    intro i f hf
    rcases getElem?_modify_cases hf with hf' | ⟨-, f', hf', rfl⟩
    · exact h.arrival i f hf'
    · rw [hpush]
      exact h.arrival i f' hf'
  flights := by
    intro i f hf
    rcases getElem?_modify_cases hf with hf' | ⟨rfl, f', hf', rfl⟩
    · exact h.flights i f hf'
    · exact hsound f' (h.flights index f' hf')
  items := hitems
  complete := by
    intro hs hc
    rw [List.length_modify]
    exact h.complete hs hc

theorem reap_sound (h : s.Sound r input replies) (index : Nat) :
    (s.reap index).Sound r input replies := by
  refine h.modify (g := Flight.reap) (fun _ => rfl) ?_ ?_
  · intro f hf
    refine ⟨hf.fanOut, hf.flag, hf.fresh, fun hreaped => ?_⟩
    rcases Bool.or_eq_true_iff.1 hreaped with hreaped | hdone
    · exact hf.reaped hreaped
    · exact hdone
  · intro a
    rw [map_modify_of_eq (f := Flight.reap) fun _ => rfl,
      map_modify_of_eq (f := Flight.reap) fun _ => rfl]
    exact h.items a

theorem pull_sound (h : s.Sound r input replies) (hs : s.stopped = false)
    (hc : s.cancelled = false) {p : Push} (hp : input s.flights.length = some p) :
    ({ s with flights := s.flights ++ [.start r p] } : PushStream R).Sound r input replies := by
  have hlast : ∀ i f, (s.flights ++ [.start r p])[i]? = some f →
      s.flights[i]? = some f ∨ i = s.flights.length ∧ f = .start r p := by
    intro i f hf
    rw [List.getElem?_append] at hf
    split at hf
    · exact .inl hf
    · obtain ⟨hi, rfl⟩ := List.getElem?_eq_some_iff.1 hf
      rw [List.length_singleton] at hi
      exact .inr ⟨by omega, List.getElem_singleton _⟩
  constructor
  case arrival =>
    intro i f hf
    rcases hlast i f hf with hf | ⟨rfl, rfl⟩
    · exact h.arrival i f hf
    · exact hp
  case flights =>
    intro i f hf
    rcases hlast i f hf with hf | ⟨rfl, rfl⟩
    · exact h.flights i f hf
    · rw [show _ = false from hc]
      exact Flight.sound_start r _ p
  case items =>
    intro a
    show _ + ((s.flights ++ [_]).map _).sum = ((s.flights ++ [_]).map _).sum
    rw [List.map_append, List.map_append, List.sum_append, List.sum_append]
    exact h.items a
  case complete =>
    intro hstopped
    rw [show _ = false from hs] at hstopped
    cases hstopped

theorem cancel_sound (h : s.Sound r input replies) :
    ({ s with flights := s.flights.map Flight.cancel, cancelled := true } : PushStream R).Sound
      r input replies where
  arrival := by
    intro i f hf
    rw [List.getElem?_map] at hf
    obtain ⟨f', hf', rfl⟩ := Option.map_eq_some_iff.1 hf
    exact h.arrival i f' hf'
  flights := by
    intro i f hf
    rw [List.getElem?_map] at hf
    obtain ⟨f', hf', rfl⟩ := Option.map_eq_some_iff.1 hf
    exact Flight.cancel_sound (h.flights i f' hf')
  items := by
    intro a
    show _ + ((s.flights.map Flight.cancel).map _).sum = ((s.flights.map Flight.cancel).map _).sum
    rw [List.map_map, List.map_map]
    exact h.items a
  complete := nofun

theorem emit_sound (h : s.Sound r input replies) {index : Nat} {item : Invalidations}
    (hitem : s.flights[index]?.bind Flight.held = some item) :
    ({ s with
      flights := s.flights.modify index Flight.release
      buffer := s.buffer ++ [item] } : PushStream R).Sound r input replies := by
  obtain ⟨f, hf, hheld⟩ := Option.bind_eq_some_iff.1 hitem
  refine h.modify (g := Flight.release) (fun _ => rfl) ?_ ?_
  · intro f hf
    refine ⟨hf.fanOut, hf.flag, hf.fresh, fun hreaped => ?_⟩
    have hdone := hf.reaped hreaped
    simp only [Flight.isDone, Bool.and_eq_true] at hdone ⊢
    exact ⟨rfl, hdone.2⟩
  · intro a
    have hitems := h.items a
    have hheldSum := sum_modify (f := Flight.release) hf fun f => f.held.toList.count a
    rw [map_modify_of_eq (f := Flight.release) (g := fun f : Flight R => f.items.count a)
      fun _ => rfl]
    rw [hheld] at hheldSum
    unfold holding joining at hitems
    rw [List.count_append]
    replace hheldSum : _ + [item].count a = _ + 0 := hheldSum
    omega

theorem inside_sound (hstands : ∀ i project k, (replies i project k).Stands)
    (h : s.Sound r input replies) (index : Nat) (e : FanOut.Step R) :
    ({ s with flights := s.flights.modify index fun f => f.step (replies index) e } :
      PushStream R).Sound r input replies := by
  refine h.modify (fun f => f.step_push _ e) (fun f hf => f.step_sound (hstands index) hf e) ?_
  intro a
  have hitems := h.items a
  have hsum := sum_modify_add (l := s.flights) (i := index)
    (f := fun f => f.step (replies index) e) (v := fun f => f.held.toList.count a)
    (w := fun f => f.items.count a) fun f hf => Flight.count_step (h.flights index f hf) e a
  unfold holding joining at hitems
  omega

theorem read_sound (h : s.Sound r input replies) {item : Invalidations} {rest : List Invalidations}
    (hbuffer : s.buffer = item :: rest) :
    ({ s with buffer := rest, yielded := s.yielded ++ [item] } : PushStream R).Sound
      r input replies := by
  refine ⟨h.arrival, h.flights, fun a => ?_, h.complete⟩
  have hitems := h.items a
  rw [hbuffer, List.count_cons] at hitems
  show (s.yielded ++ [item]).count a + rest.count a + s.holding a = s.joining a
  rw [List.count_append, List.count_singleton]
  omega

/-- Every step of a stream keeps what holds of it. -/
theorem Happens.sound (hstands : ∀ i project k, (replies i project k).Stands)
    (happens : Happens r input replies s e s') (h : s.Sound r input replies) :
    s'.Sound r input replies := by
  cases happens with
  | nothing => exact h
  | reap pick => exact reap_sound h pick
  | stop _ _ hstop =>
    refine ⟨h.arrival, h.flights, h.items, fun _ hc => ?_⟩
    rcases hstop with hc' | ⟨-, hinput⟩
    · rw [show _ = false from hc] at hc'
      cases hc'
    · exact hinput
  | pull _ _ hs hc hp => exact pull_sound h hs hc hp
  | cancel => exact cancel_sound h
  | inside index e => exact inside_sound hstands h index e
  | emit hitem => exact emit_sound h hitem
  | read hbuffer => exact read_sound h hbuffer

/-- What holds of a stream after any steps. -/
theorem sound_steps (hstands : ∀ i project k, (replies i project k).Stands)
    (l : List (Step R)) (h : s.Sound r input replies) :
    (s.steps r input replies l).Sound r input replies := by
  induction l generalizing s with
  | nil => exact h
  | cons e l ih => exact ih ((step_happens r input replies s e).sound hstands h)

/-! ## What is yielded -/

/-- One item for each project of each push, if `found i` are the dead tokens of push number `i`. -/
def due (pushes : List Push) (found : Nat → String → List String) : List Invalidations :=
  pushes.zipIdx.flatMap fun e => e.1.destinations.keys.map fun project =>
    ⟨e.1.correlationId, project, found e.2 project⟩

/-- What was joined for a project of a push, and nothing before that. -/
def found (s : PushStream R) (i : Nat) (project : String) : List String :=
  (s.flights[i]?.bind fun f => f.fanOut.result.get? project).getD []

theorem found_eq {i : Nat} {f : Flight R} (hf : s.flights[i]? = some f) (project : String) :
    s.found i project = (f.fanOut.result.get? project).getD [] := by
  rw [found, hf]
  rfl

theorem due_pulled (s : PushStream R) : due s.pulled s.found = s.flights.flatMap Flight.due := by
  rw [due, pulled, List.zipIdx_map, List.flatMap_map, ← List.zipIdx_map_fst 0 s.flights,
    List.flatMap_map, List.zipIdx_map_fst]
  apply List.flatMap_congr
  intro e he
  have hf := List.mem_zipIdx_iff_getElem?.1 he
  apply List.map_congr_left
  intro project _
  show (⟨_, project, s.found e.2 project⟩ : Invalidations) = _
  rw [found_eq hf]
  rfl

/-- What was yielded is due. -/
theorem yielded_subperm (h : s.Sound r input replies) :
    s.yielded.Subperm (due s.pulled s.found) := by
  rw [due_pulled, List.subperm_ext_iff]
  intro a _
  have hitems := h.items a
  have hle : s.joining a ≤ (s.flights.map fun f => f.due.count a).sum := by
    apply List.sum_le_sum
    intro f hf
    obtain ⟨i, hi⟩ := List.mem_iff_getElem?.1 hf
    exact (Flight.items_subperm (h.flights i f hi)).count_le a
  rw [List.count_flatMap]
  exact Nat.le_trans (by omega) hle

theorem isDone_of_isOver (h : s.Sound r input replies) (hover : s.isOver = true) {f : Flight R}
    (hf : f ∈ s.flights) : f.held = none ∧ f.fanOut.isOver = true := by
  rw [isOver, Bool.and_eq_true, Bool.and_eq_true] at hover
  obtain ⟨i, hi⟩ := List.mem_iff_getElem?.1 hf
  have hdone := (h.flights i f hi).reaped (List.all_eq_true.1 hover.1.2 f hf)
  rwa [Flight.isDone, Bool.and_eq_true, Option.isNone_iff_eq_none] at hdone

/-- At the end of a stream all that is due was yielded. -/
theorem yielded_perm (h : s.Sound r input replies) (hover : s.isOver = true) :
    s.yielded.Perm (due s.pulled s.found) := by
  rw [due_pulled, List.perm_iff_count]
  intro a
  have hitems := h.items a
  have hholding : s.holding a = 0 := by
    apply List.sum_eq_zero
    intro n hn
    obtain ⟨f, hf, rfl⟩ := List.mem_map.1 hn
    rw [(isDone_of_isOver h hover hf).1]
    rfl
  have hjoining : s.joining a = (s.flights.map fun f => f.due.count a).sum := by
    refine congrArg List.sum (List.map_congr_left fun f hf => ?_)
    obtain ⟨i, hi⟩ := List.mem_iff_getElem?.1 hf
    rw [Flight.items_of_isOver (h.flights i f hi) (isDone_of_isOver h hover hf).2]
  have hbuffer : s.buffer = [] := by
    rw [isOver, Bool.and_eq_true] at hover
    exact List.isEmpty_iff.1 hover.2
  rw [hholding, hjoining, hbuffer] at hitems
  rw [List.count_flatMap]
  exact hitems

/-- What is found for a project is a start of its dead devices, and all of them at the end of a
    stream that is not cancelled. -/
theorem found_isPrefix (h : s.Sound r input replies) {i : Nat} {p : Push}
    (hp : s.pulled[i]? = some p) {project : String} {devices : List String}
    (hdevices : p.destinations.get? project = some devices) :
    s.found i project <+: r.deadDevices (replies i) p.notification project devices ∧
      (s.isOver = true → s.cancelled = false →
        s.found i project = r.deadDevices (replies i) p.notification project devices) := by
  rw [pulled, List.getElem?_map] at hp
  obtain ⟨f, hf, rfl⟩ := Option.map_eq_some_iff.1 hp
  obtain ⟨hstart, hall⟩ := Flight.found_isPrefix (h.flights i f hf) hdevices
  rw [found_eq hf]
  exact ⟨hstart, fun hover hc =>
    hall (isDone_of_isOver h hover (List.mem_of_getElem? hf)).2 hc⟩

/-! ## What a step pulls and yields -/

theorem pulled_modify {index : Nat} {g : Flight R → Flight R} (hpush : ∀ f, (g f).push = f.push) :
    (s.flights.modify index g).map Flight.push = s.pulled :=
  map_modify_of_eq hpush s.flights index

/-- A cancelled stream pulls nothing. -/
theorem Happens.pulled_of_cancelled (happens : Happens r input replies s e s')
    (hc : s.cancelled = true) : s'.pulled = s.pulled ∧ s'.cancelled = true := by
  cases happens with
  | nothing | stop | read => exact ⟨rfl, hc⟩
  | reap => exact ⟨pulled_modify (g := Flight.reap) fun _ => rfl, hc⟩
  | pull _ _ _ hc' =>
    rw [hc] at hc'
    cases hc'
  | cancel =>
    refine ⟨?_, rfl⟩
    show (s.flights.map Flight.cancel).map Flight.push = _
    rw [List.map_map]
    rfl
  | inside index e => exact ⟨pulled_modify fun f => f.step_push _ e, hc⟩
  | emit => exact ⟨pulled_modify (g := Flight.release) fun _ => rfl, hc⟩

theorem pulled_steps_of_cancelled (l : List (Step R)) (hc : s.cancelled = true) :
    (s.steps r input replies l).pulled = s.pulled := by
  induction l generalizing s with
  | nil => rfl
  | cons e l ih =>
    obtain ⟨hpulled, hc⟩ := (step_happens r input replies s e).pulled_of_cancelled hc
    exact (ih hc).trans hpulled

/-- What was yielded stays so. -/
theorem Happens.yielded_isPrefix (happens : Happens r input replies s e s') :
    s.yielded <+: s'.yielded := by
  cases happens with
  | read => exact List.prefix_append _ _
  | _ => exact List.prefix_refl _

theorem yielded_steps_isPrefix (l : List (Step R)) :
    s.yielded <+: (s.steps r input replies l).yielded := by
  induction l generalizing s with
  | nil => exact List.prefix_refl _
  | cons e l ih => exact (step_happens r input replies s e).yielded_isPrefix.trans ih

/-! ## One push after the other -/

/-- Delivering pushes one after the other finds the dead devices of every project. -/
theorem pushAll_fst {σ : Type} {workers : Router (Worker σ)} (l : List Push) (n : Nat)
    (h : ∀ e ∈ l.zipIdx n, workers.Agrees r (replies e.2) e.1) (st : σ) :
    (workers.pushAll l st).1 = (l.zipIdx n).flatMap fun e => e.1.destinations.entries.map fun d =>
      ⟨e.1.correlationId, d.1, r.deadDevices (replies e.2) e.1.notification d.1 d.2⟩ := by
  induction l generalizing n st with
  | nil => rfl
  | cons p rest ih =>
    have hagrees : workers.Agrees r (replies n) p := h (p, n) List.mem_cons_self
    have hall : (workers.serveAll p.notification p.destinations.entries st).1 =
        p.destinations.entries.map fun d =>
          (d.1, r.deadDevices (replies n) p.notification d.1 d.2) := by
      refine Router.serveAll_fst _ (fun e he st => ?_) st
      rw [hagrees e.1 e.2 st ((p.destinations.get?_eq_some_iff _ _).2 he),
        Router.deadTokens_reports]
    rw [List.zipIdx_cons, List.flatMap_cons]
    show (workers.serveAll p.notification p.destinations.entries st).1.map _ ++
      (workers.pushAll rest _).1 = _
    rw [hall, List.map_map, ih (n + 1) fun e he => h e (List.mem_cons_of_mem _ he)]
    rfl

/-- Delivering the pushes of a stream that has ended one after the other finds what it yielded, if
    it was not cancelled. -/
theorem yielded_perm_pushAll {σ : Type} {workers : Router (Worker σ)} (h : s.Sound r input replies)
    (hover : s.isOver = true) (hc : s.cancelled = false)
    (hagrees : ∀ i p, input i = some p → workers.Agrees r (replies i) p) (st : σ) :
    s.yielded.Perm (workers.pushAll s.pulled st).1 := by
  have hpulled : ∀ e ∈ s.pulled.zipIdx, s.pulled[e.2]? = some e.1 := fun e he =>
    List.mem_zipIdx_iff_getElem?.1 he
  have harrival : ∀ e ∈ s.pulled.zipIdx, input e.2 = some e.1 := by
    intro e he
    have hp := hpulled e he
    rw [pulled, List.getElem?_map] at hp
    obtain ⟨f, hf, hpush⟩ := Option.map_eq_some_iff.1 hp
    rw [h.arrival e.2 f hf, hpush]
  rw [pushAll_fst s.pulled 0 fun e he => hagrees e.2 e.1 (harrival e he)]
  refine (yielded_perm h hover).trans (.of_eq ?_)
  apply List.flatMap_congr
  intro e he
  rw [Dict.keys, List.map_map]
  apply List.map_congr_left
  intro d hd
  have hdevices := (e.1.destinations.get?_eq_some_iff d.1 d.2).2 hd
  show (⟨_, d.1, s.found e.2 d.1⟩ : Invalidations) = _
  rw [(found_isPrefix h (hpulled e he) hdevices).2 hover hc]

/-! ## Progress -/

/-- An upper bound for the steps that a stream has left if it pulls nothing more. -/
def work (s : PushStream R) : Nat :=
  (s.flights.map Flight.work).sum + s.buffer.length + if s.stopped then 0 else 1

/-- Whether a stream has nothing to do until the next push arrives. -/
def IsIdle (s : PushStream R) : Prop :=
  s.stopped = false ∧ s.cancelled = false ∧ s.buffer = [] ∧ ∀ f ∈ s.flights, f.reaped = true

theorem work_modify_lt {index : Nat} {f : Flight R} (hf : s.flights[index]? = some f)
    {g : Flight R → Flight R} (h : (g f).work < f.work) :
    ({ s with flights := s.flights.modify index g } : PushStream R).work < s.work := by
  exact Nat.add_lt_add_right (Nat.add_lt_add_right (sum_modify_lt hf h) _) _

theorem read_work_lt (h : s.buffer ≠ []) : (s.step r input replies .read).work < s.work := by
  obtain ⟨item, rest, hbuffer⟩ := List.exists_cons_of_ne_nil h
  rw [step, hbuffer, work, work, hbuffer, List.length_cons]
  show (s.flights.map _).sum + rest.length + (if s.stopped then 0 else 1) < _
  omega

theorem emit_work_lt (hbuffer : s.buffer = []) {index : Nat} {f : Flight R}
    (hf : s.flights[index]? = some f) (hheld : f.held ≠ none) :
    (s.step r input replies (.emit index)).work < s.work := by
  obtain ⟨item, hitem⟩ := Option.ne_none_iff_exists'.1 hheld
  have hstep : s.step r input replies (.emit index) = { s with
      flights := s.flights.modify index Flight.release
      buffer := s.buffer ++ [item] } := by
    rw [step, hf, Option.bind_some, hitem]
    exact if_pos (by rw [hbuffer]; decide)
  have hsum := sum_modify (f := Flight.release) hf Flight.work
  have hwork : f.release.work + 2 = f.work := by
    rw [Flight.work, Flight.work, hitem]
    show 3 * f.fanOut.work + 0 + (if f.reaped then 0 else 1) + 2 =
      3 * f.fanOut.work + 2 + if f.reaped then 0 else 1
    omega
  rw [hstep, work, work, List.length_append, List.length_singleton]
  show (List.map _ (s.flights.modify index Flight.release)).sum + _ +
    (if s.stopped then 0 else 1) < _
  omega

theorem look_work_lt {index : Nat} {f : Flight R} (hf : s.flights[index]? = some f)
    (hdone : f.isDone = true) (hreaped : f.reaped = false) :
    (s.step r input replies (.look index false)).work < s.work := by
  have hreap : (s.reap index).work < s.work := by
    apply work_modify_lt hf
    rw [Flight.work, Flight.work, hreaped]
    show 3 * f.fanOut.work + _ + (if f.reaped || f.isDone then 0 else 1) < _ + _ + 1
    rw [hreaped, hdone]
    exact Nat.lt_succ_self _
  have hany : (s.flights.any fun f => f.isDone && !f.reaped) = true := by
    rw [List.any_eq_true]
    exact ⟨f, List.mem_of_getElem? hf, by rw [hdone, hreaped]; rfl⟩
  show (s.look r input index false).work < s.work
  cases hs : s.stopped with
  | true => rwa [look, if_pos hs]
  | false =>
    cases hc : s.cancelled with
    | true =>
      rw [look_cancelled hs hc, work, work, hs]
      exact Nat.lt_succ_self _
    | false =>
      rw [look, hs, hc, hany]
      exact hreap

/-- A stream has ended, or it waits for its input, or a project waits for a slot, or a step brings
    the stream nearer to its end. -/
theorem rests_or_moves (h : s.Sound r input replies) :
    s.isOver = true ∨ s.IsIdle ∨ (∃ f ∈ s.flights, ∃ l ∈ f.fanOut.lanes, l.Waits) ∨
      ∃ e, (s.step r input replies e).work < s.work := by
  by_cases hbuffer : s.buffer = []
  case neg => exact .inr (.inr (.inr ⟨.read, read_work_lt hbuffer⟩))
  by_cases hall : ∀ f ∈ s.flights, f.reaped = true
  case neg =>
    push Not at hall
    obtain ⟨f, hmem, hreaped⟩ := hall
    obtain ⟨index, hf⟩ := List.mem_iff_getElem?.1 hmem
    by_cases hheld : f.held = none
    case neg => exact .inr (.inr (.inr ⟨.emit index, emit_work_lt hbuffer hf hheld⟩))
    rcases FanOut.rests_or_moves (h.flights index f hf).fanOut with hover | hwaits | ⟨e, he, hwork⟩
    · refine .inr (.inr (.inr
        ⟨.look index false, look_work_lt hf ?_ (Bool.eq_false_iff.2 hreaped)⟩))
      rw [Flight.isDone, hheld, hover]
      rfl
    · exact .inr (.inr (.inl ⟨f, hmem, hwaits⟩))
    · exact .inr (.inr (.inr ⟨.inside index e, work_modify_lt hf
        (Flight.work_step_lt hheld he hwork)⟩))
  cases hs : s.stopped with
  | true =>
    left
    rw [isOver, hs, hbuffer, List.all_eq_true.2 hall]
    rfl
  | false =>
    cases hc : s.cancelled with
    | true =>
      refine .inr (.inr (.inr ⟨.look 0 false, ?_⟩))
      show (s.look r input 0 false).work < s.work
      rw [look_cancelled hs hc, work, work, hs]
      exact Nat.lt_succ_self _
    | false => exact .inr (.inl ⟨hs, hc, hbuffer, hall⟩)

/-! ## Results -/

/-- What a stream has come to in some state. -/
structure Yields (r : Router (Site R)) (input : Nat → Option Push)
    (replies : Nat → String → Nat → Verdict) (s : PushStream R) : Prop where
  /-- Pushes are pulled in the order in which they arrive. -/
  arrival : ∀ i p, s.pulled[i]? = some p → input i = some p
  /-- They are all pulled, unless the stream is cancelled. -/
  complete : s.stopped = true → s.cancelled = false → input s.pulled.length = none
  /-- Each project of each push that was pulled has one item, and these were yielded: some of them
      at any time, and all of them at the end. A project that is not known has an empty list. -/
  items : ∃ found : Nat → String → List String,
    s.yielded.Subperm (due s.pulled found) ∧
    (s.isOver = true → s.yielded.Perm (due s.pulled found)) ∧
    ∀ i p project devices, s.pulled[i]? = some p → p.destinations.get? project = some devices →
      found i project <+: r.deadDevices (replies i) p.notification project devices ∧
      (r.workers.get? project = none → found i project = []) ∧
      (s.isOver = true → s.cancelled = false →
        found i project = r.deadDevices (replies i) p.notification project devices)
  /-- Delivering one push after the other gives the same items, if nobody cancels the stream. -/
  sequential : s.isOver = true → s.cancelled = false →
    ∀ {σ : Type} (workers : Router (Worker σ)) (st : σ),
      (∀ i p, input i = some p → workers.Agrees r (replies i) p) →
        s.yielded.Perm (workers.pushAll s.pulled st).1
  /-- What was yielded stays so. -/
  grows : ∀ more, s.yielded <+: (s.steps r input replies more).yielded
  /-- Nothing is pulled after a cancellation. -/
  cancelled : s.cancelled = true → ∀ more, (s.steps r input replies more).pulled = s.pulled
  /-- The stream has ended, or it waits for its input, or a project waits while its dispatcher has
      no slot free, or a step brings the stream nearer to its end. -/
  proceeds : s.isOver = true ∨ s.IsIdle ∨ (∃ f ∈ s.flights, ∃ l ∈ f.fanOut.lanes, l.Waits) ∨
    ∃ e, (s.step r input replies e).work < s.work

/-- What a stream pulls and yields does not depend on the order of the steps of the stream, its
    pushes and their projects, nor on when it is cancelled or its input ends. -/
theorem steps_yield (r : Router (Site R)) (input : Nat → Option Push)
    (replies : Nat → String → Nat → Verdict) (hstands : ∀ i project k, (replies i project k).Stands)
    (l : List (Step R)) : Yields r input replies (({} : PushStream R).steps r input replies l) := by
  have h := sound_steps hstands l (sound_new r input replies)
  constructor
  case arrival =>
    intro i p hp
    rw [pulled, List.getElem?_map] at hp
    obtain ⟨f, hf, rfl⟩ := Option.map_eq_some_iff.1 hp
    exact h.arrival i f hf
  case complete =>
    rw [pulled, List.length_map]
    exact h.complete
  case items =>
    refine ⟨_, yielded_subperm h, yielded_perm h, fun i p project devices hp hdevices => ?_⟩
    obtain ⟨hstart, hall⟩ := found_isPrefix h hp hdevices
    refine ⟨hstart, fun hunknown => ?_, hall⟩
    rw [Router.deadDevices_of_unknown hunknown] at hstart
    exact List.prefix_nil.1 hstart
  case sequential =>
    intro hover hc σ workers st hagrees
    exact yielded_perm_pushAll h hover hc hagrees st
  case grows => exact fun more => yielded_steps_isPrefix more
  case cancelled => exact fun hc more => pulled_steps_of_cancelled more hc
  case proceeds => exact rests_or_moves h

/-- A stream of one push to two projects, one of which is known; the input ends while the push is
    under way. -/
theorem steps_yield_two :
    let input : Nat → Option Push := fun i => if i = 0 then some FanOut.twoProjects else none
    let l : List (Step Unit) := [.look 0 true, .inside 0 (.join 1), .emit 0, .look 0 true] ++
      FanOut.someOrder.map (.inside 0) ++ [.read, .emit 0, .look 0 false, .read]
    let s := ({} : PushStream Unit).steps FanOut.oneSite input (fun _ => FanOut.firstIsDead) l
    (∀ (_ : Nat) project k, (FanOut.firstIsDead project k).Stands) ∧
      Yields FanOut.oneSite input (fun _ => FanOut.firstIsDead) s ∧
      s.isOver = true ∧ s.yielded = [⟨"", "b", []⟩, ⟨"", "a", ["x"]⟩] := by
  intro input l s
  have hstands : ∀ (_ : Nat) project k, (FanOut.firstIsDead project k).Stands := by
    intro _ project k
    unfold FanOut.firstIsDead
    split <;> decide
  exact ⟨hstands, steps_yield FanOut.oneSite input (fun _ => FanOut.firstIsDead) hstands l,
    by decide +kernel, by decide +kernel⟩

end PushStream

end Courier
