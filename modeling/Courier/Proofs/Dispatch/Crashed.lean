import Courier.Proofs.Dispatch.Serving

/-!
# Crashed deliveries

A delivery that crashes takes down the task that dispatches its push. The devices before it have got
their outcomes by then. Neither its own device nor any after it gets one.

Results:

* `Job.crash?_eq_none_iff`: whether a delivery of a push crashes can be seen from the answers.
* `serve_outcomes`, `serve_outcomes_crashed`: what is reported for a push that nobody cancels.
-/

namespace Courier.Dispatch

variable {R σ : Type} {deliver : R → String → σ → Verdict × σ} {verdict : Nat → Verdict}

/-! ## Answers -/

theorem not_mem_answers {v : Verdict} (h : ∀ request token s, (deliver request token s).1 ≠ v)
    (request : R) (l : List String) (s : σ) : v ∉ answers deliver request l s := by
  induction l generalizing s with
  | nil => exact List.not_mem_nil
  | cons token rest ih =>
    rw [answers]
    split
    · exact ih s
    · rw [List.mem_cons, not_or]
      exact ⟨Ne.symm (h request token s), ih _⟩

/-- What answers no call answers no call of a push. -/
theorem Job.not_mem_answers {v : Verdict} (h : ∀ request token s, (deliver request token s).1 ≠ v)
    (job : Job R) (s : σ) : v ∉ job.answers deliver s := by
  unfold answers
  split
  · split
    · exact List.not_mem_nil
    · exact Dispatch.not_mem_answers h _ _ _
  · exact List.not_mem_nil

/-! ## The first crash -/

/-- The number of devices before the first one whose delivery crashes, if there is such a one. -/
def crashAmong (deliver : R → String → σ → Verdict × σ) (request : R) :
    List String → σ → Option Nat
  | [], _ => none
  | token :: rest, s =>
    if token = "" then (crashAmong deliver request rest s).map (· + 1)
    else if (deliver request token s).1 = .crashed then some 0
    else (crashAmong deliver request rest (deliver request token s).2).map (· + 1)

/-- The number of devices of a push before the first one whose delivery crashes, if there is such a
    one. -/
def Job.crash? (job : Job R) (deliver : R → String → σ → Verdict × σ) (s : σ) : Option Nat :=
  match job.converted with
  | .ok (.send request) => if job.nopMode then none else crashAmong deliver request job.devices s
  | _ => none

theorem crashAmong_eq_none_iff (request : R) (l : List String) (s : σ) :
    crashAmong deliver request l s = none ↔ .crashed ∉ answers deliver request l s := by
  induction l generalizing s with
  | nil => simp [crashAmong, answers]
  | cons token rest ih =>
    rw [crashAmong, answers]
    split
    · rw [Option.map_eq_none_iff, ih]
    · split
      · simp [*]
      · rw [Option.map_eq_none_iff, ih, List.mem_cons, not_or]
        exact (and_iff_right (Ne.symm ‹_›)).symm

theorem Job.crash?_eq_none_iff (job : Job R) (s : σ) :
    job.crash? deliver s = none ↔ .crashed ∉ job.answers deliver s := by
  obtain ⟨devices, converted, nopMode⟩ := job
  cases converted with
  | error error => simp [crash?, answers]
  | ok converted =>
    cases converted with
    | ignore => simp [crash?, answers]
    | send request =>
      cases nopMode with
      | true => simp [crash?, answers]
      | false => exact crashAmong_eq_none_iff request devices s

theorem crashAmong_lt {request : R} {l : List String} {s : σ} {i : Nat}
    (h : crashAmong deliver request l s = some i) : i < l.length := by
  induction l generalizing s i with
  | nil => cases h
  | cons token rest ih =>
    rw [crashAmong] at h
    split at h
    · obtain ⟨j, hj, rfl⟩ := Option.map_eq_some_iff.1 h
      exact Nat.succ_lt_succ (ih hj)
    · split at h
      · cases h
        exact Nat.zero_lt_succ _
      · obtain ⟨j, hj, rfl⟩ := Option.map_eq_some_iff.1 h
        exact Nat.succ_lt_succ (ih hj)

/-- A push of which a delivery crashes has an outcome to report for each device. -/
theorem Job.length_outcomes_of_crash {job : Job R} {s : σ} {i : Nat}
    (h : job.crash? deliver s = some i) (verdict : Nat → Verdict) :
    i < job.devices.length ∧ (job.outcomes verdict).length = job.devices.length := by
  obtain ⟨devices, converted, nopMode⟩ := job
  rcases converted with error | (request | _)
  case error => cases h
  case ok.ignore => cases h
  case ok.send =>
    cases nopMode with
    | true => cases h
    | false =>
      have hlt : i < devices.length := crashAmong_lt h
      have hdevices : devices ≠ [] := List.ne_nil_of_length_pos (Nat.zero_lt_of_lt hlt)
      refine ⟨hlt, ?_⟩
      rw [Job.outcomes, if_neg hdevices]
      exact List.length_mapIdx

/-! ## Outcomes -/

/-- Until a delivery crashes, each device gets its outcome. -/
theorem outcomes_sendAll (request : R) (l : List String) (n : Nat) (s : σ)
    (hcut : .cutOff ∉ answers deliver request l s)
    (h : AnsweredBy verdict false n (answers deliver request l s)) :
    outcomes (sendAll (fun _ => false) deliver false request l s).1 =
      (outcomes (sendingCourse false verdict n l)).take
        ((crashAmong deliver request l s).getD l.length) := by
  have hnext : ∀ (found : Option Nat) (m : Nat),
      (found.map (· + 1)).getD (m + 1) = found.getD m + 1 := by
    intro found m
    cases found <;> rfl
  induction l generalizing n s with
  | nil => rfl
  | cons token rest ih =>
    simp only [sendAll, sendingCourse, Bool.false_eq_true, if_false]
    rw [answers] at hcut h
    rw [crashAmong, List.length_cons]
    by_cases htoken : token = ""
    · rw [if_pos htoken] at hcut h
      simp only [if_pos htoken, hnext]
      rw [outcomes_cons, outcomes_cons, ih n s hcut h]
      rfl
    · rw [if_neg htoken] at hcut h
      replace h : AnsweredBy verdict false n ((some (deliver request token s).1).toList ++ _) := h
      have hanswer : (deliver request token s).1 = verdict n :=
        (h.head _ rfl).resolve_right fun hcancelled => Bool.false_ne_true hcancelled.2
      rw [List.mem_cons, not_or] at hcut
      simp only [if_neg htoken]
      by_cases hcrash : (deliver request token s).1 = .crashed
      · simp only [hcrash]
        rfl
      · obtain ⟨hgoes, hevents⟩ := verdictEvents_of_stands token ⟨hcrash, Ne.symm hcut.1⟩
        simp only [if_neg hcrash, if_pos hgoes, hnext]
        rw [outcomes_append, outcomes_cons, ← outcomes_essential (verdictEvents _ _).1, hevents,
          ih (n + 1) _ hcut.2 h.tail, outcomes_cons, outcomes_cons, hanswer]
        rfl

/-- The answers to the calls of a push by their numbers. -/
def Job.verdicts (job : Job R) (deliver : R → String → σ → Verdict × σ) (s : σ) (k : Nat) :
    Verdict :=
  (job.answers deliver s)[k]?.getD .delivered

theorem Job.answeredBy_verdicts (job : Job R) (s : σ) :
    AnsweredBy (job.verdicts deliver s) false 0 (job.answers deliver s) := by
  intro k v hv
  rw [Nat.zero_add, verdicts, hv]
  exact .inl rfl

/-- If no delivery crashes, everything is reported that is to be reported. -/
theorem serve_outcomes {job : Job R} {s : σ} (hcut : .cutOff ∉ job.answers deliver s)
    (hcrash : job.crash? deliver s = none) :
    outcomes (serve (fun _ => false) deliver job s).1 =
      job.outcomes (job.verdicts deliver s) := by
  have hstands : ∀ k, (job.verdicts deliver s k).Stands := by
    intro k
    unfold Job.verdicts
    cases hk : (job.answers deliver s)[k]? with
    | none => exact ⟨nofun, nofun⟩
    | some v =>
      have hv := List.mem_of_getElem? hk
      rw [Job.crash?_eq_none_iff] at hcrash
      exact ⟨fun h => hcrash (h ▸ hv), fun h => hcut (h ▸ hv)⟩
  rw [← outcomes_essential, serve_course hstands job s (job.answeredBy_verdicts s),
    job.outcomes_course]

/-- If a delivery crashes, that is reported which comes before it. -/
theorem serve_outcomes_crashed {job : Job R} {s : σ} {i : Nat}
    (hcut : .cutOff ∉ job.answers deliver s) (hcrash : job.crash? deliver s = some i) :
    outcomes (serve (fun _ => false) deliver job s).1 =
      (job.outcomes (job.verdicts deliver s)).take i := by
  have hanswered : AnsweredBy (job.verdicts deliver s) false 0 (job.answers deliver s) :=
    job.answeredBy_verdicts s
  revert hanswered
  generalize job.verdicts deliver s = verdict
  intro hanswered
  rw [← job.outcomes_course]
  obtain ⟨devices, converted, nopMode⟩ := job
  rcases converted with error | (request | _)
  case error => cases hcrash
  case ok.ignore => cases hcrash
  case ok.send =>
    cases nopMode with
    | true => cases hcrash
    | false =>
      replace hcrash : crashAmong deliver request devices s = some i := hcrash
      have hdevices : devices ≠ [] :=
        List.ne_nil_of_length_pos (Nat.zero_lt_of_lt (crashAmong_lt hcrash))
      have hsent := outcomes_sendAll request devices 0 s hcut hanswered
      rw [hcrash] at hsent
      rw [serve, if_neg Bool.false_ne_true, run, if_neg hdevices, Job.course, Job.courseFrom,
        if_neg hdevices]
      show outcomes (_ ++ if _ then _ else _) = (outcomes (sendingCourse _ _ _ _)).take i
      rw [outcomes_append]
      split <;> exact (List.append_nil _).trans hsent

end Courier.Dispatch
