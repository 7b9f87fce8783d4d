import Courier.Proofs.Dispatch.Move

/-!
# The course of a push

What is converted, called and reported for a push that nobody disturbs depends on its job and on the
answers to its calls alone. `Job.course` writes it down, and the closed forms say what it comes to:
one outcome for each device, one call for each token that is not empty.

Results:

* `Job.outcomes_course`, `Job.calls_course`, `Job.count_course`: the outcomes, the calls and the
  conversions of a course.
* `Job.deadTokens_outcomes`: which devices turn out to be dead.
-/

namespace Courier

/-! ## Answers to calls -/

namespace Verdict

/-- The error that a verdict reports. -/
def error? : Verdict → Option DeliveryError
  | .failed error => some error
  | .delivered | .crashed => none

/-- The verdict on a call that was cut off. -/
def cutOff : Verdict := .failed (.send .cancelled)

/-- Whether a verdict is about a call that came to its own end. -/
def Stands (v : Verdict) : Prop := v ≠ .crashed ∧ v ≠ cutOff

instance (v : Verdict) : Decidable v.Stands := inferInstanceAs (Decidable (_ ∧ _))

/-- Whether a verdict says that the token is dead. -/
def isInvalidation : Verdict → Bool
  | .failed (.invalidToken _) => true
  | _ => false

theorem error?_any_invalidates (v : Verdict) :
    v.error?.any DeliveryError.invalidates = v.isInvalidation := by
  cases v with
  | failed error =>
    cases error with
    | send error => cases error <;> rfl
    | _ => rfl
  | _ => rfl

end Verdict

namespace Dispatch

variable {R : Type}

/-! ## Essential events -/

/-- Whether an event is a conversion, a call or an outcome. -/
def Event.isEssential : Event → Bool
  | .converted | .called _ | .reported _ => true
  | _ => false

/-- The conversions, calls and outcomes among some events. -/
def essential (events : List Event) : List Event := events.filter Event.isEssential

@[simp] theorem essential_append (l m : List Event) :
    essential (l ++ m) = essential l ++ essential m :=
  List.filter_append ..

theorem outcomes_cons (e : Event) (l : List Event) :
    outcomes (e :: l) = e.outcome?.toList ++ outcomes l := by
  cases e <;> rfl

theorem calls_cons (e : Event) (l : List Event) :
    calls (e :: l) = e.calledToken?.toList ++ calls l := by
  cases e <;> rfl

theorem outcomes_append (l m : List Event) : outcomes (l ++ m) = outcomes l ++ outcomes m :=
  List.filterMap_append ..

theorem calls_append (l m : List Event) : calls (l ++ m) = calls l ++ calls m :=
  List.filterMap_append ..

theorem outcomes_essential (l : List Event) : outcomes (essential l) = outcomes l := by
  rw [essential, outcomes, List.filterMap_filter]
  congr 1
  funext e
  cases e <;> rfl

theorem calls_essential (l : List Event) : calls (essential l) = calls l := by
  rw [essential, calls, List.filterMap_filter]
  congr 1
  funext e
  cases e <;> rfl

theorem count_essential (l : List Event) : (essential l).count .converted = l.count .converted :=
  List.count_filter rfl

@[simp] theorem essential_leaving (freed : Nat) (crashed : Bool) :
    essential (leaving freed crashed) = [] := by
  unfold leaving
  split <;> rfl

@[simp] theorem outcomes_leaving (freed : Nat) (crashed : Bool) :
    outcomes (leaving freed crashed) = [] := by
  unfold leaving
  split <;> rfl

theorem verdictEvents_of_stands (token : String) {v : Verdict} (h : v.Stands) :
    (verdictEvents token v).2 = true ∧
      essential (verdictEvents token v).1 = [.reported ⟨token, v.error?⟩] := by
  obtain ⟨hcrash, hcut⟩ := h
  cases v with
  | delivered => exact ⟨rfl, rfl⟩
  | crashed => exact absurd rfl hcrash
  | failed error =>
    have : error ≠ .send .cancelled := fun h => hcut (h ▸ rfl)
    simp [verdictEvents, this, essential, Event.isEssential, Verdict.error?]

/-! ## Courses -/

/-- The refusal of a device because of a conversion error. -/
def refusal (error : ConversionError) (token : String) : Event :=
  .reported ⟨token, some (.conversion error)⟩

/-- The course of delivering to some devices, if `verdict k` answers call number `k` and call number
    `n` is the next. -/
def sendingCourse (nopMode : Bool) (verdict : Nat → Verdict) : Nat → List String → List Event
  | _, [] => []
  | n, token :: rest =>
    if token = "" then .reported emptyToken :: sendingCourse nopMode verdict n rest
    else if nopMode then .reported ⟨token, none⟩ :: sendingCourse nopMode verdict n rest
    else
      .called token :: .reported ⟨token, (verdict n).error?⟩ ::
        sendingCourse nopMode verdict (n + 1) rest

namespace Job

/-- The course of a push whose next call has number `n`. -/
def courseFrom (job : Job R) (verdict : Nat → Verdict) (n : Nat) : List Event :=
  if job.devices = [] then [.reported emptyList]
  else
    match job.converted with
    | .ok .ignore => [.converted]
    | .error error => .converted :: job.devices.map (refusal error)
    | .ok (.send _) => .converted :: sendingCourse job.nopMode verdict n job.devices

/-- The course of a push that nobody disturbs. -/
def course (job : Job R) (verdict : Nat → Verdict) : List Event := job.courseFrom verdict 0

/-- The number of calls for the devices before number `i`. -/
def callsBefore (devices : List String) (i : Nat) : Nat := (devices.take i).countP (· ≠ "")

/-- What is reported for device number `i`. -/
def outcome (job : Job R) (verdict : Nat → Verdict) (i : Nat) (token : String) : Outcome :=
  { token := token
    error :=
      if token = "" then some .emptyDeviceToken
      else if job.nopMode then none
      else (verdict (callsBefore job.devices i)).error? }

/-- What is reported for a push that nobody disturbs. -/
def outcomes (job : Job R) (verdict : Nat → Verdict) : List Outcome :=
  if job.devices = [] then [emptyList]
  else
    match job.converted with
    | .ok .ignore => []
    | .error error => job.devices.map fun token => ⟨token, some (.conversion error)⟩
    | .ok (.send _) => job.devices.mapIdx (job.outcome verdict)

/-- The tokens for which the push network is called. -/
def calls (job : Job R) : List String :=
  match job.converted with
  | .ok (.send _) => if job.nopMode then [] else job.devices.filter (· ≠ "")
  | _ => []

/-- The devices of a push that turn out to be dead, in order and with repetitions. -/
def deadDevices (job : Job R) (verdict : Nat → Verdict) : List String :=
  match job.converted with
  | .ok (.send _) =>
    if job.nopMode then []
    else
      (job.devices.zipIdx.filter fun (token, i) =>
        token ≠ "" && (verdict (callsBefore job.devices i)).isInvalidation).map Prod.fst
  | _ => []

/-- How often the notification is converted. -/
def conversions (job : Job R) : Nat := if job.devices = [] then 0 else 1

end Job

theorem outcomes_sendingCourse (nopMode : Bool) (verdict : Nat → Verdict) (n : Nat)
    (l : List String) :
    outcomes (sendingCourse nopMode verdict n l) = l.mapIdx fun i token =>
      { token := token
        error :=
          if token = "" then some .emptyDeviceToken
          else if nopMode then none
          else (verdict (n + Job.callsBefore l i)).error? } := by
  induction l generalizing n with
  | nil => rfl
  | cons token rest ih =>
    rw [sendingCourse, List.mapIdx_cons]
    by_cases htoken : token = ""
    · subst htoken
      rw [if_pos rfl, outcomes_cons, ih n]
      simp [Event.outcome?, emptyToken, Job.callsBefore]
    · rw [if_neg htoken]
      by_cases hnop : nopMode
      · rw [if_pos hnop, outcomes_cons, ih n]
        simp [Event.outcome?, htoken, hnop]
      · rw [if_neg hnop, outcomes_cons, outcomes_cons, ih (n + 1)]
        simp only [Nat.add_right_comm n 1, Nat.add_assoc n]
        simp [Event.outcome?, htoken, hnop, Job.callsBefore]

theorem calls_sendingCourse (nopMode : Bool) (verdict : Nat → Verdict) (n : Nat)
    (l : List String) :
    calls (sendingCourse nopMode verdict n l) =
      if nopMode then [] else l.filter (· ≠ "") := by
  induction l generalizing n with
  | nil => cases nopMode <;> rfl
  | cons token rest ih =>
    rw [sendingCourse]
    by_cases htoken : token = ""
    · subst htoken
      rw [if_pos rfl, calls_cons, ih n]
      simp [Event.calledToken?]
    · rw [if_neg htoken]
      by_cases hnop : nopMode
      · rw [if_pos hnop, calls_cons, ih n]
        simp [Event.calledToken?, hnop]
      · rw [if_neg hnop, calls_cons, calls_cons, ih (n + 1)]
        simp [Event.calledToken?, htoken, hnop]

theorem count_sendingCourse (nopMode : Bool) (verdict : Nat → Verdict) (n : Nat)
    (l : List String) : (sendingCourse nopMode verdict n l).count .converted = 0 := by
  induction l generalizing n with
  | nil => rfl
  | cons token rest ih =>
    rw [sendingCourse]
    split
    · rw [List.count_cons_of_ne (by simp), ih]
    · split
      · rw [List.count_cons_of_ne (by simp), ih]
      · rw [List.count_cons_of_ne (by simp), List.count_cons_of_ne (by simp), ih]

namespace Job

variable (job : Job R) (verdict : Nat → Verdict)

/-- The outcomes of a course. -/
theorem outcomes_course : Dispatch.outcomes (job.course verdict) = job.outcomes verdict := by
  unfold course courseFrom outcomes
  split
  · rfl
  · cases hc : job.converted with
    | error error =>
      show Dispatch.outcomes (job.devices.map (refusal error)) = _
      rw [Dispatch.outcomes, List.filterMap_map]
      exact congrFun List.filterMap_eq_map job.devices
    | ok converted =>
      cases converted with
      | ignore => rfl
      | send request =>
        show Dispatch.outcomes (sendingCourse job.nopMode verdict 0 job.devices) = _
        rw [outcomes_sendingCourse]
        simp only [Nat.zero_add]
        rfl

/-- All outcomes of a push can be reported before anybody reads one. -/
theorem length_outcomes_le : (job.outcomes verdict).length ≤ max 1 job.devices.length := by
  unfold outcomes
  split
  · exact Nat.le_max_left 1 _
  · refine Nat.le_trans ?_ (Nat.le_max_right 1 _)
    cases job.converted with
    | error error => exact Nat.le_of_eq (List.length_map _)
    | ok converted =>
      cases converted with
      | ignore => exact Nat.zero_le _
      | send request => exact Nat.le_of_eq List.length_mapIdx

/-- The calls of a course. -/
theorem calls_course : Dispatch.calls (job.course verdict) = job.calls := by
  unfold course courseFrom calls
  split
  · rename_i hd
    cases hc : job.converted with
    | error error => rfl
    | ok converted => cases converted <;> simp [Dispatch.calls, Event.calledToken?, hd]
  · cases hc : job.converted with
    | error error =>
      show Dispatch.calls (job.devices.map (refusal error)) = []
      rw [Dispatch.calls, List.filterMap_map, List.filterMap_eq_nil_iff]
      intro token _
      rfl
    | ok converted =>
      cases converted with
      | ignore => rfl
      | send request => exact calls_sendingCourse job.nopMode verdict 0 job.devices

/-- A course has one conversion, unless there are no devices. -/
theorem count_course : (job.course verdict).count .converted = job.conversions := by
  unfold course courseFrom conversions
  split
  · rfl
  · cases hc : job.converted with
    | error error =>
      rw [List.count_cons_self, List.count_eq_zero_of_not_mem]
      simp [refusal]
    | ok converted =>
      cases converted with
      | ignore => rfl
      | send request => rw [List.count_cons_self, count_sendingCourse]

end Job

/-! ## Dead tokens -/

theorem deadTokens_refusals (error : ConversionError) (l : List String) :
    deadTokens (l.map fun token => ⟨token, some (.conversion error)⟩) = [] := by
  rw [deadTokens, List.map_eq_nil_iff, List.filter_eq_nil_iff]
  intro o ho
  obtain ⟨token, -, rfl⟩ := List.mem_map.1 ho
  nofun

theorem Job.isInvalidation_outcome (job : Job R) (verdict : Nat → Verdict) (i : Nat)
    (token : String) :
    (job.outcome verdict i token).isInvalidation = (!job.nopMode && (token ≠ "" &&
      (verdict (callsBefore job.devices i)).isInvalidation)) := by
  rw [← Verdict.error?_any_invalidates]
  unfold outcome Outcome.isInvalidation
  by_cases htoken : token = ""
  · cases job.nopMode <;> simp [htoken] <;> rfl
  · cases job.nopMode <;> simp [htoken]

/-- The dead tokens among the outcomes of a push are its dead devices. -/
theorem Job.deadTokens_outcomes (job : Job R) (verdict : Nat → Verdict) :
    deadTokens (job.outcomes verdict) = job.deadDevices verdict := by
  unfold outcomes deadDevices
  split
  · rename_i hd
    rw [hd]
    cases job.converted with
    | error error => rfl
    | ok converted => cases converted <;> simp <;> rfl
  · cases job.converted with
    | error error => exact deadTokens_refusals error job.devices
    | ok converted =>
      cases converted with
      | ignore => rfl
      | send request =>
        show deadTokens (job.devices.mapIdx (job.outcome verdict)) = _
        rw [deadTokens, List.mapIdx_eq_zipIdx_map, List.filter_map, List.map_map]
        have hfilter : (Outcome.isInvalidation ∘ fun d : String × Nat =>
            job.outcome verdict d.2 d.1) = fun d => !job.nopMode && (d.1 ≠ "" &&
              (verdict (callsBefore job.devices d.2)).isInvalidation) :=
          funext fun d => job.isInvalidation_outcome verdict d.2 d.1
        have htoken : (Outcome.token ∘ fun d : String × Nat => job.outcome verdict d.2 d.1) =
            Prod.fst := rfl
        rw [hfilter, htoken]
        cases job.nopMode with
        | true => simp
        | false => rfl

end Dispatch

end Courier
