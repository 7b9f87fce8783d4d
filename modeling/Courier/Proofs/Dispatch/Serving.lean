import Courier.Proofs.Dispatch.Ahead
import Courier.Router.Basic

/-!
# Serving a push from start to end

`Dispatch.serve` runs one push to its end and asks the push network as it goes. What it does is the
course of the push, with the answers that the push network gave.

Results:

* `serve_course`: what serving a push does, if nobody cancels it.
* `worker_outcomes`: what a worker reports.
-/

namespace Courier.Dispatch

variable {R σ : Type} {deliver : R → String → σ → Verdict × σ} {verdict : Nat → Verdict}

/-- The answers to the calls for some devices, in order. -/
def answers (deliver : R → String → σ → Verdict × σ) (request : R) : List String → σ → List Verdict
  | [], _ => []
  | token :: rest, s =>
    if token = "" then answers deliver request rest s
    else (deliver request token s).1 :: answers deliver request rest (deliver request token s).2

/-- The answers to the calls of a push. -/
def Job.answers (job : Job R) (deliver : R → String → σ → Verdict × σ) (s : σ) : List Verdict :=
  match job.converted with
  | .ok (.send request) =>
    if job.nopMode then [] else Dispatch.answers deliver request job.devices s
  | _ => []

theorem essential_reported (outcome : Outcome) (l : List Event) :
    essential (.reported outcome :: l) = .reported outcome :: essential l := rfl

theorem sendAll_course_nop (verdict : Nat → Verdict) (request : R) (l : List String) (n : Nat)
    (s : σ) :
    essential (sendAll (fun _ => false) deliver true request l s).1 =
      sendingCourse true verdict n l := by
  induction l with
  | nil => rfl
  | cons token rest ih =>
    simp only [sendAll, sendingCourse, Bool.false_eq_true, if_false, if_true]
    split
    · rw [← ih, ← essential_reported]
    · rw [← ih, ← essential_reported]

theorem sendAll_course (hstands : ∀ k, (verdict k).Stands) (request : R) (l : List String)
    (n : Nat) (s : σ) (h : AnsweredBy verdict false n (answers deliver request l s)) :
    essential (sendAll (fun _ => false) deliver false request l s).1 =
        sendingCourse false verdict n l ∧
      (sendAll (fun _ => false) deliver false request l s).2.1 = true := by
  induction l generalizing n s with
  | nil => exact ⟨rfl, rfl⟩
  | cons token rest ih =>
    simp only [sendAll, sendingCourse, Bool.false_eq_true, if_false]
    by_cases htoken : token = ""
    · rw [answers, if_pos htoken] at h
      obtain ⟨hcourse, hended⟩ := ih n s h
      rw [if_pos htoken, if_pos htoken, ← hcourse]
      exact ⟨rfl, hended⟩
    · rw [answers, if_neg htoken] at h
      -- The answer stands, so the push goes on after it.
      replace h : AnsweredBy verdict false n ((some (deliver request token s).1).toList ++ _) := h
      obtain ⟨hcourse, hended⟩ := ih (n + 1) (deliver request token s).2 h.tail
      have hanswer : (deliver request token s).1 = verdict n :=
        (h.head _ rfl).resolve_right fun hcut => Bool.false_ne_true hcut.2
      obtain ⟨hgoes, hevents⟩ := verdictEvents_of_stands token (hanswer ▸ hstands n)
      rw [if_neg htoken, if_neg htoken, if_pos hgoes, ← hcourse, ← hanswer]
      refine ⟨?_, hended⟩
      show .called token :: essential (_ ++ _) = _
      rw [essential_append, hevents]
      rfl

theorem refuse_course (error : ConversionError) (s : σ) (l : List String) :
    essential (refuse (fun _ => false) error s l) = l.map (refusal error) := by
  induction l with
  | nil => rfl
  | cons token rest ih =>
    rw [refuse, if_neg Bool.false_ne_true, essential_reported, ih]
    rfl

/-- Serving a push that nobody cancels does its course. -/
theorem serve_course (hstands : ∀ k, (verdict k).Stands) (job : Job R) (s : σ)
    (h : AnsweredBy verdict false 0 (job.answers deliver s)) :
    essential (serve (fun _ => false) deliver job s).1 = job.course verdict := by
  rw [serve, if_neg Bool.false_ne_true]
  unfold run Job.course Job.courseFrom
  split
  · rfl
  · cases hc : job.converted with
    | error error =>
      show .converted :: essential (_ ++ _) = _
      rw [essential_append, refuse_course]
      simp [essential, Event.isEssential]
    | ok converted =>
      cases converted with
      | ignore => rfl
      | send request =>
        show .converted :: essential (_ ++ if _ then _ else _) = _
        cases hnop : job.nopMode with
        | true =>
          rw [essential_append, sendAll_course_nop verdict request job.devices 0 s]
          split <;> simp [essential, Event.isEssential]
        | false =>
          simp only [Job.answers, hc, hnop, Bool.false_eq_true, if_false] at h
          obtain ⟨hcourse, hended⟩ := sendAll_course hstands request job.devices 0 s h
          rw [essential_append, hcourse, if_pos hended]
          simp [essential, Event.isEssential]

/-- What a worker reports for a push that nobody cancels. -/
theorem worker_outcomes (hstands : ∀ k, (verdict k).Stands) (network : Network)
    (convert : Notification → Except ConversionError (Converted R)) (nopMode : Bool)
    (devices : List String) (n : Notification) (s : σ)
    (h : AnsweredBy verdict false 0 (Job.answers ⟨devices, convert n, nopMode⟩ deliver s)) :
    outcomes ((worker network convert deliver nopMode fun _ => false).serve devices n s).1 =
      Job.outcomes ⟨devices, convert n, nopMode⟩ verdict := by
  rw [← Job.outcomes_course, ← serve_course hstands _ s h, outcomes_essential]
  rfl

end Courier.Dispatch
