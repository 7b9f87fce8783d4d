import Courier.Proofs.Delivery.Apns
import Courier.Proofs.Delivery.Fcm
import Courier.Proofs.Delivery.Gcm
import Courier.Proofs.Text.Cut

/-!
# Excerpts of replies

A reply that a service should read and cannot is quoted in the error, by the start of its body. The
body is cut by bytes and shown by characters.

Results:

* `Service.Reads.quotes`, `Apns.quotes`: which replies are quoted.
* `excerpt_shown`: what an excerpt shows of a body, for every reply that is quoted.
-/

namespace Courier

open Http (Attempt Reply Status excerpt)
open Utf8 (IsFitting Parts)

/-! ## Replies that are quoted -/

/-- Whether a service quotes exactly the replies of a certain kind, each with its status and an
    excerpt of its body. -/
def Quotes {α : Type} (decode : Reply → Attempt α) (unreadable : Reply → Prop) : Prop :=
  ∀ reply status shown, decode reply = .failed (.invalidResponse status shown) ↔
    unreadable reply ∧ status = reply.status ∧ shown = excerpt reply.body

/-- A service that reads the bodies of some replies quotes those that it cannot read. -/
theorem Service.Reads.quotes {α : Type} {v : Service α} {statuses : List Nat}
    {read : Status → List UInt8 → Option α} {blank : Status → α}
    (h : v.Reads statuses read blank) :
    Quotes v.decode fun reply =>
      reply.status.code ∈ statuses ∧ read reply.status reply.body = none := by
  intro reply status shown
  rw [h.decode_eq]
  by_cases hmem : reply.status.code ∈ statuses
  · simp only [hmem, if_true, true_and]
    cases read reply.status reply.body with
    | some a => simp
    | none => simp [eq_comm]
  · simp [hmem]

namespace Apns

/-- A failure is quoted that must say why and does not. -/
theorem quotes :
    Quotes decode fun reply =>
      reply.status.code ∈ explained ∧ Failure.ofBytes? reply.body = none := by
  intro reply status shown
  unfold decode
  split
  · rename_i hok
    simp [hok, Status.ok, explained]
  · by_cases hmem : reply.status.code ∈ explained
    · simp only [hmem, if_true, true_and]
      cases Failure.ofBytes? reply.body with
      | some f => simp
      | none => simp [eq_comm]
    · simp only [hmem, if_false, false_and, iff_false]
      split <;> simp

end Apns

/-! ## What an excerpt shows -/

/-- How a body is shown by its first 2000 bytes. -/
structure ShownAs (body : List UInt8) (shown : String) : Prop where
  /-- They are shown part by part, with one mark for each maximal invalid part. -/
  parts : ∃ parts, Parts (body.take 2000) parts ∧ shown.toList = parts.map (·.getD '\uFFFD')
  /-- Nothing else of the body matters. -/
  start : ∀ other : List UInt8, other.take 2000 = body.take 2000 → excerpt other = shown
  /-- A text that has no more of them is shown as it is. -/
  short : ∀ text, body = Utf8.encode text → body.length ≤ 2000 → shown = text
  /-- Of a longer text the characters are shown that fit, and a mark if another one is cut. -/
  long : ∀ text, body = Utf8.encode text → 2000 < body.length →
    ∃ whole, IsFitting 2000 text whole ∧
      shown = whole ++ if (⟨2000⟩ : String.Pos.Raw).IsValid text then "" else "\uFFFD"
  /-- There are no more characters than bytes. -/
  length_le : shown.length ≤ 2000

theorem shownAs_excerpt (body : List UInt8) : ShownAs body (excerpt body) where
  parts := ⟨_, Utf8.decode_eq_iff.mp rfl, String.toList_ofList⟩
  start := fun other h => congrArg Utf8.lossy h
  short := by
    rintro text rfl hlength
    show Utf8.lossy ((Utf8.encode text).take 2000) = text
    rw [List.take_of_length_le hlength, Utf8.lossy_encode]
  long := by
    rintro text rfl hlength
    exact Utf8.lossy_take_encode hlength
  length_le := by
    have hparts := (Utf8.parts_decode (body.take 2000)).length_le
    rw [List.length_take] at hparts
    show (String.ofList _).length ≤ 2000
    rw [String.length_ofList, List.length_map]
    exact Nat.le_trans hparts (Nat.min_le_left ..)

/-- Every reply that a service should read and cannot is quoted with its status and an excerpt of
    its body, and no other reply is. The excerpt is read off the first 2000 bytes, whatever they
    are: it is all of a text that is short enough, and of a longer one the characters that fit. -/
theorem excerpt_shown :
    (∀ body, ShownAs body (excerpt body)) ∧
    Quotes Apns.decode (fun reply =>
      reply.status.code ∈ Apns.explained ∧ Apns.Failure.ofBytes? reply.body = none) ∧
    Quotes Fcm.decode (fun reply =>
      reply.status.code ∈ Fcm.readStatuses ∧
        Fcm.Response.ofBytes? reply.status reply.body = none) ∧
    Quotes Gcm.decode (fun reply =>
      reply.status.code ∈ Gcm.readStatuses ∧
        Gcm.Response.ofBytes? reply.status reply.body = none) :=
  ⟨shownAs_excerpt, Apns.quotes, Fcm.service_reads.quotes, Gcm.service_reads.quotes⟩

end Courier
