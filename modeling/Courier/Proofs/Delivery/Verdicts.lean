import Courier.Proofs.Delivery.Apns
import Courier.Proofs.Delivery.Fcm
import Courier.Proofs.Delivery.Gcm

/-!
# What a verdict says about the last reply

However the network behaves, and however often a push is attempted again, the verdict of a delivery
depends on the last result that the attempts come to. A token is called dead, and a push delivered,
exactly if the last reply says so.

Results:

* `Delivery.deliver_invalidToken_iff`: when a delivery calls a token dead, for each push service.
* `Delivery.deliver_ends`: when a delivery succeeds, and which errors it ends with otherwise.
-/

namespace Courier.Delivery

open Http (Attempt Reply Status Wire)
open OAuth (ServiceAccount Tokens)
open Retry (IsLast isLast_last last resultAt)

variable {σ : Type}

/-! ## Dead tokens -/

/-- A delivery calls a token dead exactly if the last result of its attempts is a reply that says
    so. No other reply and no failure does. -/
theorem deliver_invalidToken_iff (w : Wire σ) (token : String) (s : σ) :
    (∀ (c : Apns.Client) (r : Apns.Request),
      ∃ k, IsLast c.retries Reply.status (c.transport w r token) s k ∧
        ((∃ reason, (c.deliver w r token s).1 = .failed (.invalidToken reason)) ↔
          ∃ reply, resultAt (c.transport w r token) s k = .answered reply ∧ Apns.IsDead reply)) ∧
    (∀ (c : Fcm.Client) (t : Tokens σ) (m : Fcm.Message),
      ∃ k, IsLast c.retries Reply.status (c.transport w t { m with token := token }) s k ∧
        ((∃ reason, (c.deliver w t m token s).1 = .failed (.invalidToken reason)) ↔
          ∃ reply, resultAt (c.transport w t { m with token := token }) s k = .answered reply ∧
            Fcm.IsDead reply)) ∧
    (∀ (c : Gcm.Client) (r : Gcm.Request),
      ∃ k, IsLast c.retries Reply.status (c.transport w r token) s k ∧
        ((∃ reason, (c.deliver w r token s).1 = .failed (.invalidToken reason)) ↔
          ∃ reply, resultAt (c.transport w r token) s k = .answered reply ∧ Gcm.IsDead reply)) := by
  refine ⟨fun c r => ?_, fun c t m => ?_, fun c r => ?_⟩
  · refine ⟨_, isLast_last .., ?_⟩
    rw [c.deliver_verdict]
    exact Apns.verdict_invalidToken_iff _
  · refine ⟨_, isLast_last .., ?_⟩
    rw [c.deliver_verdict]
    exact Fcm.verdict_invalidToken_iff _
  · refine ⟨_, isLast_last .., ?_⟩
    rw [c.deliver_verdict]
    exact Gcm.verdict_invalidToken_iff _

/-! ## Successes and errors -/

/-- How a delivery ends, given the last result of its attempts and the replies that say that a push
    was accepted. `foreign` are the errors that come from a source of tokens. -/
structure Ends (verdict : Verdict) (last : Attempt Reply) (accepted : Reply → Prop)
    (foreign : SendError → Prop) : Prop where
  /-- It succeeds exactly if the last result is a reply that says so. -/
  delivered : verdict = .delivered ↔ ∃ reply, last = .answered reply ∧ accepted reply
  /-- Otherwise it ends with an error. -/
  failed : verdict ≠ .delivered → last ≠ .crashed → ∃ e, verdict = .failed e
  /-- A status in that error is the status of the last reply. -/
  status : ∀ e st, verdict = .failed e → e.status? = some st →
    (∃ reply, last = .answered reply ∧ reply.status = st) ∨
      ∃ error, foreign error ∧ last = .failed error ∧ e = .send error

theorem ends_of_service {α : Type} {v : Service α} (h : v.Faithful) {last : Attempt Reply}
    {accepted : Reply → Prop} {foreign : SendError → Prop}
    (hdelivered : v.verdict last = .delivered ↔ ∃ reply, last = .answered reply ∧ accepted reply)
    (hforeign : ∀ error, last = .failed error → error.status? = none ∨ foreign error) :
    Ends (v.verdict last) last accepted foreign where
  delivered := hdelivered
  failed := fun hne hlast => (Service.delivered_or_failed h hlast).resolve_left hne
  status := by
    intro e st he hst
    rcases Service.verdict_status h he hst with hreply | ⟨error, hlast, rfl⟩
    · exact .inl hreply
    · rcases hforeign error hlast with hnone | herror
      · cases hnone.symm.trans hst
      · exact .inr ⟨error, herror, hlast, rfl⟩

/-- A delivery succeeds exactly if the last result of its attempts is a reply that says that the
    push was accepted, and ends with an error otherwise. A status in that error is the one of the
    last reply; only a source of tokens that is not a service account might bring in another one. -/
theorem deliver_ends (w : Wire σ) (token : String) (s : σ) :
    (∀ (c : Apns.Client) (r : Apns.Request),
      ∃ k, IsLast c.retries Reply.status (c.transport w r token) s k ∧
        resultAt (c.transport w r token) s k ≠ .crashed ∧
        Ends (c.deliver w r token s).1 (resultAt (c.transport w r token) s k)
          (fun reply => reply.status.code = 200) fun _ => False) ∧
    (∀ (c : Fcm.Client) (t : Tokens σ) (m : Fcm.Message),
      ∃ k, IsLast c.retries Reply.status (c.transport w t { m with token := token }) s k ∧
        Ends (c.deliver w t m token s).1 (resultAt (c.transport w t { m with token := token }) s k)
          Fcm.IsAccepted fun error => ∃ s', (t.fetch s').1 = .failed error) ∧
    (∀ (c : Fcm.Client) (account : ServiceAccount) (t : Tokens σ) (m : Fcm.Message),
      let t := Fcm.accountTokens account w t
      ∃ k, IsLast c.retries Reply.status (c.transport w t { m with token := token }) s k ∧
        Ends (c.deliver w t m token s).1 (resultAt (c.transport w t { m with token := token }) s k)
          Fcm.IsAccepted fun _ => False) ∧
    (∀ (c : Gcm.Client) (r : Gcm.Request),
      ∃ k, IsLast c.retries Reply.status (c.transport w r token) s k ∧
        resultAt (c.transport w r token) s k ≠ .crashed ∧
        Ends (c.deliver w r token s).1 (resultAt (c.transport w r token) s k)
          Gcm.IsAccepted fun _ => False) := by
  refine ⟨fun c r => ?_, fun c t m => ?_, fun c account t m => ?_, fun c r => ?_⟩
  · refine ⟨_, isLast_last .., w.exchange_ne_crashed _ _, ?_⟩
    rw [c.deliver_verdict]
    refine ends_of_service Apns.service_faithful (Apns.verdict_delivered_iff _) ?_
    exact fun error hlast => .inl (Wire.status_of_exchange_failed hlast)
  · refine ⟨_, isLast_last .., ?_⟩
    rw [c.deliver_verdict]
    refine ends_of_service Fcm.service_reads.faithful (Fcm.verdict_delivered_iff _) ?_
    exact fun error hlast => (Fcm.Client.transport_failed hlast).imp_right fun h => ⟨_, h⟩
  · refine ⟨_, isLast_last .., ?_⟩
    rw [c.deliver_verdict]
    refine ends_of_service Fcm.service_reads.faithful (Fcm.verdict_delivered_iff _) ?_
    intro error hlast
    rcases Fcm.Client.transport_failed hlast with hnone | hfetch
    · exact .inl hnone
    · exact .inl (Fcm.status_of_fetch_failed hfetch)
  · refine ⟨_, isLast_last .., w.exchange_ne_crashed _ _, ?_⟩
    rw [c.deliver_verdict]
    refine ends_of_service Gcm.service_reads.faithful (Gcm.verdict_delivered_iff _) ?_
    exact fun error hlast => .inl (Wire.status_of_exchange_failed hlast)

end Courier.Delivery
