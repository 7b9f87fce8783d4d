import Courier.Apns.Client
import Courier.Proofs.Url.Segments

/-!
# The addresses of devices

Apple's service knows a device by the last segment of the path. A plain token has an address of its
own, from which it can be read back. Any other token has not: a dot segment is left out, and the
characters that vanish make several tokens one.

Results:

* `Apns.Client.url_identifies`: which tokens have an address that says so.
* `Apns.Client.not_url_identifies`: tokens that have none, share one, or change the path before it.
-/

namespace Courier.Apns

open Url (IsPlain)

theorem Client.path_url (c : Client) (token : String) :
    (c.url token).path = Url.push (c.endpoint.folder ++ ["3", "device"]) token := by
  have hpath : (c.endpoint.join ["3", "device"]).path = c.endpoint.folder ++ ["3", "device"] :=
    Url.path_join c.endpoint (by decide +kernel) (by decide) (by decide +kernel)
  rw [← hpath]
  rfl

/-- Whether a token has an address: three segments after the base path, the last of which reads back
    as the token. -/
def Client.Addresses (c : Client) (token : String) : Prop :=
  ∃ s, (c.url token).path = c.endpoint.folder ++ ["3", "device", s] ∧
    Utf8.decodeText? (Percent.decode s.toList) = some token

theorem Client.addresses_iff (c : Client) (token : String) :
    c.Addresses token ↔ IsPlain token := by
  have hlast : (c.endpoint.folder ++ ["3", "device"]).getLast? = some "device" := by
    rw [List.getLast?_append]
    rfl
  have hslash : c.endpoint.folder ++ ["3", "device"] ≠ [""] := by
    intro h
    rw [h] at hlast
    exact absurd hlast (by decide)
  have hpush := Url.exists_push_iff (by simp) hslash (by rw [hlast]; decide) token
  unfold Addresses
  rw [path_url]
  simpa only [List.append_assoc, List.cons_append, List.nil_append] using hpush

theorem Client.url_inj (c : Client) {token other : String} (htoken : IsPlain token)
    (hother : IsPlain other) (h : (c.url token).target = (c.url other).target) :
    token = other := by
  obtain ⟨s, hs, hread⟩ := (c.addresses_iff token).2 htoken
  obtain ⟨s', hs', hread'⟩ := (c.addresses_iff other).2 hother
  have hurl : c.url token =
      { c.endpoint with path := (c.endpoint.folder ++ ["3", "device"]) ++ [s] } := by
    rw [List.append_assoc]
    exact congrArg (fun path => { c.endpoint with path := path }) hs
  have hurl' : c.url other =
      { c.endpoint with path := (c.endpoint.folder ++ ["3", "device"]) ++ [s'] } := by
    rw [List.append_assoc]
    exact congrArg (fun path => { c.endpoint with path := path }) hs'
  rw [hurl, hurl'] at h
  rw [Url.target_inj (by simp) h, hread'] at hread
  exact (Option.some.inj hread).symm

/-- The URL for a device differs from the base URL in its path only. Exactly the plain tokens have
    an address there, and no two of them share a target. -/
theorem Client.url_identifies (c : Client) :
    (∀ token, { c.url token with path := c.endpoint.path } = c.endpoint ∧
      (c.Addresses token ↔ IsPlain token)) ∧
    Function.Injective fun token : { token // IsPlain token } => (c.url token).target :=
  ⟨fun token => ⟨rfl, c.addresses_iff token⟩,
    fun token other h => Subtype.ext (c.url_inj token.2 other.2 h)⟩

/-- A dot has no address, a tab makes two tokens share one, and dots with a tab between them take
    away a segment before it. -/
theorem Client.not_url_identifies :
    let c : Client := ⟨⟨true, "", "push.example", none, [""], none, none⟩, 1, {}⟩
    (c.url ".").path = ["3", "device"] ∧ ¬ c.Addresses "." ∧
      (c.url "a\tb").render = (c.url "ab").render ∧ (c.url ".\t.").path = ["3", ""] := by
  intro c
  refine ⟨by decide +kernel, ?_, by decide +kernel, by decide +kernel⟩
  rw [c.addresses_iff]
  decide

end Courier.Apns
