/-!
# Steps that can fail

Results:

* `bind_eq_ok_iff`, `bind_eq_error_iff`: how two steps one after the other end.
* `exists_foldlM_ok_iff`: a loop gets through exactly if each of its steps can.
* `FailsOnly.bind`, `FailsOnly.foldlM`: what steps and loops fail with, if it is known of each step.
-/

namespace Courier

variable {ε ε' α β : Type} {x : Except ε α} {f : α → Except ε β}

theorem bind_eq_ok_iff {b : β} : x >>= f = .ok b ↔ ∃ a, x = .ok a ∧ f a = .ok b := by
  cases x with
  | error e =>
    constructor
    · intro h
      cases h
    · rintro ⟨_, ⟨⟩, _⟩
  | ok a =>
    constructor
    · intro h
      exact ⟨a, rfl, h⟩
    · rintro ⟨_, ⟨⟩, h⟩
      exact h

theorem bind_eq_error_iff {e : ε} :
    x >>= f = .error e ↔ x = .error e ∨ ∃ a, x = .ok a ∧ f a = .error e := by
  cases x with
  | error _ =>
    constructor
    · intro h
      cases h
      exact .inl rfl
    · rintro (⟨⟨⟩⟩ | ⟨_, ⟨⟩, _⟩)
      rfl
  | ok a =>
    constructor
    · intro h
      exact .inr ⟨a, rfl, h⟩
    · rintro (⟨⟨⟩⟩ | ⟨_, ⟨⟩, h⟩)
      exact h

theorem mapError_eq_ok_iff {g : ε → ε'} {a : α} : x.mapError g = .ok a ↔ x = .ok a := by
  cases x with
  | error e =>
    constructor
    · rintro ⟨⟩
    · rintro ⟨⟩
  | ok b =>
    constructor
    · rintro ⟨⟩
      rfl
    · rintro ⟨⟩
      rfl

/-- A loop whose steps fail or not whatever went before gets through exactly if no step fails. -/
theorem exists_foldlM_ok_iff {step : β → α → Except ε β} {P : α → Prop}
    (h : ∀ b a, (∃ b', step b a = .ok b') ↔ P a) (l : List α) (b : β) :
    (∃ b', l.foldlM step b = .ok b') ↔ ∀ a ∈ l, P a := by
  induction l generalizing b with
  | nil => exact ⟨fun _ _ ha => absurd ha List.not_mem_nil, fun _ => ⟨b, rfl⟩⟩
  | cons a l ih =>
    rw [List.forall_mem_cons, ← h b a, List.foldlM_cons]
    simp only [bind_eq_ok_iff]
    constructor
    · rintro ⟨b', next, ha, hl⟩
      exact ⟨⟨next, ha⟩, (ih next).1 ⟨b', hl⟩⟩
    · rintro ⟨⟨next, ha⟩, hl⟩
      obtain ⟨b', hl⟩ := (ih next).2 hl
      exact ⟨b', next, ha, hl⟩

/-- Whether a step fails with certain errors only. -/
def FailsOnly (P : ε → Prop) (x : Except ε α) : Prop := ∀ e, x = .error e → P e

namespace FailsOnly

variable {P : ε → Prop}

theorem ok (a : α) : FailsOnly P (.ok a : Except ε α) := by
  rintro e ⟨⟩

theorem error {e : ε} (h : P e) : FailsOnly P (.error e : Except ε α) := by
  rintro _ ⟨⟩
  exact h

theorem bind (hx : FailsOnly P x) (hf : ∀ a, FailsOnly P (f a)) : FailsOnly P (x >>= f) := by
  intro e h
  rcases bind_eq_error_iff.1 h with h | ⟨a, -, h⟩
  · exact hx e h
  · exact hf a e h

theorem foldlM {step : β → α → Except ε β} (h : ∀ b a, FailsOnly P (step b a)) (l : List α)
    (b : β) : FailsOnly P (l.foldlM step b) := by
  induction l generalizing b with
  | nil => exact ok b
  | cons a l ih =>
    rw [List.foldlM_cons]
    exact (h b a).bind ih

end FailsOnly

end Courier
