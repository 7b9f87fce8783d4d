import Courier.Project.Validation

/-!
# Projects that pass

A list of projects is checked one project after the other, each against the ids before it. What
passes has ids that differ from one another.

Results:

* `Project.validateAfter_ok_iff`: which lists pass.
-/

namespace Courier.Project

/-- Whether nothing is wrong with a project by itself. -/
def IsSound (p : Project) : Prop := p.id ≠ "" ∧ p.hasBlankKey = false ∧ p.timeoutMs ≠ some 0

/-- A list passes after certain ids if each project is sound, and no id is one of these or occurs
    twice. -/
theorem validateAfter_ok_iff (seen : List String) (projects : List Project) :
    validateAfter seen projects = .ok () ↔
      (∀ p ∈ projects, p.IsSound ∧ p.id ∉ seen) ∧ (projects.map Project.id).Nodup := by
  induction projects generalizing seen with
  | nil => simp [validateAfter]
  | cons p projects ih =>
    rw [validateAfter, List.forall_mem_cons, List.map_cons, List.nodup_cons]
    cases hcheck : p.check seen with
    | none =>
      have hp := (check_none_iff seen p).1 hcheck
      simp only [ih, List.mem_cons, not_or, List.mem_map, not_exists, not_and]
      unfold IsSound
      grind
    | some error =>
      have hp : ¬ (p.IsSound ∧ p.id ∉ seen) := by
        rintro ⟨⟨hid, hkey, htimeout⟩, hseen⟩
        rw [(check_none_iff seen p).2 ⟨hid, hseen, hkey, htimeout⟩] at hcheck
        cases hcheck
      simp [hp]

/-- The ids of projects that pass differ. -/
theorem nodup_of_validate {projects : List Project} (h : validate projects = .ok ()) :
    (projects.map Project.id).Nodup := ((validateAfter_ok_iff [] projects).1 h).2

end Courier.Project
