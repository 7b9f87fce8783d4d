import Courier.Proofs.Project.Validation
import Mathlib.Data.List.Induction

/-!
# The first fault of a list of projects

A project is judged by itself and by the projects before it in the list. A list is refused because
of its first project that is at fault, and of the faults of that project the first in a fixed order
is told. Whether a list passes does not depend on the order of its projects.

Results:

* `Project.check_eq_some_iff`: which fault of a project is told.
* `Project.validate_ok_iff`, `Project.validate_error_iff`: which lists pass, and what the others are
  refused for.
* `Project.validate_append`: what comes after a fault does not matter.
* `Project.validate_judges`: how lists of projects are judged.
-/

namespace Courier

/-- The place of an error in the order in which a project is checked. -/
def ValidationError.rank : ValidationError → Nat
  | .emptyProjectId => 0
  | .duplicateProjectId _ => 1
  | .emptyServerKey _ => 2
  | .zeroTimeout _ => 3

namespace Project

/-! ## Faults of one project -/

/-- Whether a project has a server key in which every character is blank. -/
def BlankKey (p : Project) : Prop :=
  ∃ key, p.credentials = .gcm key ∧ ∀ c ∈ key.toList, Text.isBlank c = true

/-- What is wrong with a project that comes after others. -/
inductive Violates (earlier : List Project) (p : Project) : ValidationError → Prop
  | emptyProjectId (h : p.id = "") : Violates earlier p .emptyProjectId
  | duplicateProjectId (h : ∃ q ∈ earlier, q.id = p.id) :
    Violates earlier p (.duplicateProjectId p.id)
  | emptyServerKey (h : p.BlankKey) : Violates earlier p (.emptyServerKey p.id)
  | zeroTimeout (h : p.timeoutMs = some 0) : Violates earlier p (.zeroTimeout p.id)

/-- The first thing that is wrong with a project that comes after others. -/
structure FirstFault (earlier : List Project) (p : Project) (e : ValidationError) : Prop where
  violates : Violates earlier p e
  first : ∀ e', Violates earlier p e' → e.rank ≤ e'.rank

/-- Whether nothing is wrong with any project of a list after those before it. -/
def Faultless (projects : List Project) : Prop :=
  ∀ before p after, projects = before ++ p :: after → ∀ e, ¬ Violates before p e

theorem hasBlankKey_iff (p : Project) : p.hasBlankKey = true ↔ p.BlankKey := by
  unfold hasBlankKey BlankKey
  cases p.credentials <;> simp [Text.allBlank]

theorem Violates.eq_of_rank_eq {earlier : List Project} {p : Project} {e e' : ValidationError}
    (h : Violates earlier p e) (h' : Violates earlier p e') (hrank : e.rank = e'.rank) :
    e = e' := by
  cases h <;> cases h' <;> cases hrank <;> rfl

theorem FirstFault.unique {earlier : List Project} {p : Project} {e e' : ValidationError}
    (h : FirstFault earlier p e) (h' : FirstFault earlier p e') : e = e' :=
  h.violates.eq_of_rank_eq h'.violates
    (Nat.le_antisymm (h.first e' h'.violates) (h'.first e h.violates))

section Check

variable {seen : List String} {earlier : List Project} {p : Project} {e : ValidationError}

theorem firstFault_of_check (hseen : ∀ id, id ∈ seen ↔ ∃ q ∈ earlier, q.id = id)
    (h : p.check seen = some e) : FirstFault earlier p e := by
  unfold check at h
  split at h
  · cases h
    exact ⟨.emptyProjectId ‹_›, fun _ _ => Nat.zero_le _⟩
  rename_i hid
  split at h
  · rename_i hdup
    cases h
    refine ⟨.duplicateProjectId ((hseen p.id).mp hdup), fun e' he' => ?_⟩
    cases he' with
    | emptyProjectId h => exact absurd h hid
    | _ => simp [ValidationError.rank]
  rename_i hdup
  rw [hseen] at hdup
  split at h
  · rename_i hkey
    cases h
    refine ⟨.emptyServerKey (p.hasBlankKey_iff.mp hkey), fun e' he' => ?_⟩
    cases he' with
    | emptyProjectId h => exact absurd h hid
    | duplicateProjectId h => exact absurd h hdup
    | _ => simp [ValidationError.rank]
  rename_i hkey
  split at h
  · cases h
    refine ⟨.zeroTimeout ‹_›, fun e' he' => ?_⟩
    cases he' with
    | emptyProjectId h => exact absurd h hid
    | duplicateProjectId h => exact absurd h hdup
    | emptyServerKey h => exact absurd (p.hasBlankKey_iff.mpr h) hkey
    | zeroTimeout h => exact Nat.le_refl _
  · cases h

theorem check_ne_none_of_violates (hseen : ∀ id, id ∈ seen ↔ ∃ q ∈ earlier, q.id = id)
    (h : Violates earlier p e) : p.check seen ≠ none := by
  intro hnone
  obtain ⟨hid, hnew, hkey, htimeout⟩ := (check_none_iff seen p).mp hnone
  cases h with
  | emptyProjectId h => exact hid h
  | duplicateProjectId h => exact hnew ((hseen p.id).mpr h)
  | emptyServerKey h => simp [p.hasBlankKey_iff.mpr h] at hkey
  | zeroTimeout h => exact htimeout h

/-- Which fault of a project is told. -/
theorem check_eq_some_iff (hseen : ∀ id, id ∈ seen ↔ ∃ q ∈ earlier, q.id = id) :
    p.check seen = some e ↔ FirstFault earlier p e := by
  constructor
  · exact firstFault_of_check hseen
  · intro h
    obtain ⟨e', he'⟩ := Option.ne_none_iff_exists'.mp (check_ne_none_of_violates hseen h.violates)
    rw [he', (firstFault_of_check hseen he').unique h]

end Check

/-! ## Faults of a list -/

/-- A list is judged one part after the other. -/
theorem validateAfter_append (seen : List String) (before after : List Project) :
    validateAfter seen (before ++ after) =
      validateAfter seen before >>= fun _ =>
        validateAfter ((before.map Project.id).reverse ++ seen) after := by
  induction before generalizing seen with
  | nil => rfl
  | cons p before ih =>
    rw [List.cons_append, validateAfter, validateAfter]
    cases p.check seen with
    | some e => rfl
    | none =>
      rw [List.map_cons, List.reverse_cons, List.append_assoc]
      exact ih (p.id :: seen)

theorem mem_ids_iff (earlier : List Project) (id : String) :
    id ∈ (earlier.map Project.id).reverse ↔ ∃ q ∈ earlier, q.id = id := by
  rw [List.mem_reverse, List.mem_map]

/-- What comes after a fault does not matter. -/
theorem validate_append {before : List Project} {e : ValidationError}
    (h : validate before = .error e) (after : List Project) :
    validate (before ++ after) = .error e := by
  rw [validate, validateAfter_append, ← validate, h]
  rfl

/-- What comes after projects that pass is judged after them. -/
theorem validate_append_of_ok {before : List Project} (h : validate before = .ok ())
    (after : List Project) :
    validate (before ++ after) = validateAfter (before.map Project.id).reverse after := by
  rw [validate, validateAfter_append, ← validate, h, List.append_nil]
  rfl

theorem validate_of_firstFault {before : List Project} {p : Project} {e : ValidationError}
    (h : validate before = .ok ()) (hfault : FirstFault before p e) (after : List Project) :
    validate (before ++ p :: after) = .error e := by
  rw [validate_append_of_ok h, validateAfter,
    (check_eq_some_iff (mem_ids_iff before)).mpr hfault]

/-- A list that is refused has a project at fault after projects that pass. -/
theorem exists_firstFault {projects : List Project} {e : ValidationError}
    (h : validate projects = .error e) :
    ∃ before p after, projects = before ++ p :: after ∧ validate before = .ok () ∧
      FirstFault before p e := by
  induction projects using List.reverseRecOn with
  | nil => cases h
  | append_singleton l p ih =>
    cases hl : validate l with
    | error e' =>
      rw [validate_append hl] at h
      cases h
      obtain ⟨before, q, after, rfl, hbefore, hfault⟩ := ih hl
      exact ⟨before, q, after ++ [p], by simp, hbefore, hfault⟩
    | ok =>
      rw [validate_append_of_ok hl, validateAfter] at h
      cases hcheck : p.check (l.map Project.id).reverse with
      | some e' =>
        rw [hcheck] at h
        cases h
        exact ⟨l, p, [], rfl, hl, (check_eq_some_iff (mem_ids_iff l)).mp hcheck⟩
      | none =>
        rw [hcheck] at h
        cases h

/-- The lists that pass are those in which nothing is wrong with any project. -/
theorem validate_eq_ok_iff_faultless (projects : List Project) :
    validate projects = .ok () ↔ Faultless projects := by
  constructor
  · rintro h before p after rfl e hviolates
    cases hbefore : validate before with
    | error e' =>
      rw [validate_append hbefore] at h
      cases h
    | ok =>
      obtain ⟨e', he'⟩ := Option.ne_none_iff_exists'.mp
        (check_ne_none_of_violates (mem_ids_iff before) hviolates)
      rw [validate_append_of_ok hbefore, validateAfter, he'] at h
      cases h
  · intro h
    cases hvalidate : validate projects with
    | ok => rfl
    | error e =>
      obtain ⟨before, p, after, hprojects, -, hfault⟩ := exists_firstFault hvalidate
      exact absurd hfault.violates (h before p after hprojects e)

/-- What a list is refused for: the first fault of its first project that is at fault. -/
theorem validate_error_iff (projects : List Project) (e : ValidationError) :
    validate projects = .error e ↔ ∃ before p after, projects = before ++ p :: after ∧
      Faultless before ∧ FirstFault before p e := by
  constructor
  · intro h
    obtain ⟨before, p, after, hprojects, hbefore, hfault⟩ := exists_firstFault h
    exact ⟨before, p, after, hprojects, (validate_eq_ok_iff_faultless before).mp hbefore, hfault⟩
  · rintro ⟨before, p, after, rfl, hbefore, hfault⟩
    exact validate_of_firstFault ((validate_eq_ok_iff_faultless before).mpr hbefore) hfault after

/-- Which lists pass. -/
theorem validate_ok_iff (projects : List Project) :
    validate projects = .ok () ↔
      (∀ p ∈ projects, p.id ≠ "" ∧ ¬ p.BlankKey ∧ p.timeoutMs ≠ some 0) ∧
        (projects.map Project.id).Nodup := by
  rw [validate, validateAfter_ok_iff]
  simp only [IsSound, ← Bool.not_eq_true, hasBlankKey_iff, List.not_mem_nil, not_false_iff,
    and_true]

/-! ## Lists -/

/-- How a list of projects is judged. -/
structure Judges (projects : List Project) : Prop where
  /-- It passes if its projects are in order by themselves and have different ids. -/
  passes : validate projects = .ok () ↔
    (∀ p ∈ projects, p.id ≠ "" ∧ ¬ p.BlankKey ∧ p.timeoutMs ≠ some 0) ∧
      (projects.map Project.id).Nodup
  /-- It is refused for the first fault of its first project that is at fault. -/
  refused : ∀ e, validate projects = .error e ↔ ∃ before p after,
    projects = before ++ p :: after ∧ Faultless before ∧ FirstFault before p e
  /-- In any order it passes or does not. -/
  reordered : ∀ others, projects.Perm others →
    (validate projects = .ok () ↔ validate others = .ok ())
  /-- With some projects left out it still passes. -/
  thinned : ∀ others, others.Sublist projects → validate projects = .ok () →
    validate others = .ok ()
  /-- With more projects at its end it is refused for the same. -/
  extended : ∀ more e, validate projects = .error e → validate (projects ++ more) = .error e

/-- Every list of projects passes exactly if it is in order, and is refused for its first fault
    otherwise. -/
theorem validate_judges (projects : List Project) : Judges projects := by
  constructor
  case passes => exact validate_ok_iff projects
  case refused => exact validate_error_iff projects
  case reordered =>
    intro others hperm
    simp only [validate_ok_iff, hperm.mem_iff, (hperm.map Project.id).nodup_iff]
  case thinned =>
    intro others hsub h
    rw [validate_ok_iff] at h ⊢
    exact ⟨fun p hp => h.1 p (hsub.subset hp), h.2.sublist (hsub.map Project.id)⟩
  case extended => exact fun more e h => validate_append h more

example :
    validate [{ id := "chat", credentials := .gcm "key" },
      { id := "chat", credentials := .gcm " ", timeoutMs := some 0 },
      { id := "", credentials := .fcm "account.json" }] = .error (.duplicateProjectId "chat") := by
  rfl

end Project

end Courier
