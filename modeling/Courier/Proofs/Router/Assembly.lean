import Courier.Proofs.Project.Faults
import Courier.Proofs.Project.Validation
import Mathlib.Data.List.Induction

/-!
# Who is served

A router is assembled from a list one entry after the other. Every entry goes to one place: among
the workers if it can be built and its project is not served yet, and among the failures otherwise.
Where it goes is determined by the entries before it, and only by those of the same project.

Results:

* `Router.exists_ofList`, `Router.ofList_error_iff`: which workers make a router, and what the
  others are refused for.
* `Assembly.Holds.add`, `Assembly.Holds.foldlM_add`: what an assembly holds after one more entry,
  and after all of them.
* `Assembly.mem_places_iff`: a project is served by its first entry that can be built.
* `Assembly.filter_places`: where entries go does not depend on other projects.
* `Assembly.ofList_serves`: who is served, and what the others are refused for.
-/

namespace Courier

/-! ## Workers that are there -/

namespace Router

variable {ω : Type} {l before : List (String × ω)}

theorem ofList_concat (l : List (String × ω)) (e : String × ω) :
    ofList (l ++ [e]) = ofList l >>= fun r => r.add e := by
  rw [ofList, List.foldlM_append, ofList]
  congr 1
  funext r
  exact bind_pure (r.add e)

/-- Workers for different projects make a router. -/
theorem exists_ofList (h : (l.map (·.1)).Nodup) :
    ∃ r, ofList l = .ok r ∧ r.workers.entries.Perm l := by
  induction l using List.reverseRecOn with
  | nil => exact ⟨_, rfl, .refl _⟩
  | append_singleton l e ih =>
    rw [List.map_append, List.map_singleton, List.nodup_append] at h
    obtain ⟨hl, -, hdisjoint⟩ := h
    obtain ⟨r, hr, hperm⟩ := ih hl
    have hnew : e.1 ∉ l.map (·.1) := fun hmem => hdisjoint _ hmem _ List.mem_cons_self rfl
    refine ⟨⟨r.workers.insert e.1 e.2⟩, ?_, Dict.insert_perm_concat hperm hnew e.2⟩
    rw [ofList_concat, hr]
    exact if_neg fun hc => hnew ((Dict.contains_iff_of_perm hperm e.1).1 hc)

/-- The first worker for a project that has one already is refused. -/
theorem ofList_repeated (h : (before.map (·.1)).Nodup) {e : String × ω}
    (he : e.1 ∈ before.map (·.1)) (after : List (String × ω)) :
    ofList (before ++ e :: after) = .error (.duplicateProject e.1) := by
  obtain ⟨r, hr, hperm⟩ := exists_ofList h
  have hadd : r.add e = .error (.duplicateProject e.1) :=
    if_pos ((Dict.contains_iff_of_perm hperm e.1).2 he)
  rw [ofList, List.foldlM_append, ← ofList, hr]
  show List.foldlM add r (e :: after) = _
  rw [List.foldlM_cons, hadd]
  rfl

theorem exists_repeated (h : ¬ (l.map (·.1)).Nodup) :
    ∃ before e after, l = before ++ e :: after ∧ (before.map (·.1)).Nodup ∧
      e.1 ∈ before.map (·.1) := by
  induction l using List.reverseRecOn with
  | nil => exact absurd .nil h
  | append_singleton l e ih =>
    by_cases hl : (l.map (·.1)).Nodup
    · refine ⟨l, e, [], rfl, hl, ?_⟩
      by_contra hnew
      apply h
      rw [List.map_append, List.map_singleton, List.nodup_append]
      refine ⟨hl, List.pairwise_singleton _ _, ?_⟩
      rintro a ha b hb rfl
      exact hnew (List.mem_singleton.1 hb ▸ ha)
    · obtain ⟨before, first, after, rfl, hbefore, hfirst⟩ := ih hl
      exact ⟨before, first, after ++ [e], by simp, hbefore, hfirst⟩

/-- Workers are refused exactly if two are for one project, because of the first that comes after
    another one for its project. -/
theorem ofList_error_iff (l : List (String × ω)) (error : ConstructionError) :
    ofList l = .error error ↔ ∃ before e after, l = before ++ e :: after ∧
      (before.map (·.1)).Nodup ∧ e.1 ∈ before.map (·.1) ∧ error = .duplicateProject e.1 := by
  constructor
  · intro herror
    have hrepeated : ¬ (l.map (·.1)).Nodup := by
      intro h
      obtain ⟨r, hr, -⟩ := exists_ofList h
      rw [hr] at herror
      cases herror
    obtain ⟨before, e, after, rfl, hbefore, he⟩ := exists_repeated hrepeated
    rw [ofList_repeated hbefore he] at herror
    cases herror
    exact ⟨before, e, after, rfl, hbefore, he, rfl⟩
  · rintro ⟨before, e, after, rfl, hbefore, he, rfl⟩
    exact ofList_repeated hbefore he after

theorem exists_ofList_iff (l : List (String × ω)) :
    (∃ r, ofList l = .ok r ∧ r.workers.entries.Perm l) ↔ (l.map (·.1)).Nodup := by
  constructor
  · rintro ⟨r, hr, -⟩
    by_contra hrepeated
    obtain ⟨before, e, after, rfl, hbefore, he⟩ := exists_repeated hrepeated
    rw [ofList_repeated hbefore he] at hr
    cases hr
  · exact exists_ofList

end Router

namespace Assembly

variable {α ω : Type}

/-! ## Places -/

/-- Where an entry goes: its project, with the worker that serves it or the reason why the entry is
    refused. -/
abbrev Place (ω : Type) := String × Except ConstructionError ω

/-- The projects that are served, with their workers. -/
def served (places : List (Place ω)) : List (String × ω) :=
  places.filterMap fun p => p.2.toOption.map (p.1, ·)

/-- The projects that are refused, with the reasons. -/
def refused (places : List (Place ω)) : List (String × ConstructionError) :=
  places.filterMap fun p => match p.2 with
    | .ok _ => none
    | .error error => some (p.1, error)

theorem mem_served_iff {places : List (Place ω)} {key : String} {worker : ω} :
    (key, worker) ∈ served places ↔ (key, .ok worker) ∈ places := by
  rw [served, List.mem_filterMap]
  constructor
  · rintro ⟨⟨other, outcome⟩, hmem, h⟩
    cases outcome with
    | ok w => cases h; exact hmem
    | error error => cases h
  · intro hmem
    exact ⟨_, hmem, rfl⟩

theorem mem_refused_iff {places : List (Place ω)} {key : String} {error : ConstructionError} :
    (key, error) ∈ refused places ↔ (key, .error error) ∈ places := by
  rw [refused, List.mem_filterMap]
  constructor
  · rintro ⟨⟨other, outcome⟩, hmem, h⟩
    cases outcome with
    | ok w => cases h
    | error e => cases h; exact hmem
  · intro hmem
    exact ⟨_, hmem, rfl⟩

/-- Every place is one of the two. -/
theorem length_served_add_length_refused (places : List (Place ω)) :
    (served places).length + (refused places).length = places.length := by
  induction places with
  | nil => rfl
  | cons p places ih =>
    obtain ⟨key, outcome⟩ := p
    cases outcome with
    | ok w =>
      show (served places).length + 1 + (refused places).length = _
      rw [List.length_cons, ← ih]
      omega
    | error e =>
      show (served places).length + ((refused places).length + 1) = _
      rw [List.length_cons, ← ih]
      omega

variable (id : α → String) (result : α → Except ConstructionError ω)

/-- Where an entry goes after others: it is a duplicate if its project is served, and otherwise it
    is what building it results in. -/
def place (before : List (Place ω)) (e : α) : Place ω :=
  (id e, if id e ∈ (served before).map (·.1) then .error (.duplicateProject (id e)) else result e)

/-- Where the entries of a list go. -/
def places (l : List α) : List (Place ω) :=
  l.foldl (fun before e => before ++ [place id result before e]) []

/-- An entry is served if it can be built and its project is not served yet. -/
theorem place_eq_ok_iff {before : List (Place ω)} {e : α} {key : String} {worker : ω} :
    place id result before e = (key, .ok worker) ↔
      id e = key ∧ (∀ w, (key, .ok w) ∉ before) ∧ result e = .ok worker := by
  have hserved : key ∉ (served before).map (·.1) ↔ ∀ w, (key, .ok w) ∉ before := by
    simp [mem_served_iff]
  rw [← hserved, place, Prod.mk.injEq]
  constructor
  · rintro ⟨rfl, h⟩
    split at h
    · cases h
    · exact ⟨rfl, ‹_›, h⟩
  · rintro ⟨rfl, hnew, h⟩
    exact ⟨rfl, by rw [if_neg hnew, h]⟩

theorem places_concat (l : List α) (e : α) :
    places id result (l ++ [e]) =
      places id result l ++ [place id result (places id result l) e] := by
  rw [places, List.foldl_append]
  rfl

theorem length_places (l : List α) : (places id result l).length = l.length := by
  induction l using List.reverseRecOn with
  | nil => rfl
  | append_singleton l e ih =>
    rw [places_concat, List.length_append, List.length_append, ih, List.length_singleton,
      List.length_singleton]

/-- The places before an entry determine its place. -/
theorem getElem?_places {l : List α} {i : Nat} {e : α} (h : l[i]? = some e) :
    (places id result l)[i]? = some (place id result ((places id result l).take i) e) := by
  induction l using List.reverseRecOn with
  | nil => cases h
  | append_singleton l last ih =>
    have hlength := length_places id result l
    rw [places_concat]
    rcases Nat.lt_or_ge i l.length with hi | hi
    · rw [List.getElem?_append_left hi] at h
      rw [List.getElem?_append_left (by omega), List.take_append_of_le_length (by omega), ih h]
    · have hi : i = l.length := by
        have := (List.getElem?_eq_some_iff.1 h).1
        rw [List.length_append, List.length_singleton] at this
        omega
      subst hi
      rw [List.getElem?_concat_length] at h
      cases h
      rw [← hlength, List.getElem?_concat_length, List.take_left]

/-! ## One entry after the other -/

/-- Whether an assembly holds what has a place: the workers of all projects that are served, and the
    refused ones in order. -/
structure Holds (a : Assembly ω) (places : List (Place ω)) : Prop where
  workers_perm : a.router.workers.entries.Perm (served places)
  failures_eq : a.failures = refused places

variable {a a' : Assembly ω} {before : List (Place ω)}

theorem holds_empty : (empty : Assembly ω).Holds [] := ⟨.refl _, rfl⟩

theorem Holds.get?_eq_some_iff (h : a.Holds before) (key : String) (worker : ω) :
    a.router.workers.get? key = some worker ↔ (key, .ok worker) ∈ before := by
  rw [Dict.get?_eq_some_iff, h.workers_perm.mem_iff, mem_served_iff]

theorem Holds.size_add (h : a.Holds before) :
    a.router.size + a.failures.length = before.length := by
  rw [← length_served_add_length_refused, ← h.workers_perm.length_eq, h.failures_eq]
  rfl

/-- A refused entry is added to the failures. -/
theorem Holds.fail (h : a.Holds before) (key : String) (error : ConstructionError) :
    (a.fail key error).Holds (before ++ [(key, .error error)]) := by
  have hserved : served (before ++ [(key, .error error)]) = served before := by
    simp [served, Except.toOption]
  constructor
  · rw [hserved]
    exact h.workers_perm
  · rw [refused, List.filterMap_append, Assembly.fail, h.failures_eq]
    rfl

/-- A new entry that can be built is added to the workers. -/
theorem Holds.insert (h : a.Holds before) {key : String} (hnew : key ∉ (served before).map (·.1))
    (worker : ω) :
    Holds { a with router := ⟨a.router.workers.insert key worker⟩ }
      (before ++ [(key, .ok worker)]) := by
  have hrefused : refused (before ++ [(key, .ok worker)]) = refused before := by
    simp [refused]
  constructor
  · rw [served, List.filterMap_append]
    exact Dict.insert_perm_concat h.workers_perm hnew worker
  · rw [hrefused]
    exact h.failures_eq

/-- What an assembly holds after one more entry. -/
theorem Holds.add (h : a.Holds before) {e : α}
    (build : Unit → Option (Except ConstructionError ω)) (hbuild : build () = some (result e)) :
    ∃ a', a.add (id e) build = some a' ∧ a'.Holds (before ++ [place id result before e]) := by
  have hcontains := Dict.contains_iff_of_perm h.workers_perm (id e)
  by_cases hserved : id e ∈ (served before).map (·.1)
  · rw [place, if_pos hserved]
    exact ⟨_, add_served (hcontains.2 hserved) build, h.fail _ _⟩
  · rw [place, if_neg hserved, Assembly.add, if_neg fun hc => hserved (hcontains.1 hc), hbuild]
    cases result e with
    | ok worker => exact ⟨_, rfl, h.insert hserved worker⟩
    | error error => exact ⟨_, rfl, h.fail _ _⟩

/-- What an assembly holds after many more entries. -/
theorem Holds.foldlM_add {build : α → Option (Except ConstructionError ω)} {l : List α}
    (h : a.Holds before) (hbuild : ∀ e ∈ l, build e = some (result e)) :
    ∃ a', l.foldlM (fun a p => a.add (id p) fun () => build p) a = some a' ∧
      a'.Holds (l.foldl (fun before e => before ++ [place id result before e]) before) := by
  induction l generalizing a before with
  | nil => exact ⟨a, rfl, h⟩
  | cons e l ih =>
    obtain ⟨he, hl⟩ := List.forall_mem_cons.1 hbuild
    obtain ⟨next, hadd, hnext⟩ := h.add id result (fun () => build e) he
    obtain ⟨a', hfold, ha'⟩ := ih hnext hl
    refine ⟨a', ?_, ha'⟩
    rw [List.foldlM_cons, hadd]
    exact hfold

theorem exists_ofList {build : α → Option (Except ConstructionError ω)} {l : List α}
    (hbuild : ∀ e ∈ l, build e = some (result e)) :
    ∃ a, ofList id build l = some a ∧ a.Holds (places id result l) :=
  holds_empty.foldlM_add id result hbuild

/-! ## The entries of one project -/

/-- The worker of a project: what its first entry that can be built results in. -/
def firstBuilt (l : List α) (key : String) : Option ω :=
  (l.filter (id · = key)).findSome? fun e => (result e).toOption

theorem firstBuilt_concat_of_ne {l : List α} {e : α} {key : String} (h : id e ≠ key) :
    firstBuilt id result (l ++ [e]) key = firstBuilt id result l key := by
  simp [firstBuilt, h]

theorem firstBuilt_concat_self (l : List α) (e : α) :
    firstBuilt id result (l ++ [e]) (id e) =
      (firstBuilt id result l (id e)).or (result e).toOption := by
  rw [firstBuilt, List.filter_append, List.findSome?_append, ← firstBuilt]
  simp

/-- A project is served by its first entry that can be built. -/
theorem mem_places_iff (l : List α) (key : String) (worker : ω) :
    (key, .ok worker) ∈ places id result l ↔ firstBuilt id result l key = some worker := by
  induction l using List.reverseRecOn generalizing worker with
  | nil => simp [places, firstBuilt]
  | append_singleton l e ih =>
    rw [places_concat, List.mem_append, List.mem_singleton, eq_comm, place_eq_ok_iff, ih]
    simp only [ih]
    by_cases hkey : id e = key
    · subst hkey
      rw [firstBuilt_concat_self]
      cases hfirst : firstBuilt id result l (id e) with
      | none => cases result e <;> simp [Except.toOption]
      | some first => simp
    · rw [firstBuilt_concat_of_ne id result hkey]
      simp [hkey]

/-! ## Different projects -/

theorem places_congr {result' : α → Except ConstructionError ω} {l : List α}
    (h : ∀ e ∈ l, result e = result' e) : places id result l = places id result' l := by
  induction l using List.reverseRecOn with
  | nil => rfl
  | append_singleton l e ih =>
    obtain ⟨hl, he⟩ := List.forall_mem_append.1 h
    rw [places_concat, places_concat, ih hl, place, place, he e List.mem_cons_self]

/-- Where an entry goes does not depend on other projects. -/
theorem place_filter (before : List (Place ω)) {e : α} {key : String} (h : id e ≠ key) :
    place id result before e = place id result (before.filter (·.1 ≠ key)) e := by
  have hserved : id e ∈ (served before).map (·.1) ↔
      id e ∈ (served (before.filter (·.1 ≠ key))).map (·.1) := by
    simp [mem_served_iff, h]
  simp only [place, hserved]

/-- Without the entries of one project, the others go where they went. -/
theorem filter_places (l : List α) (key : String) :
    (places id result l).filter (·.1 ≠ key) = places id result (l.filter (id · ≠ key)) := by
  induction l using List.reverseRecOn with
  | nil => rfl
  | append_singleton l e ih =>
    rw [places_concat, List.filter_append, List.filter_append, ih]
    by_cases hkey : id e = key
    · have he : (place id result (places id result l) e).1 = key := hkey
      simp [he, hkey]
    · have he : (place id result (places id result l) e).1 ≠ key := hkey
      have hplace : [place id result (places id result l) e].filter (·.1 ≠ key) =
          [place id result (places id result l) e] := by
        simp [he]
      have hentry : [e].filter (id · ≠ key) = [e] := by
        simp [hkey]
      rw [hplace, hentry, places_concat, place_filter id result _ hkey, ih]

/-- If the entries are for different projects, each goes where building it puts it. -/
theorem places_of_nodup {l : List α} (h : (l.map id).Nodup) :
    places id result l = l.map fun e => (id e, result e) := by
  induction l using List.reverseRecOn with
  | nil => rfl
  | append_singleton l e ih =>
    rw [List.map_append, List.map_singleton, List.nodup_append] at h
    obtain ⟨hl, -, hdisjoint⟩ := h
    rw [places_concat, ih hl, List.map_append, List.map_singleton, place, if_neg]
    intro hserved
    obtain ⟨⟨key, worker⟩, hmem, rfl⟩ := List.mem_map.1 hserved
    obtain ⟨other, hother, heq⟩ := List.mem_map.1 (mem_served_iff.1 hmem)
    exact hdisjoint _ (List.mem_map_of_mem hother) _ List.mem_cons_self (congrArg Prod.fst heq)

theorem refused_filter (places : List (Place ω)) (key : String) :
    refused (places.filter (·.1 ≠ key)) = (refused places).filter (·.1 ≠ key) := by
  induction places with
  | nil => rfl
  | cons p places ih =>
    obtain ⟨other, outcome⟩ := p
    by_cases h : other = key <;> cases outcome <;> simp_all [refused]

/-- What the places of the other projects are determines who else is served and who else fails. -/
theorem Holds.eq_of_filter {before' : List (Place ω)} (h : a.Holds before) (h' : a'.Holds before')
    {key : String} (hfilter : before.filter (·.1 ≠ key) = before'.filter (·.1 ≠ key)) :
    (∀ other ≠ key, a.router.workers.get? other = a'.router.workers.get? other) ∧
      a.failures.filter (·.1 ≠ key) = a'.failures.filter (·.1 ≠ key) := by
  constructor
  · intro other hother
    apply Option.ext
    intro worker
    have hmem : ∀ l : List (Place ω),
        (other, .ok worker) ∈ l ↔ (other, .ok worker) ∈ l.filter (·.1 ≠ key) := by
      simp [hother]
    rw [h.get?_eq_some_iff, h'.get?_eq_some_iff, hmem before, hmem before', hfilter]
  · rw [h.failures_eq, h'.failures_eq, ← refused_filter, ← refused_filter, hfilter]

/-! ## Projects that pass -/

/-- If projects pass and all can be built or fail, none of them is refused as a duplicate. -/
theorem exists_assemble? {m : Machine} {projects : List Project}
    (hvalid : Project.validate projects = .ok ())
    (hbuild : ∀ p ∈ projects, ReadyProject.build? m p = some (ReadyProject.build m p)) :
    ∃ a, ReadyProject.assemble? m projects = some a ∧ ∀ f ∈ a.failures, f.2.IsOwn := by
  obtain ⟨a, ha, hholds⟩ := exists_ofList Project.id (ReadyProject.build m) hbuild
  refine ⟨a, ha, ?_⟩
  rintro ⟨key, error⟩ hf
  rw [hholds.failures_eq, mem_refused_iff,
    places_of_nodup _ _ (Project.nodup_of_validate hvalid)] at hf
  obtain ⟨p, -, heq⟩ := List.mem_map.1 hf
  exact ReadyProject.build_failsOnly m p error (congrArg Prod.snd heq)

/-- Whether an assembly serves all it can of some entries: it holds one place for each of them,
    which is a duplicate's if the places before it serve the project already and otherwise what
    building the entry results in. So all entries are accounted for, and each project is served by
    its first entry that can be built. -/
structure Settles (entries : List α) (a : Assembly ω) (places : List (Place ω)) : Prop
    extends a.Holds places where
  length_eq : places.length = entries.length
  getElem?_eq : ∀ i e, entries[i]? = some e → places[i]? = some (id e,
    if id e ∈ (served (places.take i)).map (·.1) then .error (.duplicateProject (id e))
    else result e)
  size_add : a.router.size + a.failures.length = entries.length
  get?_eq : ∀ key, a.router.workers.get? key =
    (entries.filter (id · = key)).findSome? fun e => (result e).toOption

theorem Holds.settles {entries : List α} (h : a.Holds (places id result entries)) :
    Settles id result entries a (places id result entries) where
  toHolds := h
  length_eq := length_places id result entries
  getElem?_eq _ _ := getElem?_places id result
  size_add := h.size_add.trans (length_places id result entries)
  get?_eq key := by
    apply Option.ext
    intro worker
    rw [h.get?_eq_some_iff, mem_places_iff, firstBuilt]

/-- Two lists that differ in the entries of one project alone serve and refuse all others alike. -/
theorem ofList_isolates {build' : α → Option (Except ConstructionError ω)}
    {result' : α → Except ConstructionError ω} {entries entries' : List α}
    (h : a.Holds (places id result entries)) (hbuild' : ∀ e ∈ entries', build' e = some (result' e))
    (ha' : ofList id build' entries' = some a') {key : String}
    (hothers : entries.filter (id · ≠ key) = entries'.filter (id · ≠ key))
    (hsame : ∀ e ∈ entries, id e ≠ key → result e = result' e) :
    (∀ other ≠ key, a.router.workers.get? other = a'.router.workers.get? other) ∧
      a.failures.filter (·.1 ≠ key) = a'.failures.filter (·.1 ≠ key) := by
  obtain ⟨found, hfound, hholds⟩ := exists_ofList id result' hbuild'
  obtain rfl : found = a' := Option.some.inj (hfound.symm.trans ha')
  apply h.eq_of_filter hholds
  rw [filter_places, filter_places, ← hothers]
  apply places_congr
  intro e he
  obtain ⟨he, hne⟩ := List.mem_filter.1 he
  exact hsame e he (of_decide_eq_true hne)

/-- As many projects as can be are served. A list of entries is assembled with one place for each,
    and what becomes of the other projects does not change with the entries of one. Entries that
    pass the checks on projects all go where building them puts them, and none of them is a
    duplicate. Of workers that are there already, two for one project are too many. -/
theorem ofList_serves {build : α → Option (Except ConstructionError ω)} {entries : List α}
    (hbuild : ∀ e ∈ entries, build e = some (result e)) :
    (∃ a places, ofList id build entries = some a ∧ Settles id result entries a places ∧
      (∀ projects, projects.map Project.id = entries.map id → Project.validate projects = .ok () →
        places = entries.map fun e => (id e, result e)) ∧
      (∀ (build' : α → Option (Except ConstructionError ω))
        (result' : α → Except ConstructionError ω) (entries' : List α) (a' : Assembly ω)
        (key : String),
        (∀ e ∈ entries', build' e = some (result' e)) → ofList id build' entries' = some a' →
        entries.filter (id · ≠ key) = entries'.filter (id · ≠ key) →
        (∀ e ∈ entries, id e ≠ key → result e = result' e) →
          (∀ other ≠ key, a.router.workers.get? other = a'.router.workers.get? other) ∧
            a.failures.filter (·.1 ≠ key) = a'.failures.filter (·.1 ≠ key))) ∧
    (∀ m projects, Project.validate projects = .ok () →
      (∀ p ∈ projects, ReadyProject.build? m p = some (ReadyProject.build m p)) →
        ∃ a, ReadyProject.assemble? m projects = some a ∧
          ∀ f ∈ a.failures, ∀ key, f.2 ≠ .duplicateProject key) ∧
    (∀ l : List (String × ω),
      ((∃ r, Router.ofList l = .ok r ∧ r.workers.entries.Perm l) ↔ (l.map (·.1)).Nodup) ∧
      ∀ error, Router.ofList l = .error error ↔ ∃ before e after, l = before ++ e :: after ∧
        (before.map (·.1)).Nodup ∧ e.1 ∈ before.map (·.1) ∧ error = .duplicateProject e.1) := by
  obtain ⟨a, ha, hholds⟩ := exists_ofList id result hbuild
  refine ⟨⟨a, places id result entries, ha, hholds.settles id result, ?_, ?_⟩, ?_, ?_⟩
  · intro projects hids hvalid
    exact places_of_nodup id result (hids ▸ Project.nodup_of_validate hvalid)
  · intro build' result' entries' a' key hbuild' ha' hothers hsame
    exact ofList_isolates id result hholds hbuild' ha' hothers hsame
  · exact fun m projects => exists_assemble?
  · exact fun l => ⟨Router.exists_ofList_iff l, Router.ofList_error_iff l⟩

/-- A project whose first entry fails is served by its second one, and its third one is a
    duplicate. -/
theorem ofList_serves_four :
    let entries : List (String × Except ConstructionError Nat) :=
      [("ios", .error .certificate), ("ios", .ok 1), ("android", .ok 2), ("ios", .ok 3)]
    (∀ e ∈ entries, (fun e => some e.2) e = some e.2) ∧
      ∃ a places, ofList Prod.fst (fun e => some e.2) entries = some a ∧
        Settles Prod.fst Prod.snd entries a places ∧ a.router.workers.get? "ios" = some 1 ∧
        a.failures = [("ios", .certificate), ("ios", .duplicateProject "ios")] := by
  intro entries
  have hbuild : ∀ e ∈ entries, (fun e => some e.2) e = some e.2 := fun _ _ => rfl
  obtain ⟨⟨a, places, ha, hsettles, -⟩, -⟩ := ofList_serves Prod.fst Prod.snd hbuild
  have hfailures : (ofList Prod.fst (fun e => some e.2) entries).map (·.failures) =
      some [("ios", .certificate), ("ios", .duplicateProject "ios")] := by decide +kernel
  rw [ha] at hfailures
  exact ⟨hbuild, a, places, ha, hsettles, hsettles.get?_eq "ios", Option.some.inj hfailures⟩

end Assembly

end Courier
