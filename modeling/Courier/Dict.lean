/-!
# Dictionaries in key order

A dictionary keyed by text. Its entries stand in ascending key order, each key once, so two
dictionaries with the same entries are equal and everything written from one comes out in one order.

Results:

* `Dict.get?_insert_self`, `Dict.get?_insert_of_ne`: what `insert` does to every key.
* `Dict.insert_perm`: what `insert` does to the entries if the key is new.
* `Dict.ext_get?`: the values of all keys determine a dictionary.
* `Dict.keys_eq`: which keys have a value determines the keys.
* `Dict.get?_ofList`: what a dictionary made from entries holds.
* `Dict.ofList_entries`: the entries of a dictionary make it again.
* `Dict.contains_iff_of_perm`, `Dict.insert_perm_concat`: the entries as a list in any order.
* `Dict.contains_iff_mem_keys`, `Dict.contains_ofList`, `Dict.ext_contains`: the keys that have a
  value.
* `Dict.insert_comm`: entries with different keys are put in any order.
* `Dict.mapValues_insert`, `Dict.mapValues_ofList`: values may be changed before they are put.
-/

namespace Courier

/-- Entries in ascending key order, each key once. -/
structure Dict (α : Type) where
  entries : List (String × α)
  sorted : entries.Pairwise (fun a b => a.1 < b.1)

namespace Dict

variable {α β : Type}

/-- The dictionary without entries. -/
def empty : Dict α := ⟨[], .nil⟩

instance : Inhabited (Dict α) := ⟨empty⟩

instance [DecidableEq α] : DecidableEq (Dict α) := fun a b =>
  decidable_of_iff (a.entries = b.entries)
    ⟨fun h => by cases a; cases b; simp_all, fun h => h ▸ rfl⟩

/-- Puts `value` at `key`, in place of what stood there. -/
def insertEntry (key : String) (value : α) : List (String × α) → List (String × α)
  | [] => [(key, value)]
  | e :: rest =>
    if key < e.1 then (key, value) :: e :: rest
    else if key = e.1 then (key, value) :: rest
    else e :: insertEntry key value rest

theorem mem_insertEntry {key : String} {value : α} {l : List (String × α)} {e : String × α}
    (h : e ∈ insertEntry key value l) : e = (key, value) ∨ e ∈ l := by
  induction l with
  | nil => simpa [insertEntry] using h
  | cons d rest ih =>
    unfold insertEntry at h
    grind

theorem insertEntry_sorted (key : String) (value : α) {l : List (String × α)}
    (h : l.Pairwise (fun a b => a.1 < b.1)) :
    (insertEntry key value l).Pairwise (fun a b => a.1 < b.1) := by
  induction l with
  | nil => simp [insertEntry]
  | cons d rest ih =>
    have hd := List.pairwise_cons.1 h
    unfold insertEntry
    split
    · refine List.pairwise_cons.2 ⟨fun e he => ?_, h⟩
      rcases List.mem_cons.1 he with rfl | he
      · assumption
      · exact String.lt_trans ‹_› (hd.1 e he)
    · split
      · subst key
        exact List.pairwise_cons.2 ⟨fun e he => hd.1 e he, hd.2⟩
      · refine List.pairwise_cons.2 ⟨fun e he => ?_, ih hd.2⟩
        rcases mem_insertEntry he with rfl | he
        · grind
        · exact hd.1 e he

/-- Puts `value` at `key`, in place of what stood there. -/
def insert (d : Dict α) (key : String) (value : α) : Dict α :=
  ⟨insertEntry key value d.entries, insertEntry_sorted key value d.sorted⟩

/-- Puts a value at `key` if there is one. -/
def insertSome (d : Dict α) (key : String) : Option α → Dict α
  | some value => d.insert key value
  | none => d

/-- Puts the entries of a list one after the other, so the last of several with one key stays. -/
def ofList (l : List (String × α)) : Dict α := l.foldl (fun d e => d.insert e.1 e.2) empty

/-- The value at `key`. -/
def get? (d : Dict α) (key : String) : Option α := d.entries.lookup key

/-- Whether `key` has a value. -/
def contains (d : Dict α) (key : String) : Bool := (d.get? key).isSome

/-- The keys in ascending order. -/
def keys (d : Dict α) : List String := d.entries.map (·.1)

/-- Whether there is no entry. -/
def isEmpty (d : Dict α) : Bool := d.entries.isEmpty

/-- The number of entries. -/
def size (d : Dict α) : Nat := d.entries.length

/-- Applies a function to every value. -/
def mapValues (f : α → β) (d : Dict α) : Dict β :=
  ⟨d.entries.map fun e => (e.1, f e.2), by
    rw [List.pairwise_map]; exact d.sorted⟩

/-! ## Reading after writing -/

theorem lookup_insertEntry_self (key : String) (value : α) (l : List (String × α)) :
    (insertEntry key value l).lookup key = some value := by
  induction l with
  | nil => simp [insertEntry]
  | cons d rest ih =>
    unfold insertEntry
    split
    · simp
    · split
      · simp
      · rw [List.lookup_cons, ih]
        have : (key == d.1) = false := by simpa using ‹¬key = d.1›
        simp [this]

theorem lookup_insertEntry_of_ne {key other : String} (h : other ≠ key) (value : α)
    (l : List (String × α)) : (insertEntry key value l).lookup other = l.lookup other := by
  have hb : (other == key) = false := by simpa using h
  induction l with
  | nil => simp [insertEntry, List.lookup_cons, hb]
  | cons d rest ih =>
    obtain ⟨dk, dv⟩ := d
    unfold insertEntry
    split
    · simp [List.lookup_cons, hb]
    · split
      · have hd : (other == dk) = false := by rw [← ‹key = dk›]; exact hb
        simp [List.lookup_cons, hb, hd]
      · simp [List.lookup_cons, ih]

@[simp] theorem get?_insert_self (d : Dict α) (key : String) (value : α) :
    (d.insert key value).get? key = some value :=
  lookup_insertEntry_self key value d.entries

@[simp] theorem get?_insert_of_ne (d : Dict α) {key other : String} (h : other ≠ key) (value : α) :
    (d.insert key value).get? other = d.get? other :=
  lookup_insertEntry_of_ne h value d.entries

theorem get?_insertSome_self (d : Dict α) (key : String) (value : Option α) :
    (d.insertSome key value).get? key = value.or (d.get? key) := by
  cases value with
  | none => rfl
  | some value => exact get?_insert_self d key value

theorem get?_insertSome_of_ne (d : Dict α) {key other : String} (h : other ≠ key)
    (value : Option α) : (d.insertSome key value).get? other = d.get? other := by
  cases value with
  | none => rfl
  | some value => exact get?_insert_of_ne d h value

@[simp] theorem get?_empty (key : String) : (empty : Dict α).get? key = none := rfl

theorem lookup_eq_some_of_mem {l : List (String × α)} (hl : l.Pairwise (fun a b => a.1 < b.1))
    {e : String × α} (he : e ∈ l) : l.lookup e.1 = some e.2 := by
  induction l with
  | nil => simp at he
  | cons d rest ih =>
    have hd := List.pairwise_cons.1 hl
    rw [List.lookup_cons]
    rcases List.mem_cons.1 he with rfl | he
    · simp
    · have hlt := hd.1 e he
      have : (e.1 == d.1) = false := by
        have : e.1 ≠ d.1 := fun h => String.lt_irrefl _ (h ▸ hlt)
        simpa using this
      simp [this, ih hd.2 he]

theorem mem_of_lookup_eq_some {l : List (String × α)} {key : String} {value : α}
    (h : l.lookup key = some value) : (key, value) ∈ l := by
  induction l with
  | nil => simp at h
  | cons d rest ih =>
    rw [List.lookup_cons] at h
    by_cases hk : key = d.1
    · subst hk
      simp at h
      subst h
      simp
    · have : (key == d.1) = false := by simpa using hk
      rw [this] at h
      exact List.mem_cons_of_mem _ (ih h)

/-- Reading a key finds exactly the entry that stands in the list. -/
theorem get?_eq_some_iff (d : Dict α) (key : String) (value : α) :
    d.get? key = some value ↔ (key, value) ∈ d.entries :=
  ⟨mem_of_lookup_eq_some, fun h => lookup_eq_some_of_mem d.sorted h⟩

theorem sorted_ext {l m : List (String × α)} (hl : l.Pairwise (fun a b => a.1 < b.1))
    (hm : m.Pairwise (fun a b => a.1 < b.1)) (h : ∀ e, e ∈ l ↔ e ∈ m) : l = m := by
  induction l generalizing m with
  | nil =>
    cases m with
    | nil => rfl
    | cons e m => exact absurd ((h e).2 (by simp)) (by simp)
  | cons a l ih =>
    cases m with
    | nil => exact absurd ((h a).1 (by simp)) (by simp)
    | cons b m =>
      have ha := List.pairwise_cons.1 hl
      have hb := List.pairwise_cons.1 hm
      have hab : a = b := by
        rcases List.mem_cons.1 ((h a).1 (by simp)) with h1 | h1
        · exact h1
        · rcases List.mem_cons.1 ((h b).2 (by simp)) with h2 | h2
          · exact h2.symm
          · exact absurd (String.lt_trans (ha.1 b h2) (hb.1 a h1)) (String.lt_irrefl _)
      subst hab
      have hlm : ∀ e, e ∈ l ↔ e ∈ m := fun e =>
        ⟨fun he => (List.mem_cons.1 ((h e).1 (by simp [he]))).resolve_left
            (fun h' => String.lt_irrefl a.1 (by have := ha.1 e he; rwa [h'] at this)),
          fun he => (List.mem_cons.1 ((h e).2 (by simp [he]))).resolve_left
            (fun h' => String.lt_irrefl a.1 (by have := hb.1 e he; rwa [h'] at this))⟩
      rw [ih ha.2 hb.2 hlm]

/-- The values of all keys determine a dictionary. -/
theorem ext_get? {d e : Dict α} (h : ∀ key, d.get? key = e.get? key) : d = e := by
  have : d.entries = e.entries := sorted_ext d.sorted e.sorted fun x => by
    obtain ⟨k, v⟩ := x
    rw [← get?_eq_some_iff, ← get?_eq_some_iff, h]
  cases d
  cases e
  simp_all

/-- A new key adds an entry. -/
theorem insert_perm {d : Dict α} {key : String} (h : d.get? key = none) (value : α) :
    (d.insert key value).entries.Perm ((key, value) :: d.entries) := by
  have hentries : ∀ l : List (String × α), l.lookup key = none →
      (insertEntry key value l).Perm ((key, value) :: l) := by
    intro l
    induction l with
    | nil => exact fun _ => .refl _
    | cons e rest ih =>
      intro hl
      rw [List.lookup_cons] at hl
      unfold insertEntry
      split
      · exact .refl _
      · split
        · rename_i heq
          simp [heq] at hl
        · split at hl
          · cases hl
          · exact ((ih hl).cons e).trans (.swap _ _ _)
  exact hentries d.entries h

/-! ## Keys and lists of entries -/

@[simp] theorem get?_mapValues (f : α → β) (d : Dict α) (key : String) :
    (d.mapValues f).get? key = (d.get? key).map f := by
  show (d.entries.map fun e => (e.1, f e.2)).lookup key = (d.entries.lookup key).map f
  induction d.entries with
  | nil => rfl
  | cons e rest ih =>
    rw [List.map_cons, List.lookup_cons, List.lookup_cons, ih]
    split <;> rfl

/-- Which keys have a value determines the keys. -/
theorem keys_eq {d : Dict α} {e : Dict β}
    (h : ∀ key, (d.get? key).isSome = (e.get? key).isSome) : d.keys = e.keys := by
  have hunit : d.mapValues (fun _ => ()) = e.mapValues fun _ => () := by
    apply ext_get?
    intro key
    have := h key
    rw [get?_mapValues, get?_mapValues]
    cases hd : d.get? key <;> cases he : e.get? key <;> simp_all
  have hkeys := congrArg keys hunit
  simpa [keys, mapValues, Function.comp_def] using hkeys

theorem get?_foldl_insert {l : List (String × α)} (h : (l.map Prod.fst).Nodup) (d : Dict α)
    (key : String) :
    (l.foldl (fun d e => d.insert e.1 e.2) d).get? key = (l.lookup key).or (d.get? key) := by
  induction l generalizing d with
  | nil => rfl
  | cons e rest ih =>
    obtain ⟨hnot, hrest⟩ := List.nodup_cons.1 h
    rw [List.foldl_cons, ih hrest, List.lookup_cons]
    by_cases hkey : key = e.1
    · subst hkey
      have hnone : rest.lookup e.1 = none := by
        cases hl : rest.lookup e.1 with
        | none => rfl
        | some value => exact absurd (List.mem_map.2 ⟨_, mem_of_lookup_eq_some hl, rfl⟩) hnot
      simp [hnone]
    · have : (key == e.1) = false := by simpa using hkey
      rw [this, get?_insert_of_ne _ hkey]

/-- A dictionary made from entries with different keys has exactly these entries. -/
theorem get?_ofList {l : List (String × α)} (h : (l.map Prod.fst).Nodup) (key : String) :
    (ofList l).get? key = l.lookup key := by
  rw [ofList, get?_foldl_insert h, get?_empty, Option.or_none]

theorem nodup_keys (d : Dict α) : d.keys.Nodup := by
  refine List.Pairwise.imp ?_ (List.pairwise_map.2 d.sorted)
  intro a b hlt heq
  exact String.lt_irrefl b (heq ▸ hlt)

/-- The entries of a dictionary make it again. -/
theorem ofList_entries (d : Dict α) : ofList d.entries = d :=
  ext_get? fun key => get?_ofList d.nodup_keys key

/-! ## Order of writing, changed values -/

theorem get?_insert (d : Dict α) (key other : String) (value : α) :
    (d.insert key value).get? other = if other = key then some value else d.get? other := by
  split
  · rename_i h
    rw [h, get?_insert_self]
  · rename_i h
    exact get?_insert_of_ne d h value

theorem get?_insert_eq_some_iff {d : Dict α} {key : String} (h : d.get? key = none)
    {other : String} {value result : α} :
    (d.insert key value).get? other = some result ↔
      other = key ∧ result = value ∨ d.get? other = some result := by
  rw [get?_insert]
  by_cases hkey : other = key
  · simp [hkey, h, eq_comm]
  · simp [hkey]

/-- Entries with different keys are put in any order. -/
theorem insert_comm (d : Dict α) {key other : String} (h : key ≠ other) (a b : α) :
    (d.insert key a).insert other b = (d.insert other b).insert key a := by
  apply ext_get?
  intro k
  by_cases hkey : k = key
  · subst hkey
    rw [get?_insert_of_ne _ h, get?_insert_self, get?_insert_self]
  · simp only [get?_insert, if_neg hkey]

theorem mapValues_insert (f : α → β) (d : Dict α) (key : String) (value : α) :
    (d.insert key value).mapValues f = (d.mapValues f).insert key (f value) := by
  apply ext_get?
  intro k
  rw [get?_mapValues, get?_insert, get?_insert, get?_mapValues]
  split <;> rfl

theorem mapValues_insertSome (f : α → β) (d : Dict α) (key : String) (value : Option α) :
    (d.insertSome key value).mapValues f = (d.mapValues f).insertSome key (value.map f) := by
  cases value with
  | none => rfl
  | some value => exact mapValues_insert f d key value

theorem mapValues_foldl_insert (f : α → β) (l : List (String × α)) (d : Dict α) :
    (l.foldl (fun d e => d.insert e.1 e.2) d).mapValues f =
      (l.map fun e => (e.1, f e.2)).foldl (fun d e => d.insert e.1 e.2) (d.mapValues f) := by
  induction l generalizing d with
  | nil => rfl
  | cons e rest ih => rw [List.foldl_cons, ih, mapValues_insert, List.map_cons, List.foldl_cons]

theorem mapValues_ofList (f : α → β) (l : List (String × α)) :
    (ofList l).mapValues f = ofList (l.map fun e => (e.1, f e.2)) :=
  mapValues_foldl_insert f l empty

/-! ## Keys with a value -/

theorem contains_iff_mem_keys (d : Dict α) (key : String) :
    d.contains key = true ↔ key ∈ d.keys := by
  rw [contains, Option.isSome_iff_exists, keys, List.mem_map]
  constructor
  · rintro ⟨value, h⟩
    exact ⟨(key, value), (d.get?_eq_some_iff key value).1 h, rfl⟩
  · rintro ⟨⟨k, value⟩, h, rfl⟩
    exact ⟨value, (d.get?_eq_some_iff k value).2 h⟩

theorem contains_iff_of_perm {d : Dict α} {l : List (String × α)} (h : d.entries.Perm l)
    (key : String) : d.contains key = true ↔ key ∈ l.map (·.1) := by
  rw [contains_iff_mem_keys, keys, (h.map _).mem_iff]

/-- A new key adds an entry to any list of the entries. -/
theorem insert_perm_concat {d : Dict α} {l : List (String × α)} (h : d.entries.Perm l)
    {key : String} (hnew : key ∉ l.map (·.1)) (value : α) :
    (d.insert key value).entries.Perm (l ++ [(key, value)]) := by
  have hkey : d.get? key = none := by
    rw [← contains_iff_of_perm h, contains] at hnew
    simpa using hnew
  exact (insert_perm hkey value).trans ((h.cons _).trans (List.perm_append_singleton _ _).symm)

theorem contains_insert (d : Dict α) (key other : String) (value : α) :
    (d.insert key value).contains other = true ↔ other = key ∨ d.contains other = true := by
  rw [contains, get?_insert, contains]
  split
  · simp_all
  · simp_all

theorem isEmpty_iff_keys (d : Dict α) : d.isEmpty = true ↔ d.keys = [] := by
  rw [isEmpty, keys, List.isEmpty_iff, List.map_eq_nil_iff]

@[simp] theorem isEmpty_empty : (empty : Dict α).isEmpty = true := rfl

theorem eq_empty_of_isEmpty {d : Dict α} (h : d.isEmpty = true) : d = empty := by
  obtain ⟨entries, _⟩ := d
  obtain rfl := List.isEmpty_iff.1 h
  rfl

theorem isEmpty_mapValues (f : α → β) (d : Dict α) : (d.mapValues f).isEmpty = d.isEmpty := by
  simp [mapValues, isEmpty]

@[simp] theorem isEmpty_insert (d : Dict α) (key : String) (value : α) :
    (d.insert key value).isEmpty = false := by
  have hkey : key ∈ (d.insert key value).keys := by
    rw [← contains_iff_mem_keys, contains_insert]
    exact .inl rfl
  rw [← Bool.not_eq_true, isEmpty_iff_keys]
  exact List.ne_nil_of_mem hkey

theorem contains_insertSome (d : Dict α) (key other : String) (value : Option α) :
    (d.insertSome key value).contains other = true ↔
      other = key ∧ value.isSome ∨ d.contains other = true := by
  cases value with
  | none => simp [insertSome]
  | some value => simp [insertSome, contains_insert]

theorem contains_foldl_insert (l : List (String × α)) (d : Dict α) (key : String) :
    (l.foldl (fun d e => d.insert e.1 e.2) d).contains key = true ↔
      key ∈ l.map (·.1) ∨ d.contains key = true := by
  induction l generalizing d with
  | nil => simp
  | cons e rest ih => rw [List.foldl_cons, ih, contains_insert, List.map_cons, List.mem_cons,
      or_left_comm, or_assoc]

/-- The keys of a dictionary made from entries are theirs. -/
theorem contains_ofList (l : List (String × α)) (key : String) :
    (ofList l).contains key = true ↔ key ∈ l.map (·.1) := by
  rw [ofList, contains_foldl_insert]
  exact or_iff_left nofun

/-- The keys of a set determine it. -/
theorem ext_contains {d e : Dict Unit}
    (h : ∀ key, d.contains key = true ↔ e.contains key = true) : d = e := by
  apply ext_get?
  intro key
  have hkey := h key
  unfold contains at hkey
  cases hd : d.get? key <;> cases he : e.get? key <;> simp_all

end Dict

end Courier
