import Courier.OAuth.Sharing

/-!
# Tokens that many users share

Users may find a stale token at the same time and then fetch one each. Whatever the order of their
steps, each gets a whole token, one that was fresh in the slot or that of the own fetch, and what
goes wrong with a fetch concerns nobody else.

Results:

* `Sharing.step_happens`: everything that a step can do.
* `Sharing.steps_getting`: a request found what was in the slot when it began.
* `Sharing.Happens.sound`: what holds in every state.
* `Sharing.get_alone`: a request whose steps nothing comes between gets what `Tokens.get` gives.
* `Sharing.steps_share`: what users get and what the slot holds, in every order of steps.
-/

namespace Courier

/-! ## Clocks -/

theorem Moment.seconds_le {t u : Moment} (h : t.toNanos ≤ u.toNanos) : t.seconds ≤ u.seconds := by
  have ht := t.nanos_lt
  have hu := u.nanos_lt
  simp only [toNanos, nanosPerSecond] at *
  omega

namespace OAuth

open Http (Attempt)

/-- A token that is fresh was so before. -/
theorem AccessToken.isFresh?_of_le {token : AccessToken} {t u : Moment}
    (h : t.toNanos ≤ u.toNanos) (hfresh : token.isFresh? u = some true) :
    token.isFresh? t = some true := by
  have hseconds := Moment.seconds_le h
  unfold isFresh? Moment.later? Moment.isBefore at *
  split at hfresh
  · rename_i hu
    rw [if_pos (by omega)]
    simp only [Option.map_some, Option.some.injEq, decide_eq_true_eq, Moment.toNanos_later] at *
    omega
  · cases hfresh

/-! ## Stages -/

/-- Whether a request needs no more steps. -/
def Stage.isOver (stage : Stage) : Bool := stage.ending?.isSome || stage = .fetching .dropped

/-- A request fails as its fetch does. -/
theorem Stage.ending?_failed {stage : Stage} {error : SendError} :
    stage.ending? = some (.failed error) ↔ stage.result? = some (.failed error) := by
  cases stage with
  | fetching fetch => cases fetch <;> simp [ending?, result?, Fetch.result?]
  | _ => simp [ending?, result?]

/-- A token that a user gets was found, or the own fetch returned it. -/
theorem Stage.ending?_answered {stage : Stage} {token : AccessToken}
    (h : stage.ending? = some (.answered token)) :
    stage = .reused token ∨ stage.result? = some (.answered token) := by
  cases stage with
  | reused =>
    cases h
    exact .inl rfl
  | fetching fetch =>
    cases fetch with
    | stored =>
      cases h
      exact .inr rfl
    | _ => cases h
  | _ => cases h

/-- How many steps a request has still to take at most. -/
def Stage.left : Stage → Nat
  | .loaded => 3
  | .fetching .underWay => 2
  | .fetching (.returned _) => 1
  | _ => 0

/-- What is found is used if it is fresh, and replaced if there is none or it is stale. -/
theorem Getting.afterTest_cases (g : Getting) (now : Moment) :
    g.afterTest now = .unclear ∨
      (∃ token, g.afterTest now = .reused token ∧ g.found = some token ∧
        token.isFresh? now = some true) ∨
      g.afterTest now = .fetching .underWay ∧
        ∀ token, g.found = some token → token.isFresh? now = some false := by
  rw [afterTest]
  cases g.found with
  | none => exact .inr (.inr ⟨rfl, nofun⟩)
  | some token =>
    dsimp only
    split
    · rename_i hfresh
      exact .inr (.inl ⟨token, rfl, rfl, hfresh⟩)
    · rename_i hfresh
      refine .inr (.inr ⟨rfl, fun token' heq => ?_⟩)
      rwa [← Option.some.inj heq]
    · exact .inl rfl

/-! ## Everything that a step can do -/

namespace Sharing

variable {s s' : Sharing} {e : Step} {i index : Nat} {g : Getting}

/-- What a step can do. -/
inductive Happens (s : Sharing) : Step → Sharing → Prop
  | nothing (e : Step) : Happens s e s
  | wait {time : Moment} (h : s.now.isBefore time = true) :
      Happens s (.wait time) { s with now := time }
  | load :
      Happens s .load { s with gettings := s.gettings ++ [{ loadedAt := s.now, found := s.slot }] }
  | test {index : Nat} {g : Getting} (hg : s.gettings[index]? = some g) (h : g.stage = .loaded) :
      Happens s (.test index) (s.enter index g (g.afterTest s.now))
  | answer {index : Nat} {g : Getting} (result : Attempt AccessToken)
      (hg : s.gettings[index]? = some g) (h : g.stage = .fetching .underWay) :
      Happens s (.answer index result)
        { s.enter index g (.fetching (.ended result)) with
          fetches := s.fetches ++ [(index, result)] }
  | store {index : Nat} {g : Getting} {token : AccessToken} (hg : s.gettings[index]? = some g)
      (h : g.stage = .fetching (.returned token)) :
      Happens s (.store index)
        { s.enter index g (.fetching (.stored token)) with slot := some token }
  | drop {index : Nat} {g : Getting} (hg : s.gettings[index]? = some g)
      (h : g.stage = .fetching .underWay) :
      Happens s (.drop index) (s.enter index g (.fetching .dropped))

theorem step_happens (s : Sharing) (e : Step) : Happens s e (s.step e) := by
  cases e with
  | wait time =>
    rw [step]
    split
    · exact .wait ‹_›
    · exact .nothing _
  | load => exact .load
  | test index | answer index result | drop index =>
    rw [step]
    split
    · split
      · constructor <;> assumption
      · exact .nothing _
    · exact .nothing _
  | store index =>
    rw [step]
    split
    · split
      · exact .store ‹_› ‹_›
      · exact .nothing _
    · exact .nothing _

/-! ## The requests of all users -/

/-- A request after one of its steps, or another request as it was. -/
theorem getElem?_enter {stage : Stage} {g' : Getting}
    (h : (s.enter index g stage).gettings[i]? = some g') :
    s.gettings[i]? = some g' ∧ i ≠ index ∨ i = index ∧ g' = { g with stage := stage } := by
  rw [enter, List.getElem?_set] at h
  split at h
  · rename_i hi
    split at h
    · exact .inr ⟨hi.symm, (Option.some.inj h).symm⟩
    · cases h
  · rename_i hi
    exact .inl ⟨h, Ne.symm hi⟩

/-- A request after a load, as it was or as the load began it. -/
theorem getElem?_load (h : (s.step .load).gettings[i]? = some g) :
    s.gettings[i]? = some g ∨
      i = s.gettings.length ∧ g = { loadedAt := s.now, found := s.slot } := by
  rw [step, List.getElem?_append] at h
  split at h
  · exact .inl h
  · obtain ⟨hi, rfl⟩ := List.getElem?_eq_some_iff.1 h
    rw [List.length_singleton] at hi
    exact .inr ⟨by omega, List.getElem_singleton _⟩

/-- A step leaves what a request found, or begins one, which finds what is in the slot. -/
theorem Happens.getting (happens : Happens s e s') (h : s'.gettings[i]? = some g) :
    (∃ g', s.gettings[i]? = some g' ∧ g'.loadedAt = g.loadedAt ∧ g'.found = g.found) ∨
      e = .load ∧ i = s.gettings.length ∧ g.loadedAt = s.now ∧ g.found = s.slot := by
  have hentered : ∀ {index g' stage}, s.gettings[index]? = some g' →
      (s.enter index g' stage).gettings[i]? = some g →
        ∃ g', s.gettings[i]? = some g' ∧ g'.loadedAt = g.loadedAt ∧ g'.found = g.found := by
    intro index g' stage hg' h
    rcases getElem?_enter h with ⟨h, -⟩ | ⟨rfl, rfl⟩
    · exact ⟨g, h, rfl, rfl⟩
    · exact ⟨g', hg', rfl, rfl⟩
  cases happens with
  | nothing | wait => exact .inl ⟨g, h, rfl, rfl⟩
  | load =>
    rcases getElem?_load h with h | ⟨rfl, rfl⟩
    · exact .inl ⟨g, h, rfl, rfl⟩
    · exact .inr ⟨rfl, rfl, rfl, rfl⟩
  | test hg' | answer _ hg' | store hg' | drop hg' => exact .inl (hentered hg' h)

/-- A request found what was in the slot when it began. -/
theorem steps_getting (l : List Step) (h : (s.steps l).gettings[i]? = some g) :
    (∃ g', s.gettings[i]? = some g' ∧ g'.loadedAt = g.loadedAt ∧ g'.found = g.found) ∨
      ∃ before after, l = before ++ .load :: after ∧ (s.steps before).gettings.length = i ∧
        g.loadedAt = (s.steps before).now ∧ g.found = (s.steps before).slot := by
  induction l generalizing s with
  | nil => exact .inl ⟨g, h, rfl, rfl⟩
  | cons e l ih =>
    rcases ih h with ⟨g', hg', hat, hfound⟩ | ⟨before, after, rfl, hlength, hat, hfound⟩
    · rw [← hat, ← hfound]
      rcases (step_happens s e).getting hg' with hstep | ⟨rfl, rfl, hat, hfound⟩
      · exact .inl hstep
      · exact .inr ⟨[], l, rfl, rfl, hat, hfound⟩
    · exact .inr ⟨e :: before, after, rfl, hlength, hat, hfound⟩

/-- A step leaves all requests as they are but its own. -/
theorem Happens.other (happens : Happens s e s') (he : e.index? ≠ some i)
    (hg : s.gettings[i]? = some g) : s'.gettings[i]? = some g := by
  have hentered : ∀ {index g' stage}, some index ≠ some i →
      (s.enter index g' stage).gettings[i]? = some g := by
    intro index g' stage hi
    rw [enter, List.getElem?_set_ne fun h => hi (congrArg some h)]
    exact hg
  cases happens with
  | nothing | wait => exact hg
  | load => exact List.getElem?_append_left (List.getElem?_eq_some_iff.1 hg).1 ▸ hg
  | test | answer | store | drop => exact hentered he

/-- A request that is over takes no step. -/
theorem Happens.eq_of_over (happens : Happens s e s') (he : e.index? = some i)
    (hg : s.gettings[i]? = some g) (hover : g.stage.isOver = true) : s' = s := by
  have hnot : ∀ {index g'}, some index = some i → s.gettings[index]? = some g' →
      g'.stage.isOver = false → False := by
    intro index g' hi hg' hnot
    rw [Option.some.inj hi, hg] at hg'
    rw [Option.some.inj hg', hnot] at hover
    cases hover
  cases happens with
  | nothing => rfl
  | wait | load => cases he
  | test hg' h | answer _ hg' h | store hg' h | drop hg' h =>
    exact (hnot he hg' (by rw [h]; rfl)).elim

/-- A request that is over stays as it is. -/
theorem step_over (e : Step) (hg : s.gettings[i]? = some g) (hover : g.stage.isOver = true) :
    (s.step e).gettings[i]? = some g := by
  by_cases he : e.index? = some i
  · rwa [(step_happens s e).eq_of_over he hg hover]
  · exact (step_happens s e).other he hg

theorem steps_over (l : List Step) (hg : s.gettings[i]? = some g) (hover : g.stage.isOver = true) :
    (s.steps l).gettings[i]? = some g := by
  induction l generalizing s with
  | nil => exact hg
  | cons e l ih => exact ih (step_over e hg hover)

/-- What a step adds to what fetches came to is an answer. -/
theorem Happens.mem_fetches {result : Attempt AccessToken} (happens : Happens s e s')
    (h : (i, result) ∈ s'.fetches) : (i, result) ∈ s.fetches ∨ e = .answer i result := by
  cases happens with
  | answer =>
    refine (List.mem_append.1 h).imp_right fun h => ?_
    cases List.mem_singleton.1 h
    rfl
  | _ => exact .inl h

/-- What a fetch came to was an answer to it. -/
theorem mem_fetches_steps (l : List Step) {result : Attempt AccessToken}
    (h : (i, result) ∈ (s.steps l).fetches) : (i, result) ∈ s.fetches ∨ .answer i result ∈ l := by
  induction l generalizing s with
  | nil => exact .inl h
  | cons e l ih =>
    rcases ih h with h | h
    · exact ((step_happens s e).mem_fetches h).imp_right fun he => List.mem_cons.2 (.inl he.symm)
    · exact .inr (List.mem_cons_of_mem e h)

/-! ## The slot -/

/-- A slot that holds a token holds one ever after. -/
theorem slot_steps_isSome (l : List Step) (h : s.slot.isSome = true) :
    (s.steps l).slot.isSome = true := by
  induction l generalizing s with
  | nil => exact h
  | cons e l ih =>
    apply ih
    rcases slot_step s e with heq | ⟨_, _, _, -, -, -, hstored⟩
    · rwa [heq]
    · rw [hstored]
      rfl

end Sharing

/-! ## What holds in every state -/

/-- What holds of a request, which has a number, at some time and after some fetches. -/
structure Getting.Sound (g : Getting) (now : Moment) (fetches : List (Nat × Attempt AccessToken))
    (i : Nat) : Prop where
  began : g.loadedAt.toNanos ≤ now.toNanos
  found : ∀ token, g.found = some token → ∃ j, (j, .answered token) ∈ fetches
  reused : ∀ token, g.stage = .reused token →
    g.found = some token ∧ token.isFresh? g.loadedAt = some true
  stale : g.fetches = true → ∀ token, g.found = some token → token.isFresh? now ≠ some true
  own : ∀ result, (i, result) ∈ fetches ↔ g.stage.result? = some result

namespace Getting.Sound

variable {g : Getting} {now : Moment} {fetches : List (Nat × Attempt AccessToken)} {i : Nat}

/-- The clock may move on. -/
theorem later {time : Moment} (h : g.Sound now fetches i) (htime : now.toNanos ≤ time.toNanos) :
    g.Sound time fetches i where
  began := Int.le_trans h.began htime
  found := h.found
  reused := h.reused
  -- A stale token stays so, which carries the moment of the test to all later ones.
  stale := fun hfetches token hfound hfresh =>
    h.stale hfetches token hfound (token.isFresh?_of_le htime hfresh)
  own := h.own

/-- The fetch of another request may come to its end. -/
theorem append {j : Nat} (h : g.Sound now fetches i) (hj : j ≠ i)
    (result : Attempt AccessToken) : g.Sound now (fetches ++ [(j, result)]) i where
  began := h.began
  found := fun token hfound => (h.found token hfound).imp fun _ => List.mem_append_left _
  reused := h.reused
  stale := h.stale
  own := fun result' => by
    rw [List.mem_append, List.mem_singleton, ← h.own]
    exact or_iff_left fun heq => hj (congrArg Prod.fst heq).symm

/-- What is found is looked at. -/
theorem afterTest (h : g.Sound now fetches i) (hstage : g.stage = .loaded) :
    ({ g with stage := g.afterTest now } : Getting).Sound now fetches i := by
  have hown : ∀ result, (i, result) ∈ fetches ↔ none = some result := by
    intro result
    rw [h.own, hstage]
    rfl
  rcases g.afterTest_cases now with hstage | ⟨token, hstage, hfound, hfresh⟩ | ⟨hstage, hstale⟩ <;>
    rw [hstage]
  · exact ⟨h.began, h.found, nofun, nofun, hown⟩
  · refine ⟨h.began, h.found, fun token' heq => ?_, nofun, hown⟩
    cases heq
    -- It is fresh now, and the request began before.
    exact ⟨hfound, token.isFresh?_of_le h.began hfresh⟩
  · refine ⟨h.began, h.found, nofun, fun _ token hfound hfresh => ?_, hown⟩
    rw [hstale token hfound] at hfresh
    cases hfresh

/-- A fetch may come further and still come to the same. -/
theorem fetching {fetch next : Fetch} (h : g.Sound now fetches i)
    (hstage : g.stage = .fetching fetch) (hresult : next.result? = fetch.result?) :
    ({ g with stage := .fetching next } : Getting).Sound now fetches i where
  began := h.began
  found := h.found
  reused := nofun
  stale := fun _ => h.stale (by rw [Getting.fetches, hstage])
  own := fun result => by
    rw [h.own, hstage]
    show fetch.result? = _ ↔ next.result? = _
    rw [hresult]

/-- A fetch comes to its end. -/
theorem answer (h : g.Sound now fetches i) (hstage : g.stage = .fetching .underWay)
    (result : Attempt AccessToken) :
    ({ g with stage := .fetching (.ended result) } : Getting).Sound now
      (fetches ++ [(i, result)]) i where
  began := h.began
  found := fun token hfound => (h.found token hfound).imp fun _ => List.mem_append_left _
  reused := nofun
  stale := fun _ => h.stale (by rw [Getting.fetches, hstage])
  own := fun result' => by
    have hended : (Fetch.ended result).result? = some result := by cases result <;> rfl
    show _ ↔ (Fetch.ended result).result? = some result'
    rw [hended, List.mem_append, List.mem_singleton, h.own, hstage, Prod.mk.injEq, Option.some_inj,
      eq_comm (a := result)]
    exact ⟨fun h => (h.resolve_left nofun).2, fun h => .inr ⟨rfl, h⟩⟩

end Getting.Sound

namespace Sharing

variable {s s' : Sharing} {e : Step} {i index : Nat} {g : Getting}

/-- What holds of the slot, the requests and their fetches in every state. -/
structure Sound (s : Sharing) : Prop where
  slot : ∀ token, s.slot = some token → ∃ i, (i, .answered token) ∈ s.fetches
  known : ∀ e ∈ s.fetches, e.1 < s.gettings.length
  once : (s.fetches.map Prod.fst).Nodup
  gettings : ∀ i (g : Getting), s.gettings[i]? = some g → g.Sound s.now s.fetches i

theorem sound_new (start : Moment) : ({ now := start } : Sharing).Sound where
  slot := nofun
  known := nofun
  once := List.nodup_nil
  gettings := nofun

/-- A step of one request that tells of no fetch. -/
theorem Sound.enter {stage : Stage} (h : s.Sound)
    (hsound : ({ g with stage := stage } : Getting).Sound s.now s.fetches index) :
    (s.enter index g stage).Sound where
  slot := h.slot
  known := fun e he => by
    rw [Sharing.enter, List.length_set]
    exact h.known e he
  once := h.once
  gettings := fun i g' hg' => by
    rcases getElem?_enter hg' with ⟨hg', -⟩ | ⟨rfl, rfl⟩
    · exact h.gettings i g' hg'
    · exact hsound

theorem load_sound (h : s.Sound) : (s.step .load).Sound where
  slot := h.slot
  known := fun e he => by
    rw [step, List.length_append]
    exact Nat.lt_add_right _ (h.known e he)
  once := h.once
  gettings := fun i g hg => by
    rcases getElem?_load hg with hg | ⟨rfl, rfl⟩
    · exact h.gettings i g hg
    · refine ⟨Int.le_refl _, h.slot, ?_, ?_, fun result => ⟨fun hmem => ?_, ?_⟩⟩
      · intro token hstage
        cases hstage
      · intro hfetches
        cases hfetches
      · exact absurd (h.known _ hmem) (Nat.lt_irrefl _)
      · intro hresult
        cases hresult

theorem answer_sound (h : s.Sound) (hg : s.gettings[index]? = some g)
    (hstage : g.stage = .fetching .underWay) (result : Attempt AccessToken) :
    ({ s.enter index g (.fetching (.ended result)) with
      fetches := s.fetches ++ [(index, result)] } : Sharing).Sound where
  slot := fun token hslot => (h.slot token hslot).imp fun _ => List.mem_append_left _
  known := fun e he => by
    show _ < (s.gettings.set _ _).length
    rw [List.length_set]
    rcases List.mem_append.1 he with he | he
    · exact h.known e he
    · rw [List.mem_singleton.1 he]
      exact (List.getElem?_eq_some_iff.1 hg).1
  once := by
    show ((s.fetches ++ [_]).map _).Nodup
    rw [List.map_append]
    refine List.nodup_append.2 ⟨h.once, List.pairwise_singleton _ _, fun i hi j hj => ?_⟩
    rintro rfl
    obtain rfl := List.mem_singleton.1 hj
    obtain ⟨⟨_, result'⟩, hmem, rfl⟩ := List.mem_map.1 hi
    have hresult := ((h.gettings _ g hg).own result').1 hmem
    rw [hstage] at hresult
    cases hresult
  gettings := fun i g' hg' => by
    rcases getElem?_enter hg' with ⟨hg', hi⟩ | ⟨rfl, rfl⟩
    · exact (h.gettings i g' hg').append (Ne.symm hi) result
    · exact (h.gettings i g hg).answer hstage result

/-- Every step keeps what holds of a state. -/
theorem Happens.sound (happens : Happens s e s') (h : s.Sound) : s'.Sound := by
  cases happens with
  | nothing => exact h
  | wait htime =>
    have htime := Int.le_of_lt (of_decide_eq_true htime)
    exact ⟨h.slot, h.known, h.once, fun i g hg => (h.gettings i g hg).later htime⟩
  | load => exact load_sound h
  | test hg hstage => exact h.enter ((h.gettings _ _ hg).afterTest hstage)
  | answer result hg hstage => exact answer_sound h hg hstage result
  | @store index g token hg hstage =>
    have hsound := h.gettings index g hg
    have hentered : (s.enter index g (.fetching (.stored token))).Sound :=
      h.enter (hsound.fetching hstage rfl)
    refine ⟨fun token' hslot => ⟨index, ?_⟩, hentered.known, hentered.once, hentered.gettings⟩
    obtain rfl := Option.some.inj hslot
    refine (hsound.own _).2 ?_
    rw [hstage]
    rfl
  | drop hg hstage => exact h.enter ((h.gettings _ _ hg).fetching hstage rfl)

/-- What holds after any steps. -/
theorem sound_steps (l : List Step) (h : s.Sound) : (s.steps l).Sound := by
  induction l generalizing s with
  | nil => exact h
  | cons e l ih => exact ih ((step_happens s e).sound h)

/-! ## How many fetches there are -/

/-- A request that finds a token fetches none, if all tokens are fresh to the end. -/
theorem fetches_of_isSome (h : s.Sound) (hslot : s.slot.isSome = true) (more : List Step)
    (hfresh : ∀ i token, (i, .answered token) ∈ (s.steps more).fetches →
      token.isFresh? (s.steps more).now = some true)
    (hi : s.gettings.length ≤ i) (hg : (s.steps more).gettings[i]? = some g) :
    g.fetches = false := by
  have hsound := (sound_steps more h).gettings i g hg
  have hfound : g.found.isSome = true := by
    rcases steps_getting more hg with ⟨g', hg', -⟩ | ⟨before, -, -, -, -, hfound⟩
    · exact absurd (List.getElem?_eq_some_iff.1 hg').1 (Nat.not_lt.2 hi)
    · rw [hfound]
      exact slot_steps_isSome before hslot
  obtain ⟨token, htoken⟩ := Option.isSome_iff_exists.1 hfound
  obtain ⟨j, hj⟩ := hsound.found token htoken
  rw [Bool.eq_false_iff]
  exact fun hfetches => hsound.stale hfetches token htoken (hfresh j token hj)

/-- If none but the first `n` requests fetch a token, there are at most `n` fetches. -/
theorem fetchCount_le {n : Nat}
    (h : ∀ i g, n ≤ i → s.gettings[i]? = some g → g.fetches = false) : s.fetchCount ≤ n := by
  have hdrop : (s.gettings.drop n).countP Getting.fetches = 0 := by
    rw [List.countP_eq_zero]
    intro g hg
    obtain ⟨i, hi⟩ := List.mem_iff_getElem?.1 hg
    rw [List.getElem?_drop] at hi
    rw [h _ g (Nat.le_add_right n i) hi]
    exact Bool.false_ne_true
  rw [fetchCount, ← List.take_append_drop n s.gettings, List.countP_append, hdrop]
  exact Nat.le_trans List.countP_le_length (List.length_take_le n _)

/-! ## One request -/

/-- A request that is not over has a step, and waits for nothing but its own fetch. -/
theorem over_or_proceeds (hg : s.gettings[i]? = some g) (result : Attempt AccessToken) :
    g.stage.isOver = true ∨ ∃ e ∈ [Step.test i, .answer i result, .store i],
      ∃ g', (s.step e).gettings[i]? = some g' ∧ g'.stage.left < g.stage.left := by
  have hentered (stage : Stage) : (s.enter i g stage).gettings[i]? =
      some { g with stage := stage } :=
    List.getElem?_set_self (List.getElem?_eq_some_iff.1 hg).1
  cases hstage : g.stage with
  | reused | unclear => exact .inl rfl
  | loaded =>
    refine .inr ⟨.test i, by simp, { g with stage := g.afterTest s.now }, ?_, ?_⟩
    · rw [step, hg]
      dsimp only
      rw [if_pos hstage]
      exact hentered _
    · show (g.afterTest s.now).left < 3
      rcases g.afterTest_cases s.now with h | ⟨_, h, -⟩ | ⟨h, -⟩ <;> rw [h]
      · exact Nat.zero_lt_succ 2
      · exact Nat.zero_lt_succ 2
      · exact Nat.lt_succ_self 2
  | fetching fetch =>
    cases fetch with
    | stored | failed | crashed | dropped => exact .inl rfl
    | underWay =>
      refine .inr ⟨.answer i result, by simp, { g with stage := .fetching (.ended result) }, ?_, ?_⟩
      · rw [step, hg]
        dsimp only
        rw [if_pos hstage]
        exact hentered _
      · cases result <;> simp [Stage.left, Fetch.ended]
    | returned token =>
      refine .inr ⟨.store i, by simp, { g with stage := .fetching (.stored token) }, ?_, ?_⟩
      · rw [step, hg]
        dsimp only
        rw [hstage]
        exact hentered _
      · simp [Stage.left]

/-- A state with one more request, which has come to a stage. -/
def adding (s : Sharing) (stage : Stage) : Sharing :=
  { s with gettings := s.gettings ++ [{ loadedAt := s.now, found := s.slot, stage := stage }] }

theorem getElem?_adding (s : Sharing) (stage : Stage) :
    (s.adding stage).gettings[s.gettings.length]? = some ⟨s.now, s.slot, stage⟩ :=
  List.getElem?_concat_length

theorem enter_adding (s : Sharing) (stage next : Stage) :
    (s.adding stage).enter s.gettings.length ⟨s.now, s.slot, stage⟩ next = s.adding next := by
  rw [enter, adding, List.set_append_right _ _ (Nat.le_refl _), Nat.sub_self]
  rfl

section Alone

variable {σ : Type} {t : Tokens σ} {st : σ}

/-- A request that has to fetch a token gets what `Tokens.refresh` gives. -/
theorem refresh_alone (hstore : ∀ token st, t.load (t.store token st) = some token)
    (hfetch : ∀ st, t.load (t.fetch st).2 = t.load st) (hload : t.load st = s.slot) :
    let n := s.gettings.length
    let s' := (s.adding (.fetching .underWay)).steps [.answer n (t.fetch st).1, .store n]
    s'.slot = t.load (t.refresh st).2 ∧
      s'.gettings[n]?.bind (·.stage.ending?) = some (t.refresh st).1 := by
  intro n s'
  have hanswer (result : Attempt AccessToken) :
      (s.adding (.fetching .underWay)).step (.answer n result) =
        ({ s with fetches := s.fetches ++ [(n, result)] } : Sharing).adding
          (.fetching (.ended result)) := by
    rw [step, getElem?_adding]
    exact (if_pos rfl).trans (by rw [enter_adding]; rfl)
  have hslot := (hfetch st).trans hload
  rw [show s' = ((s.adding (.fetching .underWay)).step (.answer n (t.fetch st).1)).step (.store n)
    from rfl, hanswer]
  generalize hr : ({ s with fetches := s.fetches ++ [(n, (t.fetch st).1)] } : Sharing) = r
  have hrslot : r.slot = s.slot := hr ▸ rfl
  have hrlength : n = r.gettings.length := hr ▸ rfl
  rw [Tokens.refresh, hrlength, step, getElem?_adding]
  cases hfetched : t.fetch st with
  | mk result st' =>
    rw [hfetched] at hslot
    cases result with
    | answered token =>
      dsimp only [Fetch.ended]
      rw [enter_adding, hstore, getElem?_adding]
      exact ⟨rfl, rfl⟩
    | failed | crashed =>
      dsimp only [Fetch.ended]
      rw [getElem?_adding]
      exact ⟨hrslot.trans hslot.symm, rfl⟩

/-- A request whose steps nothing comes between gets what `Tokens.get` gives. -/
theorem get_alone (hstore : ∀ token st, t.load (t.store token st) = some token)
    (hfetch : ∀ st, t.load (t.fetch st).2 = t.load st) (hnow : t.now st = s.now)
    (hload : t.load st = s.slot) :
    let n := s.gettings.length
    let s' := s.steps [.load, .test n, .answer n (t.fetch st).1, .store n]
    s'.slot = t.load (t.get st).2 ∧
      s'.gettings[n]?.bind (·.stage.ending?) = some (t.get st).1 := by
  intro n s'
  have htest : (s.adding .loaded).step (.test n) =
      s.adding (Getting.afterTest ⟨s.now, s.slot, .loaded⟩ s.now) := by
    rw [step, getElem?_adding]
    exact (if_pos rfl).trans (enter_adding _ _ _)
  have hs' : s' = (s.adding (Getting.afterTest ⟨s.now, s.slot, .loaded⟩ s.now)).steps
      [.answer n (t.fetch st).1, .store n] := by
    rw [← htest]
    rfl
  have hover {stage : Stage} (hstage : stage.isOver = true) :
      (s.adding stage).steps [.answer n (t.fetch st).1, .store n] = s.adding stage := by
    have hg := getElem?_adding s stage
    rw [steps, List.foldl_cons, List.foldl_cons, List.foldl_nil,
      (step_happens _ _).eq_of_over rfl hg hstage, (step_happens _ _).eq_of_over rfl hg hstage]
  rw [hs', Getting.afterTest, Tokens.get, hload, hnow]
  cases hslot : s.slot with
  | none => exact refresh_alone hstore hfetch hload
  | some token =>
    dsimp only
    cases token.isFresh? s.now with
    | none =>
      dsimp only
      rw [hover rfl, getElem?_adding, hload]
      exact ⟨rfl, rfl⟩
    | some fresh =>
      cases fresh with
      | false => exact refresh_alone hstore hfetch hload
      | true =>
        dsimp only
        rw [hover rfl, getElem?_adding, hload]
        exact ⟨rfl, rfl⟩

end Alone

/-! ## Results -/

/-- What the slot, the users and their fetches have come to after some steps. -/
structure Shares (start : Sharing) (l : List Step) (s : Sharing) : Prop where
  /-- A request found what was in the slot when it began, and tells when that was. -/
  loads : ∀ i g, s.gettings[i]? = some g → ∃ before after, l = before ++ .load :: after ∧
    (start.steps before).gettings.length = i ∧ g.loadedAt = (start.steps before).now ∧
    g.found = (start.steps before).slot
  /-- What a fetch came to was an answer to it. -/
  answers : ∀ i result, (i, result) ∈ s.fetches → .answer i result ∈ l
  /-- Each request has at most one fetch. -/
  once : (s.fetches.map Prod.fst).Nodup ∧ s.fetchCount ≤ s.gettings.length
  /-- The slot is empty or holds a token that a fetch returned. -/
  slot : ∀ token, s.slot = some token → ∃ i, (i, .answered token) ∈ s.fetches
  /-- Only a token that the own fetch of a request returned is stored, and nothing else that happens
      changes the slot. -/
  stores : ∀ e, (s.step e).slot = s.slot ∨
    ∃ i token, e = .store i ∧ (i, .answered token) ∈ s.fetches ∧ (s.step e).slot = some token
  /-- A slot that holds a token holds one ever after. -/
  filled : s.slot.isSome = true → ∀ more, (s.steps more).slot.isSome = true
  /-- A user gets the token that was found, which was fresh then, or that of the own fetch. -/
  got : ∀ i g token, s.gettings[i]? = some g → g.stage.ending? = some (.answered token) →
    g.fetches = false ∧ g.found = some token ∧ token.isFresh? g.loadedAt = some true ∨
      (i, .answered token) ∈ s.fetches
  /-- A user gets the error of the own fetch, and no other. -/
  failed : ∀ i g error, s.gettings[i]? = some g →
    (g.stage.ending? = some (.failed error) ↔ (i, .failed error) ∈ s.fetches)
  /-- A fetch that was dropped comes to nothing. -/
  dropped : ∀ i g, s.gettings[i]? = some g → g.stage = .fetching .dropped →
    ∀ result, (i, result) ∉ s.fetches
  /-- No request feels the steps of another, and one that is over stays so. -/
  apart : ∀ i g, s.gettings[i]? = some g →
    (∀ e, e.index? ≠ some i → (s.step e).gettings[i]? = some g) ∧
    (g.stage.isOver = true → ∀ more, (s.steps more).gettings[i]? = some g)
  /-- A request that is not over has a step, and waits for nothing but its own fetch. -/
  proceeds : ∀ i g result, s.gettings[i]? = some g → g.stage.isOver = true ∨
    ∃ e ∈ [Step.test i, .answer i result, .store i],
      ∃ g', (s.step e).gettings[i]? = some g' ∧ g'.stage.left < g.stage.left
  /-- If all tokens are fresh to the end, only those fetch one who came before the slot held any. -/
  economical : s.slot.isSome = true → ∀ more,
    (∀ i token, (i, .answered token) ∈ (s.steps more).fetches →
      token.isFresh? (s.steps more).now = some true) →
    (∀ i g, s.gettings.length ≤ i → (s.steps more).gettings[i]? = some g → g.fetches = false) ∧
      (s.steps more).fetchCount ≤ s.gettings.length
  /-- A request whose steps nothing comes between gets what `Tokens.get` gives. -/
  alone : ∀ {σ : Type} (t : Tokens σ) (st : σ),
    (∀ token st, t.load (t.store token st) = some token) →
    (∀ st, t.load (t.fetch st).2 = t.load st) → t.now st = s.now → t.load st = s.slot →
    let n := s.gettings.length
    let s' := s.steps [.load, .test n, .answer n (t.fetch st).1, .store n]
    s'.slot = t.load (t.get st).2 ∧ s'.gettings[n]?.bind (·.stage.ending?) = some (t.get st).1

/-- What users get and what the slot holds does not depend on the order of their steps, nor on when
    their fetches end, fail or are dropped, nor on how the clock moves. -/
theorem steps_share (now : Moment) (l : List Step) :
    Shares { now := now } l (({ now := now } : Sharing).steps l) := by
  have h := sound_steps l (sound_new now)
  have hloads := fun i g => steps_getting (s := { now := now }) (i := i) (g := g) l
  have hanswers : ∀ i result, (i, result) ∈ (({ now := now } : Sharing).steps l).fetches →
      .answer i result ∈ l :=
    fun i result hmem => (mem_fetches_steps l hmem).resolve_left nofun
  generalize ({ now := now } : Sharing).steps l = s at h hloads hanswers
  constructor
  case loads =>
    intro i g hg
    exact (hloads i g hg).resolve_left fun ⟨_, hnone, _⟩ => nomatch hnone
  case answers => exact hanswers
  case once => exact ⟨h.once, List.countP_le_length⟩
  case slot => exact h.slot
  case stores =>
    intro e
    refine (slot_step s e).imp_right ?_
    rintro ⟨i, g, token, rfl, hg, hstage, hslot⟩
    refine ⟨i, token, rfl, ?_, hslot⟩
    rw [(h.gettings i g hg).own, hstage]
    rfl
  case filled => exact fun hslot more => slot_steps_isSome more hslot
  case got =>
    intro i g token hg hending
    have hsound := h.gettings i g hg
    refine (Stage.ending?_answered hending).imp (fun hstage => ?_) (hsound.own _).2
    exact ⟨by rw [Getting.fetches, hstage], hsound.reused token hstage⟩
  case failed =>
    intro i g error hg
    rw [(h.gettings i g hg).own, Stage.ending?_failed]
  case dropped =>
    intro i g hg hstage result
    rw [(h.gettings i g hg).own, hstage]
    exact nofun
  case apart =>
    intro i g hg
    exact ⟨fun e he => (step_happens s e).other he hg, fun hover more => steps_over more hg hover⟩
  case proceeds => exact fun i g result hg => over_or_proceeds hg result
  case economical =>
    intro hslot more hfresh
    have hnone := fun i g hi => fetches_of_isSome (i := i) (g := g) h hslot more hfresh hi
    exact ⟨hnone, fetchCount_le hnone⟩
  case alone => exact fun t st hstore hfetch hnow hload => get_alone hstore hfetch hnow hload

/-- Three users find the slot empty. One fetch is dropped, one fails, and who comes later uses the
    token of the third. -/
example :
    let token : AccessToken := ⟨"a", "Bearer", Moment.ofNanos (100 * nanosPerSecond)⟩
    let s := ({ now := Moment.ofNanos 0 } : Sharing).steps
      [.load, .load, .test 1, .load, .test 0, .test 2, .answer 1 (.failed .timeout), .drop 0,
        .answer 2 (.answered token), .store 2, .load, .test 3]
    s.slot = some token ∧ s.fetchCount = 3 ∧ s.gettings.map (·.stage.ending?) =
      [none, some (.failed .timeout), some (.answered token), some (.answered token)] :=
  ⟨rfl, rfl, rfl⟩

end Sharing

end OAuth

end Courier
