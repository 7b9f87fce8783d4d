import Courier.Certificate.Capabilities
import Courier.Proofs.Conversion.Envelope
import Courier.Proofs.Fallible
import Mathlib.Data.List.Forall2

/-!
# What a bundle of certificates allows

The capabilities of a bundle are gathered block by block and extension by extension. What is
gathered is the union of what all extensions say: each capability is there exactly if some extension
of some certificate grants it. So neither the order of the blocks nor that of the extensions
matters, and two bundles together allow what either allows.

Results:

* `Capabilities.Gathers.apply`, `Capabilities.Gathers.foldlM_apply`: what one more extension adds,
  and what all of them make.
* `Capabilities.Gathers.ext`: extensions determine the capabilities, whatever their order.
* `Capabilities.ofBlocks_eq_ok_iff`: a bundle is read as one list of extensions.
* `Capabilities.ofBlocks_gathers`: which bundles are read, and what they allow.
-/

namespace Courier

/-! ## Extensions -/

/-- Whether an extension lists a topic. -/
def Extension.Lists (e : Extension) (topic : String) : Prop :=
  e.oid = Capabilities.topicsOid ∧ ∃ topics, Topics.extract e.value = .ok topics ∧ topic ∈ topics

/-- Whether the topic list in an extension can be read, if it holds one. -/
def Extension.IsReadable (e : Extension) : Prop :=
  e.oid = Capabilities.topicsOid → ∃ topics, Topics.extract e.value = .ok topics

namespace Capabilities

variable {c c' : Capabilities} {l l' : List Extension}

/-- Whether capabilities are what extensions say, all of it and nothing else. -/
structure Gathers (c : Capabilities) (extensions : List Extension) : Prop where
  isSandbox_iff : c.isSandbox = true ↔ ∃ e ∈ extensions, e.oid = developmentOid
  supportsProduction_iff : c.supportsProduction = true ↔ ∃ e ∈ extensions, e.oid = productionOid
  supportsVoip_iff : c.supportsVoip = true ↔ ∃ e ∈ extensions, e.oid = voipOid
  contains_iff : ∀ topic,
    c.allowedTopics.contains topic = true ↔ ∃ e ∈ extensions, e.Lists topic

theorem gathers_nil : Gathers {} [] := by
  refine ⟨?_, ?_, ?_, fun topic => ?_⟩ <;> simp [Dict.contains]

/-- Extensions determine the capabilities, whatever their order and however often each occurs. -/
theorem Gathers.ext (h : c.Gathers l) (h' : c'.Gathers l') (hl : ∀ e, e ∈ l ↔ e ∈ l') : c = c' := by
  have hsame : ∀ P : Extension → Prop, (∃ e ∈ l, P e) ↔ ∃ e ∈ l', P e := by
    intro P
    simp only [hl]
  have hsandbox : c.isSandbox = c'.isSandbox :=
    Bool.eq_iff_iff.2 (h.isSandbox_iff.trans ((hsame _).trans h'.isSandbox_iff.symm))
  have hproduction : c.supportsProduction = c'.supportsProduction :=
    Bool.eq_iff_iff.2
      (h.supportsProduction_iff.trans ((hsame _).trans h'.supportsProduction_iff.symm))
  have hvoip : c.supportsVoip = c'.supportsVoip :=
    Bool.eq_iff_iff.2 (h.supportsVoip_iff.trans ((hsame _).trans h'.supportsVoip_iff.symm))
  have htopics : c.allowedTopics = c'.allowedTopics :=
    Dict.ext_contains fun topic =>
      (h.contains_iff topic).trans ((hsame _).trans (h'.contains_iff topic).symm)
  cases c
  cases c'
  simp_all

theorem contains_addTopics (c : Capabilities) (topics : List String) (topic : String) :
    (c.addTopics topics).allowedTopics.contains topic = true ↔
      topic ∈ topics ∨ c.allowedTopics.contains topic = true := by
  show (topics.foldl (fun d t => d.insert t ()) c.allowedTopics).contains topic = true ↔ _
  generalize c.allowedTopics = d
  induction topics generalizing d with
  | nil => simp
  | cons t topics ih =>
    rw [List.foldl_cons, ih, Dict.contains_insert, List.mem_cons]
    tauto

/-! ## One extension -/

theorem exists_apply_iff (c : Capabilities) (e : Extension) :
    (∃ c', c.apply e = .ok c') ↔ e.IsReadable := by
  unfold apply Extension.IsReadable
  split
  · rename_i hoid
    simp [hoid, developmentOid, topicsOid]
  · split
    · rename_i hoid
      simp [hoid, productionOid, topicsOid]
    · split
      · rename_i hoid
        simp [hoid, voipOid, topicsOid]
      · split
        · rename_i hoid
          cases Topics.extract e.value <;> simp [hoid, Except.map]
        · rename_i hoid
          simp [hoid]

/-- What one extension adds: the capability that it names, or the topics that it lists. -/
theorem apply_adds {e : Extension} (h : c.apply e = .ok c') :
    (c'.isSandbox = true ↔ c.isSandbox = true ∨ e.oid = developmentOid) ∧
      (c'.supportsProduction = true ↔ c.supportsProduction = true ∨ e.oid = productionOid) ∧
      (c'.supportsVoip = true ↔ c.supportsVoip = true ∨ e.oid = voipOid) ∧
      ∀ topic, c'.allowedTopics.contains topic = true ↔
        c.allowedTopics.contains topic = true ∨ e.Lists topic := by
  have hproduction : productionOid ≠ developmentOid := by decide
  have hvoip : voipOid ≠ developmentOid ∧ voipOid ≠ productionOid := by decide
  have htopics : topicsOid ≠ developmentOid ∧ topicsOid ≠ productionOid ∧ topicsOid ≠ voipOid := by
    decide
  unfold Extension.Lists
  unfold apply at h
  split at h
  · rename_i hoid
    cases h
    simp [hoid, hproduction.symm, hvoip.1.symm, htopics.1.symm]
  · split at h
    · rename_i hoid
      cases h
      simp [hoid, hproduction, hvoip.2.symm, htopics.2.1.symm]
    · split at h
      · rename_i hoid
        cases h
        simp [hoid, hvoip, htopics.2.2.symm]
      · split at h
        · rename_i hoid
          cases hread : Topics.extract e.value with
          | error error => rw [hread] at h; cases h
          | ok topics =>
            rw [hread] at h
            cases h
            have hflags : (c.addTopics topics).isSandbox = c.isSandbox ∧
                (c.addTopics topics).supportsProduction = c.supportsProduction ∧
                (c.addTopics topics).supportsVoip = c.supportsVoip := ⟨rfl, rfl, rfl⟩
            simp [hoid, htopics, hflags, contains_addTopics, or_comm]
        · cases h
          simp_all

theorem exists_mem_concat_iff {P : Extension → Prop} (l : List Extension) (e : Extension) :
    (∃ x ∈ l ++ [e], P x) ↔ (∃ x ∈ l, P x) ∨ P e := by
  simp [or_and_right, exists_or]

/-- What is gathered from one more extension. -/
theorem Gathers.apply {e : Extension} (h : c.Gathers l) (happly : c.apply e = .ok c') :
    c'.Gathers (l ++ [e]) := by
  obtain ⟨hsandbox, hproduction, hvoip, htopics⟩ := apply_adds happly
  constructor
  · rw [hsandbox, h.isSandbox_iff, exists_mem_concat_iff]
  · rw [hproduction, h.supportsProduction_iff, exists_mem_concat_iff]
  · rw [hvoip, h.supportsVoip_iff, exists_mem_concat_iff]
  · intro topic
    rw [htopics, h.contains_iff, exists_mem_concat_iff]

/-! ## Many extensions -/

/-- What is gathered from more extensions. -/
theorem Gathers.foldlM_apply (h : c.Gathers l) (hfold : l'.foldlM Capabilities.apply c = .ok c') :
    c'.Gathers (l ++ l') := by
  induction l' generalizing c l with
  | nil =>
    cases hfold
    rw [List.append_nil]
    exact h
  | cons e l' ih =>
    rw [List.foldlM_cons, bind_eq_ok_iff] at hfold
    obtain ⟨next, happly, hfold⟩ := hfold
    have hrest := ih (h.apply happly) hfold
    rwa [List.append_assoc, List.singleton_append] at hrest

theorem exists_foldlM_apply_iff (c : Capabilities) (l : List Extension) :
    (∃ c', l.foldlM apply c = .ok c') ↔ ∀ e ∈ l, e.IsReadable :=
  exists_foldlM_ok_iff exists_apply_iff l c

/-! ## Bundles -/

variable (read : List UInt8 → Option Certificate)

/-- The certificate in a block, if it is labelled as one and can be read. -/
def certificate? : Option Pem.Block → Option Certificate
  | some block => if block.label = certificateLabel then read block.bytes else none
  | none => none

/-- The extensions of all certificates of a bundle. -/
def extensions (blocks : List (Option Pem.Block)) : List Extension :=
  (blocks.filterMap (certificate? read)).flatMap (·.extensions)

/-- Whether a block can be read, and is a certificate if it is labelled as one. -/
def IsReadableBlock (block : Option Pem.Block) : Prop :=
  ∃ b, block = some b ∧
    (b.label = certificateLabel → ∃ certificate, read b.bytes = some certificate)

theorem extensions_cons (block : Option Pem.Block) (blocks : List (Option Pem.Block)) :
    extensions read (block :: blocks) =
      ((certificate? read block).elim [] (·.extensions)) ++ extensions read blocks := by
  unfold extensions
  rw [List.filterMap_cons]
  cases certificate? read block <;> simp

/-- A block adds what the extensions of its certificate say. -/
theorem applyBlock_eq_ok_iff (c c' : Capabilities) (block : Option Pem.Block) :
    applyBlock read c block = .ok c' ↔ IsReadableBlock read block ∧
      ((certificate? read block).elim [] (·.extensions)).foldlM apply c = .ok c' := by
  cases block with
  | none => simp [applyBlock, IsReadableBlock]
  | some b =>
    by_cases hlabel : b.label = certificateLabel
    · cases hread : read b.bytes with
      | none => simp [applyBlock, IsReadableBlock, hlabel, hread]
      | some certificate =>
        simp [applyBlock, IsReadableBlock, certificate?, hlabel, hread, mapError_eq_ok_iff]
    · simp [applyBlock, IsReadableBlock, certificate?, hlabel, pure, Except.pure]

theorem foldlM_applyBlock_eq_ok_iff (c c' : Capabilities) (blocks : List (Option Pem.Block)) :
    blocks.foldlM (applyBlock read) c = .ok c' ↔
      (∀ block ∈ blocks, IsReadableBlock read block) ∧
        (extensions read blocks).foldlM apply c = .ok c' := by
  induction blocks generalizing c with
  | nil =>
    constructor
    · rintro ⟨⟩
      exact ⟨fun _ h => absurd h List.not_mem_nil, rfl⟩
    · rintro ⟨-, ⟨⟩⟩
      rfl
  | cons block blocks ih =>
    rw [List.foldlM_cons, bind_eq_ok_iff, List.forall_mem_cons, extensions_cons,
      List.foldlM_append, bind_eq_ok_iff]
    simp only [applyBlock_eq_ok_iff, ih]
    constructor
    · rintro ⟨next, ⟨hblock, hfirst⟩, hblocks, hrest⟩
      exact ⟨⟨hblock, hblocks⟩, next, hfirst, hrest⟩
    · rintro ⟨⟨hblock, hblocks⟩, next, hfirst, hrest⟩
      exact ⟨next, ⟨hblock, hfirst⟩, hblocks, hrest⟩

/-- A bundle is read as one list of extensions, if all blocks can be read and one is a
    certificate. -/
theorem ofBlocks_eq_ok_iff (c : Capabilities) (blocks : List (Option Pem.Block)) :
    ofBlocks read blocks = .ok c ↔
      (∀ block ∈ blocks, IsReadableBlock read block) ∧ blocks.any isCertificate = true ∧
        (extensions read blocks).foldlM apply {} = .ok c := by
  unfold ofBlocks
  rw [bind_eq_ok_iff]
  simp only [foldlM_applyBlock_eq_ok_iff]
  constructor
  · rintro ⟨c', ⟨hblocks, hfold⟩, h⟩
    split at h
    · rename_i hany
      cases h
      exact ⟨hblocks, hany, hfold⟩
    · cases h
  · rintro ⟨hblocks, hany, hfold⟩
    exact ⟨c, ⟨hblocks, hfold⟩, if_pos hany⟩

/-- Whether a bundle is in order: all its blocks can be read, those labelled as certificates are
    certificates, there is one, and all topic lists can be read. -/
structure IsValid (blocks : List (Option Pem.Block)) : Prop where
  none_not_mem : none ∉ blocks
  certificates : ∀ b, some b ∈ blocks → b.label = certificateLabel →
    ∃ certificate, read b.bytes = some certificate
  exists_certificate : ∃ b, some b ∈ blocks ∧ b.label = certificateLabel
  topics : ∀ e ∈ extensions read blocks, e.IsReadable

theorem forall_isReadableBlock_iff (blocks : List (Option Pem.Block)) :
    (∀ block ∈ blocks, IsReadableBlock read block) ↔ none ∉ blocks ∧
      ∀ b, some b ∈ blocks → b.label = certificateLabel →
        ∃ certificate, read b.bytes = some certificate := by
  constructor
  · intro h
    refine ⟨fun hnone => ?_, fun b hb hlabel => ?_⟩
    · obtain ⟨b, hb, -⟩ := h none hnone
      cases hb
    · obtain ⟨_, ⟨⟩, hread⟩ := h (some b) hb
      exact hread hlabel
  · rintro ⟨hnone, hread⟩ block hblock
    cases block with
    | none => exact absurd hblock hnone
    | some b => exact ⟨b, rfl, hread b hblock⟩

theorem any_isCertificate_iff (blocks : List (Option Pem.Block)) :
    blocks.any isCertificate = true ↔ ∃ b, some b ∈ blocks ∧ b.label = certificateLabel := by
  rw [List.any_eq_true]
  constructor
  · rintro ⟨block, hblock, h⟩
    cases block with
    | none => cases h
    | some b => exact ⟨b, hblock, by simpa [isCertificate] using h⟩
  · rintro ⟨b, hb, hlabel⟩
    exact ⟨some b, hb, by simp [isCertificate, hlabel]⟩

variable {read} {blocks blocks' : List (Option Pem.Block)}

/-- The capabilities of a bundle in order are what its extensions say. -/
theorem ofBlocks_eq_ok_iff_gathers :
    ofBlocks read blocks = .ok c ↔ IsValid read blocks ∧ c.Gathers (extensions read blocks) := by
  rw [ofBlocks_eq_ok_iff, forall_isReadableBlock_iff, any_isCertificate_iff]
  constructor
  · rintro ⟨⟨hnone, hread⟩, hcertificate, hfold⟩
    have htopics := (exists_foldlM_apply_iff {} (extensions read blocks)).1 ⟨c, hfold⟩
    exact ⟨⟨hnone, hread, hcertificate, htopics⟩, gathers_nil.foldlM_apply hfold⟩
  · rintro ⟨hvalid, hgathers⟩
    obtain ⟨c', hfold⟩ := (exists_foldlM_apply_iff {} (extensions read blocks)).2 hvalid.topics
    have hsame : c' = c := (gathers_nil.foldlM_apply hfold).ext hgathers fun _ => Iff.rfl
    subst hsame
    exact ⟨⟨hvalid.none_not_mem, hvalid.certificates⟩, hvalid.exists_certificate, hfold⟩

theorem exists_ofBlocks_iff : (∃ c, ofBlocks read blocks = .ok c) ↔ IsValid read blocks := by
  constructor
  · rintro ⟨c, h⟩
    exact (ofBlocks_eq_ok_iff_gathers.1 h).1
  · intro hvalid
    obtain ⟨c, hfold⟩ := (exists_foldlM_apply_iff {} (extensions read blocks)).2 hvalid.topics
    exact ⟨c, ofBlocks_eq_ok_iff_gathers.2 ⟨hvalid, gathers_nil.foldlM_apply hfold⟩⟩

/-! ## Order -/

/-- Whether two blocks differ at most in the order of the extensions of a certificate. -/
structure AreAlike (read : List UInt8 → Option Certificate) (block block' : Option Pem.Block) :
    Prop where
  label_eq : block.map (·.label) = block'.map (·.label)
  extensions_perm : Option.Rel (fun a a' => a.extensions.Perm a'.extensions)
    (certificate? read block) (certificate? read block')

theorem AreAlike.isReadableBlock {block block' : Option Pem.Block}
    (h : AreAlike read block block') (hblock : IsReadableBlock read block) :
    IsReadableBlock read block' := by
  obtain ⟨b, rfl, hread⟩ := hblock
  obtain ⟨hlabel, hperm⟩ := h
  cases block' with
  | none => cases hlabel
  | some b' =>
    have hlabel : b.label = b'.label := Option.some.inj hlabel
    refine ⟨b', rfl, fun hb' => ?_⟩
    obtain ⟨certificate, hcertificate⟩ := hread (hlabel.trans hb')
    simp only [certificate?, hlabel.trans hb', hb', if_true, hcertificate] at hperm
    cases hother : read b'.bytes with
    | none => rw [hother] at hperm; cases hperm
    | some certificate' => exact ⟨certificate', rfl⟩

theorem AreAlike.isCertificate_eq {block block' : Option Pem.Block}
    (h : AreAlike read block block') : isCertificate block = isCertificate block' := by
  have hany : ∀ block : Option Pem.Block,
      isCertificate block = (block.map (·.label)).any fun l => l = certificateLabel := by
    intro block
    cases block <;> rfl
  rw [hany, hany, h.label_eq]

theorem AreAlike.extensions_elim_perm {block block' : Option Pem.Block}
    (h : AreAlike read block block') :
    ((certificate? read block).elim [] (·.extensions)).Perm
      ((certificate? read block').elim [] (·.extensions)) := by
  have hperm := h.extensions_perm
  generalize certificate? read block = certificate at hperm
  generalize certificate? read block' = certificate' at hperm
  cases hperm with
  | none => exact .refl _
  | some hperm => exact hperm

theorem extensions_alike (h : List.Forall₂ (AreAlike read) blocks blocks') :
    (extensions read blocks).Perm (extensions read blocks') := by
  induction h with
  | nil => exact .refl _
  | cons hfirst _ ih =>
    rw [extensions_cons, extensions_cons]
    exact hfirst.extensions_elim_perm.append ih

theorem extensions_perm (h : blocks.Perm blocks') :
    (extensions read blocks).Perm (extensions read blocks') :=
  (h.filterMap _).flatMap_right _

/-- A bundle whose blocks can be read allows what any other one with the same extensions does. -/
theorem ofBlocks_of_extensions_perm (h : ofBlocks read blocks = .ok c)
    (hblocks : ∀ block ∈ blocks', IsReadableBlock read block)
    (hany : blocks'.any isCertificate = true)
    (hperm : (extensions read blocks).Perm (extensions read blocks')) :
    ofBlocks read blocks' = .ok c := by
  obtain ⟨-, -, hfold⟩ := (ofBlocks_eq_ok_iff read c blocks).1 h
  have hreadable := (exists_foldlM_apply_iff {} _).1 ⟨c, hfold⟩
  obtain ⟨c', hfold'⟩ := (exists_foldlM_apply_iff {} (extensions read blocks')).2 fun e he =>
    hreadable e (hperm.mem_iff.2 he)
  have hsame : c' = c := (gathers_nil.foldlM_apply hfold').ext (gathers_nil.foldlM_apply hfold)
    fun e => hperm.mem_iff.symm
  subst hsame
  exact (ofBlocks_eq_ok_iff read c' blocks').2 ⟨hblocks, hany, hfold'⟩

theorem ofBlocks_alike (h : ofBlocks read blocks = .ok c)
    (halike : List.Forall₂ (AreAlike read) blocks blocks') : ofBlocks read blocks' = .ok c := by
  obtain ⟨hblocks, hany, -⟩ := (ofBlocks_eq_ok_iff read c blocks).1 h
  refine ofBlocks_of_extensions_perm h ?_ ?_ (extensions_alike halike)
  · clear h hany
    induction halike with
    | nil => exact hblocks
    | cons hfirst _ ih =>
      rw [List.forall_mem_cons] at hblocks ⊢
      exact ⟨hfirst.isReadableBlock hblocks.1, ih hblocks.2⟩
  · rw [← hany]
    clear h hblocks hany
    induction halike with
    | nil => rfl
    | cons hfirst _ ih => rw [List.any_cons, List.any_cons, hfirst.isCertificate_eq, ih]

theorem ofBlocks_perm (h : ofBlocks read blocks = .ok c) (hperm : blocks.Perm blocks') :
    ofBlocks read blocks' = .ok c := by
  obtain ⟨hblocks, hany, -⟩ := (ofBlocks_eq_ok_iff read c blocks).1 h
  refine ofBlocks_of_extensions_perm h ?_ ?_ (extensions_perm hperm)
  · intro block hblock
    exact hblocks block (hperm.mem_iff.2 hblock)
  · rw [← hany, hperm.any_eq]

/-! ## Two bundles -/

/-- What is allowed by one of two. -/
def join (c d : Capabilities) : Capabilities where
  isSandbox := c.isSandbox || d.isSandbox
  supportsVoip := c.supportsVoip || d.supportsVoip
  supportsProduction := c.supportsProduction || d.supportsProduction
  allowedTopics := (c.addTopics d.allowedTopics.keys).allowedTopics

theorem Gathers.join (h : c.Gathers l) (h' : c'.Gathers l') : (c.join c').Gathers (l ++ l') := by
  have hsome : ∀ P : Extension → Prop,
      (∃ e ∈ l ++ l', P e) ↔ (∃ e ∈ l, P e) ∨ ∃ e ∈ l', P e := by
    intro P
    simp only [List.mem_append, or_and_right, exists_or]
  constructor
  · rw [hsome, ← h.isSandbox_iff, ← h'.isSandbox_iff]
    exact Bool.or_eq_true_iff
  · rw [hsome, ← h.supportsProduction_iff, ← h'.supportsProduction_iff]
    exact Bool.or_eq_true_iff
  · rw [hsome, ← h.supportsVoip_iff, ← h'.supportsVoip_iff]
    exact Bool.or_eq_true_iff
  · intro topic
    rw [hsome, ← h.contains_iff, ← h'.contains_iff, Dict.contains_iff_mem_keys c'.allowedTopics,
      or_comm]
    exact contains_addTopics c _ topic

theorem extensions_append (blocks blocks' : List (Option Pem.Block)) :
    extensions read (blocks ++ blocks') = extensions read blocks ++ extensions read blocks' := by
  simp [extensions]

/-- Two bundles together allow what one of them allows. -/
theorem ofBlocks_append (h : ofBlocks read blocks = .ok c) (h' : ofBlocks read blocks' = .ok c') :
    ofBlocks read (blocks ++ blocks') = .ok (c.join c') := by
  obtain ⟨hvalid, hgathers⟩ := ofBlocks_eq_ok_iff_gathers.1 h
  obtain ⟨hvalid', hgathers'⟩ := ofBlocks_eq_ok_iff_gathers.1 h'
  refine ofBlocks_eq_ok_iff_gathers.2 ⟨?_, ?_⟩
  · constructor
    · simp [hvalid.none_not_mem, hvalid'.none_not_mem]
    · intro b hb
      exact (List.mem_append.1 hb).elim (hvalid.certificates b) (hvalid'.certificates b)
    · obtain ⟨b, hb, hlabel⟩ := hvalid.exists_certificate
      exact ⟨b, List.mem_append_left _ hb, hlabel⟩
    · rw [extensions_append]
      intro e he
      exact (List.mem_append.1 he).elim (hvalid.topics e) (hvalid'.topics e)
  · rw [extensions_append]
    exact hgathers.join hgathers'

/-! ## What follows -/

theorem checkTopic_some_iff (c : Capabilities) (topic : String) :
    c.checkTopic (some topic) = .ok () ↔
      (∀ other, ¬ c.allowedTopics.contains other = true) ∨
        c.allowedTopics.contains topic = true := by
  have hempty : c.allowedTopics.isEmpty = true ↔
      ∀ other, ¬ c.allowedTopics.contains other = true := by
    rw [Dict.isEmpty_iff_keys, List.eq_nil_iff_forall_not_mem]
    simp only [Dict.contains_iff_mem_keys]
  rw [← hempty, ← Bool.or_eq_true_iff, checkTopic]
  constructor
  · intro h
    by_contra hnot
    rw [if_neg hnot] at h
    cases h
  · intro h
    exact if_pos h

theorem exists_convert_voip_iff (c : Capabilities) (n : Notification) (p : VoipPush)
    (policy : Policy) (now : Moment) :
    (∃ r, Apns.convert (n.carrying (.voip p)) policy c now = .ok (.send r)) ↔
      c.supportsVoip = true := by
  rw [Apns.convert_payload, Apns.parts]
  split <;> simp_all [Except.map]

/-- What a bundle of certificates allows is the union of what the extensions of its certificates
    say. A bundle is read exactly if all of it is in order; then each capability is there exactly if
    some extension grants it, and the topics are those that some extension lists, whatever the order
    of the blocks and of the extensions. Two bundles together allow what one of them allows. A topic
    passes exactly if none is listed or it is, and calls are pushed exactly if some extension allows
    it. -/
theorem ofBlocks_gathers (read : List UInt8 → Option Certificate)
    (blocks : List (Option Pem.Block)) :
    ((∃ c, ofBlocks read blocks = .ok c) ↔ IsValid read blocks) ∧
    ∀ c, ofBlocks read blocks = .ok c →
      c.Gathers (extensions read blocks) ∧
      (∀ alike permuted, List.Forall₂ (AreAlike read) blocks alike → alike.Perm permuted →
        ofBlocks read permuted = .ok c) ∧
      (∀ others c', ofBlocks read others = .ok c' →
        ofBlocks read (blocks ++ others) = .ok (c.join c')) ∧
      (∀ topic, c.checkTopic (some topic) = .ok () ↔
        (∀ other, ¬ ∃ e ∈ extensions read blocks, e.Lists other) ∨
          ∃ e ∈ extensions read blocks, e.Lists topic) ∧
      ∀ (n : Notification) (p : VoipPush) (policy : Policy) (now : Moment),
        (∃ r, Apns.convert (n.carrying (.voip p)) policy c now = .ok (.send r)) ↔
          ∃ e ∈ extensions read blocks, e.oid = voipOid := by
  refine ⟨exists_ofBlocks_iff, fun c h => ?_⟩
  have hgathers := (ofBlocks_eq_ok_iff_gathers.1 h).2
  refine ⟨hgathers, ?_, ?_, ?_, ?_⟩
  · intro alike permuted halike hperm
    exact ofBlocks_perm (ofBlocks_alike h halike) hperm
  · intro others c' h'
    exact ofBlocks_append h h'
  · intro topic
    simp only [checkTopic_some_iff, hgathers.contains_iff]
  · intro n p policy now
    rw [exists_convert_voip_iff, hgathers.supportsVoip_iff]

end Capabilities

end Courier
