import Courier.Http.BodyStream

/-!
# A streamed body is whole or visibly broken

In whatever order encoder and receiver take their steps, what was received, what is on the way and
what the encoder holds are together what it writes, as long as the receiver is there. The chunks are
therefore cut from the encoding, all but the last one full, and a body that breaks off has its mark.
A receiver that leaves keeps what it has.

Results:

* `BodyStream.step_sound`: what holds in every state of a body.
* `BodyStream.isOver_steps_rounds`: a body comes to its end if encoder and receiver get their turns.
* `BodyStream.steps_carry`: what is received of an encoding, and how its encoder ends.
-/

namespace Courier.Http

variable {e : Encoding} {s : BodyStream}

/-! ## Chunks -/

theorem chunkSize_pos : 0 < chunkSize := by decide

namespace Chunk

theorem contents_append (l m : List Chunk) : contents (l ++ m) = contents l ++ contents m :=
  List.flatMap_append

theorem contents_concat (l : List Chunk) (c : Chunk) :
    contents (l ++ [c]) = contents l ++ c.content := by
  simp [contents]

/-- All chunks are full. -/
def AreFull (l : List Chunk) : Prop := ∀ c ∈ l, c.isFull = true

theorem AreFull.concat {l : List Chunk} (h : AreFull l) {content : List UInt8}
    (hc : chunkSize ≤ content.length) : AreFull (l ++ [.bytes content]) := by
  intro c hmem
  rcases List.mem_append.1 hmem with hmem | hmem
  · exact h c hmem
  · rw [List.mem_singleton.1 hmem]
    simpa [isFull] using hc

theorem AreFull.dropLast_of_append {l m : List Chunk} (h : AreFull (l ++ m).dropLast) :
    AreFull l.dropLast := by
  by_cases hm : m = []
  · simpa [hm] using h
  · rw [List.dropLast_append_of_ne_nil hm] at h
    exact fun c hc => h c (List.mem_append_left _ (List.dropLast_subset _ hc))

theorem AreFull.not_breakOff {l : List Chunk} (h : AreFull l) : .breakOff ∉ l := fun hmem =>
  Bool.false_ne_true (h _ hmem)

end Chunk

open Chunk (contents contents_append contents_concat AreFull)

/-! ## Positions -/

namespace Position

/-- The bytes that are held back. -/
def held : Position → List UInt8
  | .writing held _ => held
  | _ => []

/-- What always holds of the position of an encoder. -/
def Fits (e : Encoding) : Position → Prop
  | .writing held left => held.length < chunkSize ∧ left.ending = e.ending
  | .passing content left => chunkSize ≤ content.length ∧ left.ending = e.ending
  | .flushing content => content ≠ [] ∧ e.ending = .done
  | .breaking => e.ending = .failed
  | .ended ending => ending = .done ∨ ending = e.ending

/-- What was passed on and what the encoder still has are what it writes. Of an encoding that fails,
    what was held back in the end is lost. -/
def Accounts (e : Encoding) (passed : List Chunk) : Position → Prop
  | .writing held left => AreFull passed ∧ contents passed ++ (held ++ left.bytes) = e.bytes
  | .passing content left => AreFull passed ∧ contents passed ++ (content ++ left.bytes) = e.bytes
  | .flushing content => AreFull passed ∧ contents passed ++ content = e.bytes
  | .breaking => AreFull passed ∧
      ∃ lost, lost.length < chunkSize ∧ contents passed ++ lost = e.bytes
  | .ended .done => e.ending = .done ∧ contents passed = e.bytes
  | .ended .failed => ∃ whole lost, passed = whole ++ [.breakOff] ∧ AreFull whole ∧
      lost.length < chunkSize ∧ contents whole ++ lost = e.bytes
  | .ended .crashed => True

theorem Fits.finish {held : List UInt8} (ending : Ending) (h : ending = e.ending) :
    (finish held ending).Fits e := by
  cases ending with
  | done =>
    by_cases hheld : held = []
    · rw [Position.finish, if_pos hheld]
      exact .inl rfl
    · rw [Position.finish, if_neg hheld]
      exact ⟨hheld, h.symm⟩
  | failed => exact h.symm
  | crashed => exact .inr h

theorem Fits.write {held : List UInt8} {left : Encoding} (h : left.ending = e.ending) :
    (write held left).Fits e := by
  obtain ⟨_ | ⟨piece, rest⟩, ending⟩ := left
  · exact .finish ending h
  · by_cases hlt : (held ++ piece).length < chunkSize
    · rw [Position.write, if_pos hlt]
      exact ⟨hlt, h⟩
    · rw [Position.write, if_neg hlt]
      exact ⟨Nat.le_of_not_lt hlt, h⟩

theorem Accounts.finish {held : List UInt8} {passed : List Chunk} {ending : Ending}
    (hending : ending = e.ending) (hheld : held.length < chunkSize) (hfull : AreFull passed)
    (hbytes : contents passed ++ held = e.bytes) : (finish held ending).Accounts e passed := by
  cases ending with
  | done =>
    by_cases hnil : held = []
    · rw [Position.finish, if_pos hnil]
      subst held
      exact ⟨hending.symm, by simpa using hbytes⟩
    · rw [Position.finish, if_neg hnil]
      exact ⟨hfull, hbytes⟩
  | failed => exact ⟨hfull, held, hheld, hbytes⟩
  | crashed => trivial

theorem Accounts.write {held : List UInt8} {left : Encoding} {passed : List Chunk}
    (hfits : (writing held left).Fits e) (h : (writing held left).Accounts e passed) :
    (write held left).Accounts e passed := by
  obtain ⟨hheld, hending⟩ := hfits
  obtain ⟨hfull, hbytes⟩ := h
  obtain ⟨_ | ⟨piece, rest⟩, ending⟩ := left
  · have hrest : contents passed ++ held = e.bytes := by simpa [Encoding.bytes] using hbytes
    exact .finish hending hheld hfull hrest
  · have hbytes : contents passed ++ (held ++ piece ++ rest.flatten) = e.bytes := by
      rw [← hbytes, Encoding.bytes, List.flatten_cons, List.append_assoc]
    by_cases hlt : (held ++ piece).length < chunkSize
    · rw [Position.write, if_pos hlt]
      exact ⟨hfull, hbytes⟩
    · rw [Position.write, if_neg hlt]
      exact ⟨hfull, hbytes⟩

/-- How much an encoder still has to do. A chunk that is passed on has to be received as well. -/
def work : Position → Nat
  | .writing _ left => 3 * left.pieces.length + 3
  | .passing _ left => 3 * left.pieces.length + 5
  | .flushing _ | .breaking => 2
  | .ended _ => 0

theorem work_finish_le (held : List UInt8) (ending : Ending) : (finish held ending).work ≤ 2 := by
  unfold finish
  grind [work]

theorem work_write_lt (held : List UInt8) (left : Encoding) :
    (write held left).work < (writing held left).work := by
  obtain ⟨_ | ⟨piece, rest⟩, ending⟩ := left
  · have hfinish := work_finish_le held ending
    show (finish held ending).work < 3
    omega
  · by_cases hlt : (held ++ piece).length < chunkSize
    · rw [Position.write, if_pos hlt]
      show 3 * rest.length + 3 < 3 * (rest.length + 1) + 3
      omega
    · rw [Position.write, if_neg hlt]
      show 3 * rest.length + 5 < 3 * (rest.length + 1) + 3
      omega

end Position

/-! ## States -/

namespace BodyStream

/-- What holds in every state of a body. -/
structure Sound (e : Encoding) (s : BodyStream) : Prop where
  /-- What was passed on is how the encoding begins. -/
  begins : contents s.passed <+: e.bytes
  /-- No chunk is empty, -/
  nonempty : .bytes [] ∉ s.passed
  /-- and all but the last one are full. -/
  full : AreFull s.passed.dropLast
  /-- Only an encoder that fails leaves a mark. -/
  marked : .breakOff ∈ s.passed → e.ending = .failed
  fits : s.position.Fits e
  /-- Without a receiver chunks get lost. -/
  accounts : s.isRead = true → s.position.Accounts e s.passed
  unread : s.isRead = false → s.underway = []

theorem start_sound (e : Encoding) : (start e).Sound e where
  begins := List.nil_prefix
  nonempty := List.not_mem_nil
  full := fun _ hc => absurd hc List.not_mem_nil
  marked := fun h => absurd h List.not_mem_nil
  fits := ⟨chunkSize_pos, rfl⟩
  accounts := fun _ => ⟨fun _ hc => absurd hc List.not_mem_nil, rfl⟩
  unread := nofun

/-- A chunk that may come next is passed on or refused. -/
theorem Sound.pass (h : s.Sound e) {c : Chunk} {after refused : Position}
    (hne : c ≠ .bytes []) (hmarked : c = .breakOff → e.ending = .failed)
    (hafter : after.Fits e) (hrefused : refused.Fits e)
    (hfull : s.isRead = true → AreFull s.passed)
    (hbegins : s.isRead = true → contents s.passed ++ c.content <+: e.bytes)
    (haccounts : s.isRead = true → after.Accounts e (s.passed ++ [c])) :
    (s.pass c after refused).Sound e := by
  unfold BodyStream.pass
  split
  case isTrue hread =>
    split
    case isTrue hroom =>
      have hpassed : s.received ++ (s.underway ++ [c]) = s.passed ++ [c] :=
        (List.append_assoc ..).symm
      refine ⟨?_, ?_, ?_, ?_, hafter, fun _ => ?_, fun hunread => ?_⟩
      · rw [passed, hpassed, contents_concat]
        exact hbegins hread
      · rw [passed, hpassed, List.mem_append, List.mem_singleton]
        exact not_or.2 ⟨h.nonempty, hne.symm⟩
      · rw [passed, hpassed, List.dropLast_concat]
        exact hfull hread
      · rw [passed, hpassed, List.mem_append, List.mem_singleton]
        exact Or.rec h.marked fun hc => hmarked hc.symm
      · rw [passed, hpassed]
        exact haccounts hread
      · exact absurd hread (Bool.eq_false_iff.1 hunread)
    case isFalse hroom => exact h
  case isFalse hread =>
    exact ⟨h.begins, h.nonempty, h.full, h.marked, hrefused, fun hr => absurd hr hread, h.unread⟩

theorem ne_nil_of_chunkSize_le {content : List UInt8} (h : chunkSize ≤ content.length) :
    content ≠ [] := by
  rintro rfl
  exact absurd chunkSize_pos (Nat.not_lt.2 h)

/-- Goes on writing after a chunk. -/
theorem Sound.passing (h : s.Sound e) {content : List UInt8} {left : Encoding}
    (hposition : s.position = .passing content left) :
    (s.pass (.bytes content) (.writing [] left) (.ended .done)).Sound e := by
  obtain ⟨hlong, hending⟩ : (Position.passing content left).Fits e := hposition ▸ h.fits
  have haccounts (hread : s.isRead = true) :
      (Position.passing content left).Accounts e s.passed := hposition ▸ h.accounts hread
  refine h.pass ?_ nofun ⟨chunkSize_pos, hending⟩ (.inl rfl) ?_ ?_ ?_
  · simpa using ne_nil_of_chunkSize_le hlong
  · exact fun hread => (haccounts hread).1
  · intro hread
    rw [← (haccounts hread).2, ← List.append_assoc]
    exact List.prefix_append ..
  · intro hread
    refine ⟨(haccounts hread).1.concat hlong, ?_⟩
    rw [contents_concat, ← (haccounts hread).2, List.append_assoc]
    rfl

/-- Ends with what was held back. -/
theorem Sound.flushing (h : s.Sound e) {content : List UInt8}
    (hposition : s.position = .flushing content) :
    (s.pass (.bytes content) (.ended .done) (.ended .done)).Sound e := by
  obtain ⟨hne, hending⟩ : (Position.flushing content).Fits e := hposition ▸ h.fits
  have haccounts (hread : s.isRead = true) :
      (Position.flushing content).Accounts e s.passed := hposition ▸ h.accounts hread
  refine h.pass ?_ nofun (.inl rfl) (.inl rfl) ?_ ?_ ?_
  · simpa using hne
  · exact fun hread => (haccounts hread).1
  · intro hread
    rw [← (haccounts hread).2]
    exact List.prefix_rfl
  · intro hread
    refine ⟨hending, ?_⟩
    rw [contents_concat, ← (haccounts hread).2]
    rfl

/-- Ends with a mark. -/
theorem Sound.breaking (h : s.Sound e) (hposition : s.position = .breaking) :
    (s.pass .breakOff (.ended .failed) (.ended .failed)).Sound e := by
  have hending : Position.breaking.Fits e := hposition ▸ h.fits
  have haccounts (hread : s.isRead = true) : Position.breaking.Accounts e s.passed :=
    hposition ▸ h.accounts hread
  refine h.pass nofun (fun _ => hending) (.inr hending.symm) (.inr hending.symm) ?_ ?_ ?_
  · exact fun hread => (haccounts hread).1
  · intro hread
    obtain ⟨-, lost, -, hbytes⟩ := haccounts hread
    rw [← hbytes, Chunk.content, List.append_nil]
    exact List.prefix_append ..
  · intro hread
    obtain ⟨hfull, lost, hlost, hbytes⟩ := haccounts hread
    exact ⟨s.passed, lost, rfl, hfull, hlost, hbytes⟩

theorem encode_sound (h : s.Sound e) : s.encode.Sound e := by
  unfold encode
  split
  case h_1 held left hposition =>
    have hfits : (Position.writing held left).Fits e := hposition ▸ h.fits
    exact ⟨h.begins, h.nonempty, h.full, h.marked, .write hfits.2,
      fun hread => .write hfits (hposition ▸ h.accounts hread), h.unread⟩
  case h_2 content left hposition => exact h.passing hposition
  case h_3 content hposition => exact h.flushing hposition
  case h_4 hposition => exact h.breaking hposition
  case h_5 ending hposition => exact h

theorem receive_sound (h : s.Sound e) : (s.step .receive).Sound e := by
  obtain ⟨position, _ | ⟨c, rest⟩, received, isRead⟩ := s
  · exact h
  · have hpassed : (received ++ [c]) ++ rest = received ++ c :: rest := by simp
    have hunread : isRead = false → rest = [] := fun hunread => nomatch h.unread hunread
    constructor
    · rw [step, passed, hpassed]
      exact h.begins
    · rw [step, passed, hpassed]
      exact h.nonempty
    · rw [step, passed, hpassed]
      exact h.full
    · rw [step, passed, hpassed]
      exact h.marked
    · exact h.fits
    · rw [step, passed, hpassed]
      exact h.accounts
    · exact hunread

theorem leave_sound (h : s.Sound e) : (s.step .leave).Sound e := by
  have hpassed : (s.step .leave).passed = s.received := List.append_nil _
  have hmem : ∀ c ∈ s.received, c ∈ s.passed := fun c hc => List.mem_append_left _ hc
  constructor
  · rw [hpassed]
    refine .trans ?_ h.begins
    rw [passed, contents_append]
    exact List.prefix_append ..
  · rw [hpassed]
    exact fun hempty => h.nonempty (hmem _ hempty)
  · rw [hpassed]
    exact h.full.dropLast_of_append
  · rw [hpassed]
    exact fun hmark => h.marked (hmem _ hmark)
  · exact h.fits
  · exact nofun
  · exact fun _ => rfl

theorem step_sound (h : s.Sound e) (a : Step) : (s.step a).Sound e := by
  cases a with
  | encode => exact encode_sound h
  | receive => exact receive_sound h
  | leave => exact leave_sound h

theorem steps_sound (h : s.Sound e) (l : List Step) : (s.steps l).Sound e := by
  induction l generalizing s with
  | nil => exact h
  | cons a rest ih => exact ih (step_sound h a)

/-! ## Progress -/

/-- How much is still to be done for a body. -/
def work (s : BodyStream) : Nat := s.position.work + s.underway.length + s.isRead.toNat

theorem pass_waits_or_work_lt (s : BodyStream) (c : Chunk) {after refused : Position}
    (hafter : after.work + 1 < s.position.work) (hrefused : refused.work < s.position.work) :
    (s.pass c after refused = s ∧ s.underway ≠ []) ∨ (s.pass c after refused).work < s.work := by
  unfold BodyStream.pass
  split
  case isTrue hread =>
    split
    case isTrue hroom =>
      right
      simp only [work, List.length_append, List.length_singleton]
      omega
    case isFalse hroom =>
      left
      -- Where there is no room, something is on the way, and the receiver can go on.
      refine ⟨rfl, fun hnil => hroom ?_⟩
      rw [hnil]
      decide
  case isFalse hread =>
    right
    simp only [work]
    omega

/-- An encoder that does not go on has ended, or waits for the receiver. -/
theorem encode_waits_or_work_lt (s : BodyStream) :
    (s.encode = s ∧ (s.ending?.isSome = true ∨ s.underway ≠ [])) ∨ s.encode.work < s.work := by
  unfold encode
  split
  case h_1 held left h =>
    right
    have hwrite := Position.work_write_lt held left
    simp only [work, h]
    omega
  case h_2 content left h =>
    refine (s.pass_waits_or_work_lt _ ?_ ?_).imp_left (And.imp_right .inr)
    · rw [h, Position.work, Position.work]
      omega
    · rw [h, Position.work, Position.work]
      omega
  case h_3 content h =>
    refine (s.pass_waits_or_work_lt _ ?_ ?_).imp_left (And.imp_right .inr) <;>
      simp [h, Position.work]
  case h_4 h =>
    refine (s.pass_waits_or_work_lt _ ?_ ?_).imp_left (And.imp_right .inr) <;>
      simp [h, Position.work]
  case h_5 ending h =>
    left
    refine ⟨rfl, .inl ?_⟩
    rw [ending?, h]
    rfl

theorem receive_eq_or_work_lt (s : BodyStream) :
    (s.step .receive = s ∧ s.underway = []) ∨ (s.step .receive).work < s.work := by
  obtain ⟨position, _ | ⟨c, rest⟩, received, isRead⟩ := s
  · exact .inl ⟨rfl, rfl⟩
  · right
    simp only [step, work, List.length_cons]
    omega

theorem leave_eq_or_work_lt (s : BodyStream) :
    s.step .leave = s ∨ (s.step .leave).work < s.work := by
  obtain ⟨position, underway, received, _ | _⟩ := s
  · cases underway with
    | nil => exact .inl rfl
    | cons c rest =>
      right
      simp only [step, work, List.length_cons, List.length_nil]
      omega
  · right
    show position.work + 0 + 0 < position.work + underway.length + 1
    omega

/-- A step that changes anything brings a body nearer to its end. -/
theorem step_eq_or_work_lt (s : BodyStream) (a : Step) :
    s.step a = s ∨ (s.step a).work < s.work := by
  cases a with
  | encode => exact s.encode_waits_or_work_lt.imp_left And.left
  | receive => exact s.receive_eq_or_work_lt.imp_left And.left
  | leave => exact s.leave_eq_or_work_lt

theorem steps_append (s : BodyStream) (l m : List Step) :
    s.steps (l ++ m) = (s.steps l).steps m := List.foldl_append

theorem work_steps_le (s : BodyStream) (l : List Step) : (s.steps l).work ≤ s.work := by
  induction l generalizing s with
  | nil => exact Nat.le_refl _
  | cons a rest ih =>
    have hstep : (s.step a).work ≤ s.work := by
      rcases s.step_eq_or_work_lt a with hsame | hlt
      · exact Nat.le_of_eq (congrArg work hsame)
      · exact Nat.le_of_lt hlt
    exact Nat.le_trans (ih (s.step a)) hstep

/-- Steps that bring a body no nearer to its end change nothing, none of them. -/
theorem steps_eq_or_work_lt (s : BodyStream) (l : List Step) :
    (∀ a ∈ l, s.step a = s) ∨ (s.steps l).work < s.work := by
  induction l with
  | nil => exact .inl nofun
  | cons a rest ih =>
    show _ ∨ ((s.step a).steps rest).work < s.work
    rcases s.step_eq_or_work_lt a with hstep | hwork
    · rw [hstep, List.forall_mem_cons]
      exact ih.imp_left fun hrest => ⟨hstep, hrest⟩
    · exact .inr (Nat.lt_of_le_of_lt (work_steps_le _ rest) hwork)

theorem isOver_iff (s : BodyStream) :
    s.isOver = true ↔ s.ending?.isSome = true ∧ s.underway = [] := by
  rw [isOver, Bool.and_eq_true, List.isEmpty_iff]

/-- A body for which neither encoder nor receiver can do anything is at its end. -/
theorem isOver_of_step_eq (hencode : s.step .encode = s) (hreceive : s.step .receive = s) :
    s.isOver = true := by
  have hempty : s.underway = [] := by
    rcases s.receive_eq_or_work_lt with h | h
    · exact h.2
    · rw [hreceive] at h
      exact absurd h (Nat.lt_irrefl _)
  have hended : s.ending?.isSome = true ∨ s.underway ≠ [] := by
    rcases s.encode_waits_or_work_lt with h | h
    · exact h.2
    · rw [show s.encode = s from hencode] at h
      exact absurd h (Nat.lt_irrefl _)
  exact s.isOver_iff.2 ⟨hended.resolve_right (not_not_intro hempty), hempty⟩

theorem isOver_step (h : s.isOver = true) (a : Step) : (s.step a).isOver = true := by
  obtain ⟨position, underway, received, isRead⟩ := s
  obtain ⟨hended, rfl⟩ := (isOver_iff _).1 h
  cases position with
  | ended ending => cases a <;> exact h
  | _ => exact absurd hended Bool.false_ne_true

theorem isOver_steps (h : s.isOver = true) (l : List Step) : (s.steps l).isOver = true := by
  induction l generalizing s with
  | nil => exact h
  | cons a rest ih => exact ih (isOver_step h a)

/-- In a round in which encoder and receiver both get a turn a body comes nearer to its end. -/
theorem work_round_lt (h : s.isOver = false) {round : List Step} (hencode : .encode ∈ round)
    (hreceive : .receive ∈ round) : (s.steps round).work < s.work := by
  rcases s.steps_eq_or_work_lt round with hround | hwork
  · have hover := isOver_of_step_eq (hround _ hencode) (hround _ hreceive)
    rw [hover] at h
    contradiction
  · exact hwork

/-- After enough rounds in which encoder and receiver both get a turn a body is at its end. -/
theorem isOver_steps_rounds {rounds : List (List Step)} (hcount : s.work ≤ rounds.length)
    (h : ∀ round ∈ rounds, .encode ∈ round ∧ .receive ∈ round) :
    (s.steps rounds.flatten).isOver = true := by
  induction rounds generalizing s with
  | nil =>
    have hzero : s.work = 0 := Nat.le_zero.1 hcount
    have hnone (a : Step) : s.step a = s :=
      (s.step_eq_or_work_lt a).resolve_right (by omega)
    exact isOver_of_step_eq (hnone .encode) (hnone .receive)
  | cons round rest ih =>
    obtain ⟨⟨hencode, hreceive⟩, hrest⟩ := List.forall_mem_cons.1 h
    rw [List.flatten_cons, steps_append]
    cases hover : s.isOver with
    | true => exact isOver_steps (isOver_steps hover round) rest.flatten
    | false =>
      have hround := work_round_lt hover hencode hreceive
      rw [List.length_cons] at hcount
      exact ih (by omega) hrest

/-! ## What is received -/

/-- What a body has come to in some state. -/
structure Carries (e : Encoding) (s : BodyStream) : Prop where
  /-- Less than a chunk is held back. -/
  held : s.position.held.length < chunkSize
  /-- No chunk is empty, -/
  nonempty : .bytes [] ∉ s.received
  /-- and all but the last one are full. -/
  full : AreFull s.received.dropLast
  /-- What was received is how the encoding begins, also if the receiver has left. -/
  begins : contents s.received <+: e.bytes
  /-- A receiver that stays gets the whole of a complete encoding, without a mark, -/
  whole : e.ending = .done → s.isRead = true → s.isOver = true →
    contents s.received = e.bytes ∧ .breakOff ∉ s.received ∧ s.ending? = some .done
  /-- and of one that fails all but what was held back, and then the mark. -/
  broken : e.ending = .failed → s.isRead = true → s.isOver = true →
    s.ending? = some .failed ∧ ∃ chunks lost, s.received = chunks ++ [.breakOff] ∧
      .breakOff ∉ chunks ∧ contents chunks ++ lost = e.bytes ∧ lost.length < chunkSize
  /-- A complete encoding never breaks off, also if the receiver leaves. -/
  complete : e.ending = .done → .breakOff ∉ s.received ∧ s.ending?.getD .done = .done
  /-- A failed request keeps its cause if the caller has cancelled or the encoder has not failed. -/
  explains : ∀ error, Ending.explain s.ending? error =
    if error ≠ .cancelled ∧ (s.ending? = some .failed ∨ s.ending? = some .crashed) then .encoding
    else error
  /-- Once encoder and receiver have had their turns often enough, the body is at its end. -/
  ends : ∀ rounds : List (List Step), s.work ≤ rounds.length →
    (∀ round ∈ rounds, .encode ∈ round ∧ .receive ∈ round) →
      (s.steps rounds.flatten).isOver = true

theorem Sound.held (h : s.Sound e) : s.position.held.length < chunkSize := by
  have hfits := h.fits
  cases hposition : s.position with
  | writing held left =>
    rw [hposition] at hfits
    exact hfits.1
  | _ => exact chunkSize_pos

theorem not_mem_received {c : Chunk} (h : c ∉ s.passed) : c ∉ s.received := fun hmem =>
  h (List.mem_append_left _ hmem)

/-- At the end of a body that was read everything was received, and the encoder has ended. -/
theorem Sound.accounts_over (h : s.Sound e) (hread : s.isRead = true) (hover : s.isOver = true) :
    ∃ ending, s.ending? = some ending ∧ (ending = .done ∨ ending = e.ending) ∧
      (Position.ended ending).Accounts e s.received := by
  obtain ⟨hended, hempty⟩ := s.isOver_iff.1 hover
  have hreceived : s.passed = s.received := by rw [passed, hempty, List.append_nil]
  have hfits := h.fits
  have haccounts := h.accounts hread
  rw [hreceived] at haccounts
  rw [ending?] at hended ⊢
  cases hposition : s.position with
  | ended ending =>
    rw [hposition] at hfits haccounts
    exact ⟨ending, rfl, hfits, haccounts⟩
  | _ =>
    rw [hposition] at hended
    exact absurd hended Bool.false_ne_true

theorem Sound.ending_done (h : s.Sound e) (hdone : e.ending = .done) :
    s.ending?.getD .done = .done := by
  have hfits := h.fits
  rw [ending?]
  cases hposition : s.position with
  | ended ending =>
    rw [hposition] at hfits
    rcases hfits with rfl | rfl
    · rfl
    · exact hdone
  | _ => rfl

theorem Sound.not_breakOff (h : s.Sound e) (hdone : e.ending = .done) : .breakOff ∉ s.received :=
  not_mem_received fun hmark => nomatch hdone ▸ h.marked hmark

theorem Sound.whole (h : s.Sound e) (hdone : e.ending = .done) (hread : s.isRead = true)
    (hover : s.isOver = true) : contents s.received = e.bytes ∧ s.ending? = some .done := by
  obtain ⟨ending, hending, hor, haccounts⟩ := h.accounts_over hread hover
  obtain rfl : ending = .done := hor.elim id fun heq => heq.trans hdone
  exact ⟨haccounts.2, hending⟩

theorem Sound.broken (h : s.Sound e) (hfailed : e.ending = .failed) (hread : s.isRead = true)
    (hover : s.isOver = true) :
    s.ending? = some .failed ∧ ∃ chunks lost, s.received = chunks ++ [.breakOff] ∧
      .breakOff ∉ chunks ∧ contents chunks ++ lost = e.bytes ∧ lost.length < chunkSize := by
  obtain ⟨ending, hending, rfl | rfl, haccounts⟩ := h.accounts_over hread hover
  · exact absurd (hfailed.symm.trans haccounts.1) nofun
  · rw [hfailed] at hending haccounts
    obtain ⟨chunks, lost, hchunks, hfull, hlost, hbytes⟩ := haccounts
    exact ⟨hending, chunks, lost, hchunks, hfull.not_breakOff, hbytes, hlost⟩

theorem Sound.carries (h : s.Sound e) : s.Carries e where
  held := h.held
  nonempty := not_mem_received h.nonempty
  full := h.full.dropLast_of_append
  begins := by
    refine .trans ?_ h.begins
    rw [passed, contents_append]
    exact List.prefix_append ..
  whole hdone hread hover := by
    obtain ⟨hbytes, hending⟩ := h.whole hdone hread hover
    exact ⟨hbytes, h.not_breakOff hdone, hending⟩
  broken := h.broken
  complete hdone := ⟨h.not_breakOff hdone, h.ending_done hdone⟩
  explains := Ending.explain_eq s.ending?
  ends _ hcount hturns := isOver_steps_rounds hcount hturns

/-- Whatever pieces an encoder writes, in whatever order it and the receiver take their steps, and
    whenever the receiver leaves: what is received is cut from the encoding. It is all of it unless
    the receiver leaves, the body ends with a mark, or the encoder crashes. -/
theorem steps_carry (e : Encoding) (l : List Step) : ((start e).steps l).Carries e :=
  (steps_sound (start_sound e) l).carries

example : ((start { pieces := [[1], [], [2]] }).steps
    [.encode, .encode, .encode, .encode, .encode, .receive]).received = [.bytes [1, 2]] := by
  decide

example : ((start { pieces := [[1]], ending := .failed }).steps
    [.encode, .encode, .encode, .receive]).received = [.breakOff] := by
  decide

end BodyStream

end Courier.Http
