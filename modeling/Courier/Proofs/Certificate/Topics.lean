import Courier.Certificate.Topics
import Courier.Proofs.Text.Utf8

/-!
# The grammar of topic lists

A reader takes a topic list byte by byte. The grammar knows whole blocks: any bytes begin with a
longest run of complete blocks, and the rest starts none. A reader is always after such a run and
inside the block that the rest breaks off, so what it has read are the texts of the run.

Results:

* `Topics.IsSplit.isPrefix`, `Topics.IsSplit.unique`: the split into blocks is the longest, and
  there is only one.
* `Topics.Reader.Follows.step`, `Topics.Reader.Follows.run`: where a reader is after every byte.
* `Topics.extract_join`: complete blocks are read as their texts.
* `Topics.extract_splits`: what is read of any bytes.
-/

namespace Courier.Topics

/-! ## Blocks -/

/-- A complete block: a container with the byte after its tag, or a text, whose length is one
    byte. -/
inductive Block
  | container (length : UInt8)
  | text (value : List UInt8) (fits : value.length < 256)

namespace Block

/-- The bytes of a block. -/
def bytes : Block → List UInt8
  | container length => [containerTag, length]
  | text value _ => textTag :: UInt8.ofNat value.length :: value

/-- The text of a block; a container has none. -/
def text? : Block → Option String
  | container _ => none
  | text value _ => some (Utf8.lossy value)

theorem ofNat_length_inj {m n : Nat} (hm : m < 256) (hn : n < 256)
    (h : UInt8.ofNat m = UInt8.ofNat n) : m = n := by
  have hnat := congrArg UInt8.toNat h
  rw [UInt8.toNat_ofNat', UInt8.toNat_ofNat', Nat.mod_eq_of_lt hm, Nat.mod_eq_of_lt hn] at hnat
  exact hnat

/-- No block is the beginning of another one. -/
theorem eq_of_bytes_append {a b : Block} {x y : List UInt8} (h : a.bytes ++ x = b.bytes ++ y) :
    a = b ∧ x = y := by
  cases a with
  | container length =>
    cases b with
    | container length' =>
      simp only [bytes, List.cons_append, List.nil_append, List.cons.injEq, true_and] at h
      exact ⟨congrArg container h.1, h.2⟩
    | text value fits =>
      have htag : containerTag = textTag := (List.cons.inj h).1
      exact absurd htag (by decide)
  | text value fits =>
    cases b with
    | container length =>
      have htag : textTag = containerTag := (List.cons.inj h).1
      exact absurd htag (by decide)
    | text value' fits' =>
      simp only [bytes, List.cons_append, List.cons.injEq, true_and] at h
      have hlength := ofNat_length_inj fits fits' h.1
      obtain ⟨rfl, rfl⟩ := List.append_inj h.2 hlength
      exact ⟨rfl, rfl⟩

end Block

/-- The bytes of blocks one after the other. -/
def join (blocks : List Block) : List UInt8 := blocks.flatMap Block.bytes

/-- The texts of blocks one after the other. -/
def textsOf (blocks : List Block) : List String := blocks.filterMap Block.text?

theorem join_cons (block : Block) (blocks : List Block) :
    join (block :: blocks) = block.bytes ++ join blocks := List.flatMap_cons

theorem join_concat (blocks : List Block) (block : Block) :
    join (blocks ++ [block]) = join blocks ++ block.bytes := by
  simp [join]

theorem textsOf_concat (blocks : List Block) (block : Block) :
    textsOf (blocks ++ [block]) = textsOf blocks ++ block.text?.toList := by
  rw [textsOf, List.filterMap_append]
  cases h : block.text? <;> simp [textsOf, h]

/-! ## Splits -/

/-- Whether bytes are complete blocks and then a rest that starts none. -/
structure IsSplit (bytes : List UInt8) (blocks : List Block) (rest : List UInt8) : Prop where
  bytes_eq : bytes = join blocks ++ rest
  starts_none : ∀ block : Block, ¬ block.bytes <+: rest

variable {bytes rest : List UInt8} {blocks : List Block}

/-- No run of complete blocks reaches further. -/
theorem IsSplit.isPrefix (h : IsSplit bytes blocks rest) {others : List Block}
    {after : List UInt8} (hothers : bytes = join others ++ after) : others <+: blocks := by
  induction others generalizing bytes blocks with
  | nil => exact List.nil_prefix
  | cons block others ih =>
    have hbytes := h.bytes_eq.symm.trans hothers
    rw [join_cons, List.append_assoc] at hbytes
    cases blocks with
    | nil => exact absurd ⟨_, hbytes.symm⟩ (h.starts_none block)
    | cons first blocks =>
      rw [join_cons, List.append_assoc] at hbytes
      obtain ⟨rfl, htail⟩ := Block.eq_of_bytes_append hbytes
      have hsplit : IsSplit (join blocks ++ rest) blocks rest := ⟨rfl, h.starts_none⟩
      exact List.cons_prefix_cons.2 ⟨rfl, ih hsplit htail⟩

theorem IsSplit.unique (h : IsSplit bytes blocks rest) {others : List Block} {after : List UInt8}
    (hothers : IsSplit bytes others after) : others = blocks ∧ after = rest := by
  have hfirst := h.isPrefix hothers.bytes_eq
  have hsecond := hothers.isPrefix h.bytes_eq
  have hblocks := hfirst.eq_of_length (Nat.le_antisymm hfirst.length_le hsecond.length_le)
  subst hblocks
  exact ⟨rfl, List.append_cancel_left (hothers.bytes_eq.symm.trans h.bytes_eq)⟩

/-- Complete blocks leave no rest. -/
theorem isSplit_join (blocks : List Block) : IsSplit (join blocks) blocks [] where
  bytes_eq := (List.append_nil _).symm
  starts_none block h := by
    have := List.prefix_nil.1 h
    cases block <;> cases this

/-- A byte that is no tag starts no block. -/
theorem not_starts_of_unknown {tag : UInt8} (hcontainer : tag ≠ containerTag)
    (htext : tag ≠ textTag) (block : Block) (rest : List UInt8) :
    ¬ block.bytes <+: tag :: rest := by
  intro h
  cases block with
  | container length => exact hcontainer (List.cons_prefix_cons.1 h).1.symm
  | text value fits => exact htext (List.cons_prefix_cons.1 h).1.symm

/-! ## Readers -/

namespace Reader

/-- What a reader has taken of the block that it is in. -/
def begun (r : Reader) : List UInt8 :=
  match r.expected with
  | .tag => []
  | .containerLength => [containerTag]
  | .textLength => [textTag]
  | .text remaining => textTag :: UInt8.ofNat (r.value.size + remaining) :: r.value.toList

/-- Whether a reader keeps bytes of a text only inside one, and then has some of it left. -/
def IsTidy (r : Reader) : Prop :=
  match r.expected with
  | .text remaining => 0 < remaining ∧ r.value.size + remaining < 256
  | _ => r.value = #[]

/-- Whether a reader stands after bytes that are complete blocks and what it has taken of another
    one. -/
structure Follows (r : Reader) (bytes : List UInt8) (blocks : List Block) : Prop where
  bytes_eq : bytes = join blocks ++ r.begun
  texts_eq : r.texts.toList = textsOf blocks
  isTidy : r.IsTidy

theorem follows_start : Follows {} [] [] := ⟨rfl, rfl, rfl⟩

/-- What is taken of a block is not the whole block. -/
theorem begun_starts_none {r : Reader} (h : r.IsTidy) (block : Block) :
    ¬ block.bytes <+: r.begun := by
  intro hprefix
  unfold begun at hprefix
  unfold IsTidy at h
  cases hexpected : r.expected with
  | tag =>
    simp only [hexpected] at hprefix
    cases block <;> simp [Block.bytes] at hprefix
  | containerLength =>
    simp only [hexpected] at hprefix
    have := hprefix.length_le
    cases block <;> simp [Block.bytes] at this
  | textLength =>
    simp only [hexpected] at hprefix
    have := hprefix.length_le
    cases block <;> simp [Block.bytes] at this
  | text remaining =>
    simp only [hexpected] at hprefix h
    cases block with
    | container length => exact absurd (List.cons_prefix_cons.1 hprefix).1 (by decide)
    | text value fits =>
      obtain ⟨-, hrest⟩ := List.cons_prefix_cons.1 hprefix
      obtain ⟨hlength, hvalue⟩ := List.cons_prefix_cons.1 hrest
      have hlength := Block.ofNat_length_inj fits h.2 hlength
      have hle : value.length ≤ r.value.size := hvalue.length_le
      omega

/-! ## One byte -/

variable {r r' : Reader} {byte : UInt8}

/-- A reader that comes to the end of a block stands after one block more. -/
theorem follows_concat {block : Block} (hbytes : bytes = join blocks ++ block.bytes)
    (htexts : r.texts.toList = textsOf blocks ++ block.text?.toList) (hexpected : r.expected = .tag)
    (hvalue : r.value = #[]) : r.Follows bytes (blocks ++ [block]) where
  bytes_eq := by rw [join_concat, hbytes, begun, hexpected, List.append_nil]
  texts_eq := by rw [textsOf_concat, htexts]
  isTidy := by rw [IsTidy, hexpected]; exact hvalue

theorem Follows.step_tag (h : r.Follows bytes blocks) (hexpected : r.expected = .tag)
    (hstep : r.step byte = .ok r') : r'.Follows (bytes ++ [byte]) blocks := by
  obtain ⟨hbytes, htexts, htidy⟩ := h
  simp only [begun, IsTidy, Reader.step, hexpected] at hbytes htidy hstep
  rw [List.append_nil] at hbytes
  split at hstep
  · rename_i htag
    cases hstep
    exact ⟨by rw [hbytes, htag]; rfl, htexts, htidy⟩
  · split at hstep
    · rename_i htag
      cases hstep
      exact ⟨by rw [hbytes, htag]; rfl, htexts, htidy⟩
    · cases hstep

theorem Follows.step_containerLength (h : r.Follows bytes blocks)
    (hexpected : r.expected = .containerLength) (hstep : r.step byte = .ok r') :
    r'.Follows (bytes ++ [byte]) (blocks ++ [.container byte]) := by
  obtain ⟨hbytes, htexts, htidy⟩ := h
  simp only [begun, IsTidy, Reader.step, hexpected] at hbytes htidy hstep
  cases hstep
  refine follows_concat ?_ ?_ rfl htidy
  · rw [hbytes, List.append_assoc]
    rfl
  · exact htexts.trans (List.append_nil _).symm

theorem Follows.step_textLength (h : r.Follows bytes blocks) (hexpected : r.expected = .textLength)
    (hstep : r.step byte = .ok r') : ∃ blocks', r'.Follows (bytes ++ [byte]) blocks' := by
  obtain ⟨hbytes, htexts, htidy⟩ := h
  simp only [begun, IsTidy, Reader.step, hexpected] at hbytes htidy hstep
  split at hstep
  · rename_i hzero
    cases hstep
    refine ⟨blocks ++ [.text [] (by decide)], follows_concat ?_ ?_ rfl htidy⟩
    · rw [hbytes, hzero, List.append_assoc]
      rfl
    · rw [Array.toList_push, htexts, Block.text?, Utf8.lossy, Utf8.decode_nil]
      rfl
  · rename_i hzero
    cases hstep
    have hpos : byte.toNat ≠ 0 := fun h0 => hzero (UInt8.toNat_inj.1 h0)
    refine ⟨blocks, ?_, htexts, ?_⟩
    · rw [hbytes, List.append_assoc]
      simp [begun, htidy]
    · show 0 < byte.toNat ∧ r.value.size + byte.toNat < 256
      rw [htidy]
      exact ⟨Nat.pos_of_ne_zero hpos, by simpa using byte.toNat_lt⟩

theorem Follows.step_text (h : r.Follows bytes blocks) {remaining : Nat}
    (hexpected : r.expected = .text remaining) (hstep : r.step byte = .ok r') :
    ∃ blocks', r'.Follows (bytes ++ [byte]) blocks' := by
  obtain ⟨hbytes, htexts, htidy⟩ := h
  simp only [begun, IsTidy, Reader.step, hexpected] at hbytes htidy hstep
  obtain ⟨hpos, hfits⟩ := htidy
  split at hstep
  · rename_i hlast
    cases hstep
    subst hlast
    have hsize : (r.value.push byte).toList.length = r.value.size + 1 := by simp
    refine ⟨blocks ++ [.text (r.value.push byte).toList (by rw [hsize]; exact hfits)],
      follows_concat ?_ ?_ rfl rfl⟩
    · rw [hbytes, List.append_assoc, Block.bytes, hsize, Array.toList_push]
      rfl
    · rw [Array.toList_push, htexts]
      rfl
  · rename_i hlast
    cases hstep
    have hsize : (r.value.push byte).size + (remaining - 1) = r.value.size + remaining := by
      rw [Array.size_push]
      omega
    refine ⟨blocks, ?_, htexts, ?_⟩
    · rw [hbytes, List.append_assoc]
      simp only [begun, hsize, Array.toList_push]
      rfl
    · show 0 < remaining - 1 ∧ (r.value.push byte).size + (remaining - 1) < 256
      rw [hsize]
      omega

/-- A reader that takes a byte it accepts goes on in its block or comes to the end of it. -/
theorem Follows.step (h : r.Follows bytes blocks) (hstep : r.step byte = .ok r') :
    ∃ blocks', r'.Follows (bytes ++ [byte]) blocks' := by
  cases hexpected : r.expected with
  | tag => exact ⟨blocks, h.step_tag hexpected hstep⟩
  | containerLength => exact ⟨_, h.step_containerLength hexpected hstep⟩
  | textLength => exact h.step_textLength hexpected hstep
  | text remaining => exact h.step_text hexpected hstep

/-- A reader that refuses a byte stands between two blocks. -/
theorem Follows.refuse {e : TopicError} (h : r.Follows bytes blocks)
    (hstep : r.step byte = .error e) (rest : List UInt8) :
    IsSplit (bytes ++ byte :: rest) blocks (byte :: rest) ∧ byte ≠ containerTag ∧
      byte ≠ textTag ∧ e = ⟨byte⟩ := by
  obtain ⟨hexpected, hcontainer, htext, he⟩ := (step_error_iff r byte e).1 hstep
  refine ⟨⟨?_, fun block => not_starts_of_unknown hcontainer htext block rest⟩, hcontainer, htext,
    he⟩
  rw [h.bytes_eq, begun, hexpected, List.append_nil]

/-! ## All bytes -/

/-- Where a run of a reader over more bytes ends: after blocks and inside the next one, or in front
    of a byte that is no tag. -/
theorem Follows.run (h : r.Follows bytes blocks) (more : List UInt8) :
    (∃ r' blocks', more.foldlM Reader.step r = .ok r' ∧ r'.Follows (bytes ++ more) blocks') ∨
      ∃ blocks' tag rest, more.foldlM Reader.step r = .error ⟨tag⟩ ∧
        IsSplit (bytes ++ more) blocks' (tag :: rest) ∧ tag ≠ containerTag ∧ tag ≠ textTag := by
  induction more generalizing r bytes blocks with
  | nil => exact .inl ⟨r, blocks, rfl, by rw [List.append_nil]; exact h⟩
  | cons byte more ih =>
    cases hstep : r.step byte with
    | ok r' =>
      obtain ⟨blocks', h'⟩ := h.step hstep
      have hrun := ih h'
      rw [List.append_assoc, List.singleton_append] at hrun
      rw [List.foldlM_cons, hstep]
      exact hrun
    | error e =>
      obtain ⟨hsplit, hcontainer, htext, rfl⟩ := h.refuse hstep more
      refine .inr ⟨blocks, byte, more, ?_, hsplit, hcontainer, htext⟩
      rw [List.foldlM_cons, hstep]
      rfl

end Reader

/-- Whether a rest starts with a byte that is no tag. -/
def IsUnknown (rest : List UInt8) (tag : UInt8) : Prop :=
  rest.head? = some tag ∧ tag ≠ containerTag ∧ tag ≠ textTag

/-- There is a split, and it says what is read: the texts of the blocks, unless the rest starts with
    a byte that is no tag. -/
theorem exists_isSplit (bytes : List UInt8) :
    ∃ blocks rest, IsSplit bytes blocks rest ∧
      ((∃ tag, IsUnknown rest tag ∧ extract bytes = .error ⟨tag⟩) ∨
        (¬ ∃ tag, IsUnknown rest tag) ∧ extract bytes = .ok (textsOf blocks)) := by
  rcases Reader.follows_start.run bytes with ⟨r, blocks, hrun, h⟩ | h
  · refine ⟨blocks, r.begun, ⟨h.bytes_eq, Reader.begun_starts_none h.isTidy⟩, .inr ⟨?_, ?_⟩⟩
    · rintro ⟨tag, hhead, hcontainer, htext⟩
      unfold Reader.begun at hhead
      split at hhead
      · cases hhead
      · exact hcontainer (Option.some.inj hhead).symm
      · exact htext (Option.some.inj hhead).symm
      · exact htext (Option.some.inj hhead).symm
    · rw [extract, hrun, ← h.texts_eq]
      rfl
  · obtain ⟨blocks, tag, rest, hrun, hsplit, hcontainer, htext⟩ := h
    refine ⟨blocks, tag :: rest, hsplit, .inl ⟨tag, ⟨rfl, hcontainer, htext⟩, ?_⟩⟩
    rw [extract, hrun]
    rfl

/-- What is read of bytes that are split, if no rest starts with an unknown byte. -/
theorem extract_eq_ok (h : IsSplit bytes blocks rest) (hrest : ¬ ∃ tag, IsUnknown rest tag) :
    extract bytes = .ok (textsOf blocks) := by
  obtain ⟨blocks', rest', hsplit, hread⟩ := exists_isSplit bytes
  obtain ⟨rfl, rfl⟩ := h.unique hsplit
  rcases hread with ⟨tag, hunknown, -⟩ | ⟨-, hread⟩
  · exact absurd ⟨tag, hunknown⟩ hrest
  · exact hread

theorem extract_eq_error_iff (h : IsSplit bytes blocks rest) (tag : UInt8) :
    extract bytes = .error ⟨tag⟩ ↔ IsUnknown rest tag := by
  obtain ⟨blocks', rest', hsplit, hread⟩ := exists_isSplit bytes
  obtain ⟨rfl, rfl⟩ := h.unique hsplit
  rcases hread with ⟨found, hunknown, hread⟩ | ⟨hnone, hread⟩
  · rw [hread]
    constructor
    · rintro ⟨⟩
      exact hunknown
    · intro htag
      rw [Option.some.inj (hunknown.1.symm.trans htag.1)]
  · rw [hread]
    constructor
    · rintro ⟨⟩
    · intro htag
      exact absurd ⟨tag, htag⟩ hnone

/-- Complete blocks are read as their texts. -/
theorem extract_join (blocks : List Block) : extract (join blocks) = .ok (textsOf blocks) := by
  apply extract_eq_ok (isSplit_join blocks)
  rintro ⟨tag, hhead, -⟩
  cases hhead

/-! ## Writing -/

/-- Container headers with any length bytes. -/
def headers (lengths : List UInt8) : List UInt8 :=
  lengths.flatMap fun length => [containerTag, length]

/-- A text as a block. -/
def textBytes (text : String) : List UInt8 :=
  textTag :: UInt8.ofNat (Utf8.encode text).length :: Utf8.encode text

/-- Texts, each after container headers, and more headers at the end. -/
def layOut (items : List (List UInt8 × String)) (last : List UInt8) : List UInt8 :=
  items.flatMap (fun i => headers i.1 ++ textBytes i.2) ++ headers last

theorem join_append (blocks others : List Block) :
    join (blocks ++ others) = join blocks ++ join others := List.flatMap_append

theorem textsOf_append (blocks others : List Block) :
    textsOf (blocks ++ others) = textsOf blocks ++ textsOf others := List.filterMap_append

theorem join_containers (lengths : List UInt8) :
    join (lengths.map .container) = headers lengths := List.flatMap_map ..

theorem textsOf_containers (lengths : List UInt8) : textsOf (lengths.map .container) = [] := by
  rw [textsOf, List.filterMap_map]
  exact List.filterMap_eq_nil_iff.2 fun _ _ => rfl

/-- What is laid out is a run of complete blocks. -/
theorem exists_layOut (items : List (List UInt8 × String)) (last : List UInt8)
    (h : ∀ i ∈ items, (Utf8.encode i.2).length ≤ 255) :
    ∃ blocks, layOut items last = join blocks ∧ textsOf blocks = items.map (·.2) := by
  induction items with
  | nil =>
    exact ⟨last.map .container, (join_containers last).symm, textsOf_containers last⟩
  | cons i items ih =>
    obtain ⟨blocks, hbytes, htexts⟩ := ih fun i hi => h i (List.mem_cons_of_mem _ hi)
    have hfits : (Utf8.encode i.2).length < 256 := Nat.lt_succ_of_le (h i List.mem_cons_self)
    refine ⟨i.1.map .container ++ .text (Utf8.encode i.2) hfits :: blocks, ?_, ?_⟩
    · rw [join_append, join_containers, join_cons, ← hbytes, layOut, List.flatMap_cons]
      simp only [List.append_assoc]
      rfl
    · rw [textsOf_append, textsOf_containers, List.nil_append, List.map_cons, ← htexts]
      show Utf8.lossy (Utf8.encode i.2) :: textsOf blocks = _
      rw [Utf8.lossy_encode]

/-- A topic list is read by its grammar. Any bytes have one split into complete blocks and a rest
    that starts none, and no run of complete blocks reaches further; the bytes are refused exactly
    if the rest starts with a byte that is no tag, and otherwise the texts of the blocks are read.
    So texts that are laid out among any container headers are read back. -/
theorem extract_splits :
    (∀ bytes : List UInt8, ∃ blocks rest, IsSplit bytes blocks rest ∧
      (∀ others after, IsSplit bytes others after → others = blocks ∧ after = rest) ∧
      (∀ others after, bytes = join others ++ after → others <+: blocks) ∧
      (∀ tag, extract bytes = .error ⟨tag⟩ ↔
        rest.head? = some tag ∧ tag ≠ containerTag ∧ tag ≠ textTag) ∧
      ((∀ tag, rest.head? = some tag → tag = containerTag ∨ tag = textTag) →
        extract bytes = .ok (textsOf blocks))) ∧
    (∀ (items : List (List UInt8 × String)) (last : List UInt8),
      (∀ i ∈ items, (Utf8.encode i.2).length ≤ 255) →
        extract (layOut items last) = .ok (items.map (·.2))) := by
  constructor
  · intro bytes
    obtain ⟨blocks, rest, hsplit, -⟩ := exists_isSplit bytes
    refine ⟨blocks, rest, hsplit, fun others after h => hsplit.unique h,
      fun others after h => hsplit.isPrefix h, extract_eq_error_iff hsplit, ?_⟩
    intro hrest
    apply extract_eq_ok hsplit
    rintro ⟨tag, hhead, hcontainer, htext⟩
    exact (hrest tag hhead).elim hcontainer htext
  · intro items last hfits
    obtain ⟨blocks, hbytes, htexts⟩ := exists_layOut items last hfits
    rw [hbytes, extract_join, htexts]

/-- The length of the container does not matter, and the last text breaks off. -/
example : extract [0x30, 0x18, 0x0C, 0x02, 0x62, 0x63, 0x0C, 0x00, 0x0C, 0x05, 0x64] =
    .ok ["bc", ""] := by cbv

end Courier.Topics
