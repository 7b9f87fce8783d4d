import Courier.Proofs.Text.Utf8
import Mathlib.Data.List.Basic
import Mathlib.Tactic.SplitIfs

/-!
# The parts of unchecked text

Bytes that nobody has checked fall into characters and maximal invalid parts. Where no character can
be read, the invalid part is as long as it can be and still begin one; a byte that begins none is a
part of its own. A text that is cut off within a character ends with one invalid part.

Results:

* `exists_char_iff`, `begins_iff`: the bytes that make or begin a character, by the first of them.
* `decode_eq_iff`: bytes are read part by part, and there is one way to take them apart.
* `Parts.length_le`: there are no more parts than bytes.
* `isInvalidPart_cut`: what is left of a character that is cut off.
-/

namespace Courier.Utf8

/-! ## Leads -/

theorem lead?_bounds {b : UInt8} {l : Lead} (h : lead? b = some l) :
    0xC2 ≤ b.toNat ∧ b.toNat ≤ 0xF4 := by
  unfold lead? at h
  simp [UInt8.le_iff_toNat_le, ← UInt8.toNat_inj] at h
  grind

theorem lead?_not_ascii {b : UInt8} {l : Lead} (h : lead? b = some l) : ¬ b < 0x80 := by
  have hlow := (lead?_bounds h).1
  show ¬ b.toNat < 0x80
  omega

theorem lead?_cases {b : UInt8} {l : Lead} (h : lead? b = some l) :
    (∃ k : Fin 32, 2 ≤ k.val ∧ b = UInt8.ofNat (k.val + 0xC0)) ∨
    (∃ k : Fin 16, b = UInt8.ofNat (k.val + 0xE0)) ∨
    ∃ k : Fin 5, b = UInt8.ofNat (k.val + 0xF0) := by
  have hbounds := lead?_bounds h
  have hb (base k : Nat) (hk : b.toNat = k + base) : b = UInt8.ofNat (k + base) := by
    rw [← hk, UInt8.ofNat_toNat]
  rcases Nat.lt_or_ge b.toNat 0xE0 with h2 | h2
  · exact .inl ⟨⟨b.toNat - 0xC0, by omega⟩, by simp; omega, hb _ _ (by simp; omega)⟩
  rcases Nat.lt_or_ge b.toNat 0xF0 with h3 | h3
  · exact .inr (.inl ⟨⟨b.toNat - 0xE0, by omega⟩, hb _ _ (by simp; omega)⟩)
  · exact .inr (.inr ⟨⟨b.toNat - 0xF0, by omega⟩, hb _ _ (by simp; omega)⟩)

/-- A lead asks for a continuation byte, and there is one that it allows. -/
theorem lead?_range {b : UInt8} {l : Lead} (h : lead? b = some l) :
    0x80 ≤ l.low ∧ l.low ≤ l.high ∧ l.high ≤ 0xBF := by
  unfold lead? at h
  split_ifs at h <;> cases h <;> simp

/-! ## Characters by their value -/

theorem toNat_val_ofNat {v : Nat} (h : v < 0xD800 ∨ (0xDFFF < v ∧ v < 0x110000)) :
    (Char.ofNat v).val.toNat = v := by
  rw [Char.ofNat, dif_pos h]
  rfl

theorem exists_one {v : Nat} (h : v < 0x80) : ∃ c, String.utf8EncodeChar c = [UInt8.ofNat v] := by
  refine ⟨Char.ofNat v, ?_⟩
  rw [String.utf8EncodeChar, toNat_val_ofNat (by omega), if_pos (by omega)]

theorem exists_two {k x : Nat} (hk : 2 ≤ k) (hk' : k < 32) (hx : x < 64) :
    ∃ c, String.utf8EncodeChar c = [UInt8.ofNat (k + 0xC0), UInt8.ofNat (x + 0x80)] := by
  refine ⟨Char.ofNat (k * 64 + x), ?_⟩
  rw [String.utf8EncodeChar, toNat_val_ofNat (by omega), if_neg (by omega), if_pos (by omega),
    show (k * 64 + x) / 64 % 32 = k by omega, show (k * 64 + x) % 64 = x by omega]

theorem exists_three {k x y : Nat} (hk : k < 16) (hx : x < 64) (hy : y < 64)
    (hlow : k = 0 → 32 ≤ x) (hhigh : k = 13 → x < 32) :
    ∃ c, String.utf8EncodeChar c =
      [UInt8.ofNat (k + 0xE0), UInt8.ofNat (x + 0x80), UInt8.ofNat (y + 0x80)] := by
  refine ⟨Char.ofNat ((k * 64 + x) * 64 + y), ?_⟩
  rw [String.utf8EncodeChar, toNat_val_ofNat (by omega), if_neg (by omega), if_neg (by omega),
    if_pos (by omega),
    show ((k * 64 + x) * 64 + y) / 4096 % 16 = k by omega,
    show ((k * 64 + x) * 64 + y) / 64 % 64 = x by omega,
    show ((k * 64 + x) * 64 + y) % 64 = y by omega]

theorem exists_four {k x y z : Nat} (hk : k < 5) (hx : x < 64) (hy : y < 64) (hz : z < 64)
    (hlow : k = 0 → 16 ≤ x) (hhigh : k = 4 → x < 16) :
    ∃ c, String.utf8EncodeChar c =
      [UInt8.ofNat (k + 0xF0), UInt8.ofNat (x + 0x80), UInt8.ofNat (y + 0x80),
        UInt8.ofNat (z + 0x80)] := by
  refine ⟨Char.ofNat (((k * 64 + x) * 64 + y) * 64 + z), ?_⟩
  rw [String.utf8EncodeChar, toNat_val_ofNat (by omega), if_neg (by omega), if_neg (by omega),
    if_neg (by omega),
    show (((k * 64 + x) * 64 + y) * 64 + z) / 262144 % 8 = k by omega,
    show (((k * 64 + x) * 64 + y) * 64 + z) / 4096 % 64 = x by omega,
    show (((k * 64 + x) * 64 + y) * 64 + z) / 64 % 64 = y by omega,
    show (((k * 64 + x) * 64 + y) * 64 + z) % 64 = z by omega]

/-! ## What may follow a lead -/

/-- A byte that continues a character. -/
def IsContinuation (b : UInt8) : Prop := 0x80 ≤ b ∧ b ≤ 0xBF

/-- Whether bytes may follow a lead: the first in the range that it asks for, then continuation
    bytes, and no more of them than it has room for. -/
def Lead.Allows (l : Lead) : List UInt8 → Prop
  | [] => True
  | x :: bs => (l.low ≤ x ∧ x ≤ l.high) ∧ bs.length ≤ l.more ∧ ∀ y ∈ bs, IsContinuation y

theorem Lead.allows_cons {l : Lead} {x : UInt8} {bs : List UInt8} :
    l.Allows (x :: bs) ↔
      (l.low ≤ x ∧ x ≤ l.high) ∧ bs.length ≤ l.more ∧ ∀ y ∈ bs, IsContinuation y :=
  .rfl

theorem Lead.Allows.of_append {l : Lead} {bs more : List UInt8} (h : l.Allows (bs ++ more)) :
    l.Allows bs := by
  cases bs with
  | nil => trivial
  | cons x bs =>
    rw [List.cons_append, Lead.allows_cons, List.length_append] at h
    obtain ⟨hx, hlength, hcont⟩ := h
    exact ⟨hx, by omega, fun y hy => hcont y (List.mem_append_left more hy)⟩

/-- A lead can be completed. -/
theorem Lead.Allows.exists_append {b : UInt8} {l : Lead} (hl : lead? b = some l)
    {bs : List UInt8} (h : l.Allows bs) :
    ∃ more, l.Allows (bs ++ more) ∧ (bs ++ more).length = l.more + 1 := by
  obtain ⟨-, hrange, -⟩ := lead?_range hl
  have hpad (n : Nat) : ∀ y ∈ List.replicate n (0x80 : UInt8), IsContinuation y := by
    intro y hy
    rw [List.eq_of_mem_replicate hy]
    exact ⟨by decide, by decide⟩
  cases bs with
  | nil =>
    refine ⟨l.low :: List.replicate l.more 0x80, ?_, by simp⟩
    rw [List.nil_append, Lead.allows_cons, List.length_replicate]
    exact ⟨⟨UInt8.le_refl _, hrange⟩, Nat.le_refl _, hpad _⟩
  | cons x bs =>
    obtain ⟨hx, hlength, hcont⟩ := h
    refine ⟨List.replicate (l.more - bs.length) 0x80, ?_, by simp; omega⟩
    rw [List.cons_append, Lead.allows_cons, List.length_append, List.length_replicate]
    exact ⟨hx, by omega, List.forall_mem_append.mpr ⟨hcont, hpad _⟩⟩

theorem IsContinuation.eq_ofNat {y : UInt8} (h : IsContinuation y) :
    ∃ x < 64, y = UInt8.ofNat (x + 0x80) := by
  have hlow : 0x80 ≤ y.toNat := h.1
  have hhigh : y.toNat ≤ 0xBF := h.2
  exact ⟨y.toNat - 0x80, by omega, by rw [Nat.sub_add_cancel hlow, UInt8.ofNat_toNat]⟩

/-- The second bytes that a lead allows, by their value. -/
theorem exists_of_mem_range {b : UInt8} {l : Lead} (hl : lead? b = some l) {x : UInt8}
    (hlow : l.low ≤ x) (hhigh : x ≤ l.high) :
    ∃ v < 64, x = UInt8.ofNat (v + 0x80) ∧ l.low.toNat ≤ v + 0x80 ∧ v + 0x80 ≤ l.high.toNat := by
  obtain ⟨h, -, h'⟩ := lead?_range hl
  obtain ⟨v, hv, rfl⟩ := IsContinuation.eq_ofNat ⟨UInt8.le_trans h hlow, UInt8.le_trans hhigh h'⟩
  rw [UInt8.le_iff_toNat_le, toNat_ofNat_add (by omega)] at hlow hhigh
  exact ⟨v, hv, rfl, hlow, hhigh⟩

/-- A lead with all the bytes that it allows makes a character. -/
theorem exists_char_of_allows {b : UInt8} {l : Lead} {bs : List UInt8} (hl : lead? b = some l)
    (h : l.Allows bs) (hlength : bs.length = l.more + 1) :
    ∃ c, String.utf8EncodeChar c = b :: bs := by
  have hsecond {x : UInt8} := exists_of_mem_range hl (x := x)
  rcases lead?_cases hl with ⟨k, hk, rfl⟩ | ⟨k, rfl⟩ | ⟨k, rfl⟩
  · cases (lead?_two k hk).symm.trans hl
    obtain ⟨x, rfl⟩ := List.length_eq_one_iff.mp hlength
    obtain ⟨x, hx, rfl, -⟩ := hsecond h.1.1 h.1.2
    exact exists_two hk k.isLt hx
  · cases (lead?_three k).symm.trans hl
    obtain ⟨x, y, rfl⟩ := List.length_eq_two.mp hlength
    obtain ⟨x, hx, rfl, hlow, hhigh⟩ := hsecond h.1.1 h.1.2
    obtain ⟨y, hy, rfl⟩ := (h.2.2 y (by simp)).eq_ofNat
    apply exists_three k.isLt hx hy
    · intro hk
      simpa [hk] using hlow
    · intro hk
      simp [hk] at hhigh
      omega
  · cases (lead?_four k).symm.trans hl
    obtain ⟨x, y, z, rfl⟩ := List.length_eq_three.mp hlength
    obtain ⟨x, hx, rfl, hlow, hhigh⟩ := hsecond h.1.1 h.1.2
    obtain ⟨y, hy, rfl⟩ := (h.2.2 y (by simp)).eq_ofNat
    obtain ⟨z, hz, rfl⟩ := (h.2.2 z (by simp)).eq_ofNat
    apply exists_four k.isLt hx hy hz
    · intro hk
      simpa [hk] using hlow
    · intro hk
      simp [hk] at hhigh
      omega

/-! ## Reading one character -/

theorem tail_eq_some {more v : Nat} {bs rest : List UInt8} {c : Char}
    (h : tail more v bs = (some c, rest)) :
    ∃ read, bs = read ++ rest ∧ read.length = more ∧ ∀ y ∈ read, IsContinuation y := by
  induction more, v, bs using tail.induct with
  | case1 v bs =>
    rw [tail] at h
    cases h
    exact ⟨[], rfl, rfl, by simp⟩
  | case2 => cases h
  | case3 more v y bs hy ih =>
    rw [tail, if_pos hy] at h
    obtain ⟨read, rfl, rfl, hread⟩ := ih h
    exact ⟨y :: read, rfl, rfl, List.forall_mem_cons.mpr ⟨hy, hread⟩⟩
  | case4 more v y bs hy =>
    rw [tail, if_neg hy] at h
    cases h

/-- Continuation bytes are read as far as they go. -/
theorem tail_eq_none {more v : Nat} {bs rest : List UInt8} (h : tail more v bs = (none, rest)) :
    ∃ read, bs = read ++ rest ∧ read.length < more ∧ (∀ y ∈ read, IsContinuation y) ∧
      ∀ y ∈ rest.head?, ¬ IsContinuation y := by
  induction more, v, bs using tail.induct with
  | case1 => cases h
  | case2 =>
    rw [tail] at h
    cases h
    exact ⟨[], rfl, by simp, by simp, by simp⟩
  | case3 more v y bs hy ih =>
    rw [tail, if_pos hy] at h
    obtain ⟨read, rfl, hlength, hread, hstop⟩ := ih h
    exact ⟨y :: read, rfl, Nat.succ_lt_succ hlength, List.forall_mem_cons.mpr ⟨hy, hread⟩, hstop⟩
  | case4 more v y bs hy =>
    rw [tail, if_neg hy] at h
    cases h
    exact ⟨[], rfl, Nat.succ_pos more, by simp, by rintro _ ⟨⟩; exact hy⟩

/-- The bytes that are read as a character. -/
theorem next_eq_some {b : UInt8} {bs rest : List UInt8} {c : Char}
    (h : next b bs = (some c, rest)) :
    (b < 0x80 ∧ bs = rest) ∨
    ∃ l read, lead? b = some l ∧ bs = read ++ rest ∧ l.Allows read ∧
      read.length = l.more + 1 := by
  unfold next at h
  split at h
  · rename_i hb
    cases h
    exact .inl ⟨hb, rfl⟩
  · right
    split at h
    · cases h
    · cases h
    · rename_i l x bs hl
      split at h
      · rename_i hx
        obtain ⟨read, rfl, hlength, hread⟩ := tail_eq_some h
        exact ⟨l, x :: read, hl, rfl, ⟨hx, Nat.le_of_eq hlength, hread⟩, congrArg Nat.succ hlength⟩
      · cases h

/-- The bytes that are skipped where no character can be read. -/
theorem next_eq_none {b : UInt8} {bs rest : List UInt8} (h : next b bs = (none, rest)) :
    (0x80 ≤ b ∧ lead? b = none ∧ bs = rest) ∨
    ∃ l read, lead? b = some l ∧ bs = read ++ rest ∧ l.Allows read ∧ read.length ≤ l.more ∧
      ∀ y ∈ rest.head?, ¬ l.Allows (read ++ [y]) := by
  unfold next at h
  split at h
  · cases h
  · rename_i hb
    split at h
    · rename_i hl
      cases h
      exact .inl ⟨UInt8.not_lt.mp hb, hl, rfl⟩
    · rename_i l hl
      cases h
      exact .inr ⟨l, [], hl, rfl, trivial, Nat.zero_le _, by simp⟩
    · rename_i l x bs hl
      refine .inr ⟨l, ?_⟩
      split at h
      · rename_i hx
        obtain ⟨read, rfl, hlength, hread, hstop⟩ := tail_eq_none h
        refine ⟨x :: read, hl, rfl, ⟨hx, Nat.le_of_lt hlength, hread⟩, hlength, ?_⟩
        exact fun y hy hallows => hstop y hy (hallows.2.2 y (by simp))
      · rename_i hx
        cases h
        exact ⟨[], hl, rfl, trivial, Nat.zero_le _, by rintro _ ⟨⟩ hallows; exact hx hallows.1⟩

/-! ## What begins a character -/

/-- Whether bytes are the first ones of some character, or all of them. -/
def Begins (bs : List UInt8) : Prop := ∃ c, bs <+: String.utf8EncodeChar c

/-- The byte sequences of the characters, by their first byte. -/
theorem exists_char_iff {b : UInt8} {bs : List UInt8} :
    (∃ c, String.utf8EncodeChar c = b :: bs) ↔
      (b < 0x80 ∧ bs = []) ∨
      ∃ l, lead? b = some l ∧ l.Allows bs ∧ bs.length = l.more + 1 := by
  constructor
  · rintro ⟨c, hc⟩
    have hnext := next_utf8EncodeChar hc []
    rw [List.append_nil] at hnext
    rcases next_eq_some hnext with ⟨hb, hbs⟩ | ⟨l, read, hl, hbs, hread⟩
    · exact .inl ⟨hb, hbs⟩
    · rw [hbs, List.append_nil]
      exact .inr ⟨l, hl, hread⟩
  · rintro (⟨hb, rfl⟩ | ⟨l, hl, hallows, hlength⟩)
    · obtain ⟨c, hc⟩ := exists_one (v := b.toNat) hb
      exact ⟨c, by rw [hc, UInt8.ofNat_toNat]⟩
    · exact exists_char_of_allows hl hallows hlength

/-- The byte sequences that begin a character, by their first byte. -/
theorem begins_iff {b : UInt8} {bs : List UInt8} :
    Begins (b :: bs) ↔ (b < 0x80 ∧ bs = []) ∨ ∃ l, lead? b = some l ∧ l.Allows bs := by
  constructor
  · rintro ⟨c, more, hc⟩
    rcases exists_char_iff.mp ⟨c, hc.symm⟩ with ⟨hb, hbs⟩ | ⟨l, hl, hallows, -⟩
    · exact .inl ⟨hb, (List.append_eq_nil_iff.mp hbs).1⟩
    · exact .inr ⟨l, hl, hallows.of_append⟩
  · rintro (hb | ⟨l, hl, hallows⟩)
    · obtain ⟨c, hc⟩ := exists_char_iff.mpr (.inl hb)
      exact ⟨c, hc ▸ List.prefix_rfl⟩
    · obtain ⟨more, hmore, hlength⟩ := hallows.exists_append hl
      obtain ⟨c, hc⟩ := exists_char_of_allows hl hmore hlength
      exact ⟨c, more, hc.symm⟩

/-! ## Maximal invalid parts -/

/-- Bytes that are the maximal invalid part in front of others: where no character can be read, the
    most bytes that begin one, or the one byte that begins none. -/
structure IsInvalidPart (part rest : List UInt8) : Prop where
  nonempty : part ≠ []
  /-- No character can be read. -/
  unreadable : ∀ c, ¬ String.utf8EncodeChar c <+: part ++ rest
  /-- The part begins a character, or it is one byte. -/
  begins : Begins part ∨ part.length = 1
  /-- No more bytes begin a character. -/
  maximal : ∀ bs, bs <+: part ++ rest → Begins bs → bs.length ≤ part.length

/-- A character that can be read starts with the first byte. -/
theorem exists_cons_of_start {c : Char} {b : UInt8} {bs : List UInt8}
    (h : String.utf8EncodeChar c <+: b :: bs) : ∃ rest, String.utf8EncodeChar c = b :: rest := by
  obtain ⟨x, rest, hc⟩ := List.exists_cons_of_ne_nil (String.utf8EncodeChar_ne_nil (c := c))
  rw [hc] at h ⊢
  rw [(List.cons_prefix_cons.mp h).1]
  exact ⟨rest, rfl⟩

/-- A byte that starts nothing is a part of its own. -/
theorem isInvalidPart_singleton {b : UInt8} (hb : 0x80 ≤ b) (hl : lead? b = none)
    (rest : List UInt8) : IsInvalidPart [b] rest := by
  have hnone (bs : List UInt8) : ¬ Begins (b :: bs) := by
    rw [begins_iff]
    rintro (⟨hascii, -⟩ | ⟨l, hsome, -⟩)
    · exact UInt8.not_lt.mpr hb hascii
    · rw [hl] at hsome
      cases hsome
  refine ⟨by simp, fun c hc => ?_, .inr rfl, fun bs hbs hbegins => ?_⟩
  · obtain ⟨more, hmore⟩ := exists_cons_of_start hc
    exact hnone more ⟨c, hmore ▸ List.prefix_rfl⟩
  · cases bs with
    | nil => exact Nat.zero_le _
    | cons x bs =>
      obtain ⟨rfl, -⟩ := List.cons_prefix_cons.mp hbs
      exact absurd hbegins (hnone bs)

/-- No more bytes begin a character than a lead allows. -/
theorem length_le_of_begins {b : UInt8} {l : Lead} {read rest : List UInt8}
    (hl : lead? b = some l) (hstop : ∀ y ∈ rest.head?, ¬ l.Allows (read ++ [y]))
    {bs : List UInt8} (hbs : bs <+: b :: read ++ rest) (hbegins : Begins bs) :
    bs.length ≤ (b :: read).length := by
  by_contra hlonger
  -- the longer bytes hold the next one, too
  obtain ⟨more, rfl⟩ := List.prefix_of_prefix_length_le (List.prefix_append (b :: read) rest) hbs
    (by omega)
  cases more with
  | nil => simp at hlonger
  | cons y more =>
    obtain ⟨after, rfl⟩ := (List.prefix_append_right_inj _).mp hbs
    rcases begins_iff.mp hbegins with ⟨hb, -⟩ | ⟨l', hl', hallows⟩
    · exact lead?_not_ascii hl hb
    · cases hl.symm.trans hl'
      have hnext : l.Allows ((read ++ [y]) ++ more) := by rwa [List.append_assoc]
      exact hstop y rfl hnext.of_append

/-- A lead with bytes that it allows is a maximal invalid part, if there are too few of them for a
    character and the next byte, if any, is none that it allows. -/
theorem isInvalidPart_of_allows {b : UInt8} {l : Lead} {read rest : List UInt8}
    (hl : lead? b = some l) (hread : l.Allows read) (hlength : read.length ≤ l.more)
    (hstop : ∀ y ∈ rest.head?, ¬ l.Allows (read ++ [y])) :
    IsInvalidPart (b :: read) rest := by
  refine ⟨by simp, fun c hc => ?_, .inl (begins_iff.mpr (.inr ⟨l, hl, hread⟩)),
    fun bs => length_le_of_begins hl hstop⟩
  -- a character would be longer than the part
  have hshort := length_le_of_begins hl hstop hc ⟨c, List.prefix_rfl⟩
  obtain ⟨bs, hbs⟩ := exists_cons_of_start hc
  rcases exists_char_iff.mp ⟨c, hbs⟩ with ⟨hb, -⟩ | ⟨l', hl', -, hwhole⟩
  · exact lead?_not_ascii hl hb
  · cases hl.symm.trans hl'
    rw [hbs, List.length_cons, List.length_cons] at hshort
    omega

/-- There is one maximal invalid part. -/
theorem IsInvalidPart.unique {part rest other after : List UInt8} (h : IsInvalidPart part rest)
    (h' : IsInvalidPart other after) (heq : part ++ rest = other ++ after) :
    part = other ∧ rest = after := by
  have hle {p r q s : List UInt8} (hp : IsInvalidPart p r) (hq : IsInvalidPart q s)
      (heq : p ++ r = q ++ s) : p.length ≤ q.length := by
    rcases hp.begins with hbegins | hone
    · exact hq.maximal p (heq ▸ List.prefix_append p r) hbegins
    · rw [hone]
      exact List.length_pos_of_ne_nil hq.nonempty
  exact List.append_inj heq (Nat.le_antisymm (hle h h' heq) (hle h' h heq.symm))

/-- Where no character can be read, the maximal invalid part is skipped. -/
theorem exists_isInvalidPart {b : UInt8} {bs rest : List UInt8} (h : next b bs = (none, rest)) :
    ∃ part, b :: bs = part ++ rest ∧ IsInvalidPart part rest := by
  rcases next_eq_none h with ⟨hb, hl, rfl⟩ | ⟨l, read, hl, rfl, hread, hlength, hstop⟩
  · exact ⟨[b], rfl, isInvalidPart_singleton hb hl bs⟩
  · exact ⟨b :: read, rfl, isInvalidPart_of_allows hl hread hlength hstop⟩

/-- A character that is read is what the bytes spell. -/
theorem eq_append_of_next {b : UInt8} {bs rest : List UInt8} {c : Char}
    (h : next b bs = (some c, rest)) : b :: bs = String.utf8EncodeChar c ++ rest := by
  obtain ⟨read, rfl, d, hd⟩ : ∃ read, bs = read ++ rest ∧
      ∃ d, String.utf8EncodeChar d = b :: read := by
    rcases next_eq_some h with ⟨hb, rfl⟩ | ⟨l, read, hl, rfl, hread, hlength⟩
    · exact ⟨[], rfl, exists_char_iff.mpr (.inl ⟨hb, rfl⟩)⟩
    · exact ⟨read, rfl, exists_char_of_allows hl hread hlength⟩
  cases (next_utf8EncodeChar hd rest).symm.trans h
  rw [hd, List.cons_append]

/-! ## Texts -/

/-- How unchecked bytes fall into characters and maximal invalid parts. -/
inductive Parts : List UInt8 → List (Option Char) → Prop
  | nil : Parts [] []
  | char (c : Char) {rest : List UInt8} {parts : List (Option Char)} :
    Parts rest parts → Parts (String.utf8EncodeChar c ++ rest) (some c :: parts)
  | invalid {part rest : List UInt8} {parts : List (Option Char)} :
    IsInvalidPart part rest → Parts rest parts → Parts (part ++ rest) (none :: parts)

theorem parts_decode (bs : List UInt8) : Parts bs (decode bs) := by
  induction hn : bs.length using Nat.strongRecOn generalizing bs with
  | ind n ih =>
    cases bs with
    | nil =>
      rw [decode_nil]
      exact .nil
    | cons b bs =>
      have hlength := next_length_le b bs
      rw [List.length_cons] at hn
      rw [decode_cons]
      have hrest := ih _ (by omega) (next b bs).2 rfl
      generalize hnext : next b bs = step at hrest hlength ⊢
      obtain ⟨c | c, rest⟩ := step
      · obtain ⟨part, heq, hpart⟩ := exists_isInvalidPart hnext
        rw [heq]
        exact .invalid hpart hrest
      · rw [eq_append_of_next hnext]
        exact .char c hrest

theorem decode_invalidPart {part rest : List UInt8} (h : IsInvalidPart part rest) :
    decode (part ++ rest) = none :: decode rest := by
  obtain ⟨b, bs, rfl⟩ := List.exists_cons_of_ne_nil h.nonempty
  rw [List.cons_append, decode_cons]
  cases hnext : next b (bs ++ rest) with
  | mk c after =>
    cases c with
    | none =>
      obtain ⟨other, heq, hother⟩ := exists_isInvalidPart hnext
      obtain ⟨-, rfl⟩ := h.unique hother heq
      rfl
    | some c =>
      refine absurd ?_ (h.unreadable c)
      rw [List.cons_append, eq_append_of_next hnext]
      exact List.prefix_append _ _

/-- Bytes are read part by part. -/
theorem decode_eq_iff {bs : List UInt8} {parts : List (Option Char)} :
    decode bs = parts ↔ Parts bs parts := by
  constructor
  · rintro rfl
    exact parts_decode bs
  · intro h
    induction h with
    | nil => exact decode_nil
    | char c _ ih => rw [decode_utf8EncodeChar, ih]
    | invalid hpart _ ih => rw [decode_invalidPart hpart, ih]

example : decode [0xF0, 0x80, 0x41] = [none, none, some 'A'] := by cbv

/-- There are no more parts than bytes. -/
theorem Parts.length_le {bs : List UInt8} {parts : List (Option Char)} (h : Parts bs parts) :
    parts.length ≤ bs.length := by
  induction h with
  | nil => exact Nat.le_refl _
  | char c _ ih =>
    have := c.utf8Size_pos
    rw [List.length_append, String.length_utf8EncodeChar, List.length_cons]
    omega
  | invalid hpart _ ih =>
    have := List.length_pos_of_ne_nil hpart.nonempty
    rw [List.length_append, List.length_cons]
    omega

/-- A character that is cut off within is a part of its own at the end. -/
theorem isInvalidPart_cut {c : Char} {part : List UInt8} (h : part <+: String.utf8EncodeChar c)
    (hne : part ≠ []) (hcut : part ≠ String.utf8EncodeChar c) : IsInvalidPart part [] := by
  refine ⟨hne, fun d hd => hcut ?_, .inl ⟨c, h⟩, fun bs hbs _ => ?_⟩
  · rw [List.append_nil] at hd
    -- reading the character gives the one that the part would spell
    obtain ⟨more, hmore⟩ := hd.trans h
    have hread := decode_utf8EncodeChar d more
    rw [hmore, ← List.append_nil (String.utf8EncodeChar c), decode_utf8EncodeChar] at hread
    obtain rfl : c = d := Option.some.inj (List.cons.inj hread).1
    exact h.eq_of_length_le hd.length_le
  · rw [List.append_nil] at hbs
    exact hbs.length_le

end Courier.Utf8
