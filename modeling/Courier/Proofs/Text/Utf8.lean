import Courier.Text.Utf8

/-!
# Reading what was written in UTF-8

Results:

* `next_utf8EncodeChar`, `decode_utf8EncodeChar`: the bytes of a character are read as that
  character, whatever follows.
* `decodeText?_flatMap`: the bytes of a text are read as that text.
* `lossy_encode_append`, `lossy_encode`: nothing of a text is replaced.
-/

namespace Courier.Utf8

deriving instance DecidableEq for Lead

/-! ## Leads -/

theorem lead?_two : ∀ h : Fin 32, 2 ≤ h.val →
    lead? (UInt8.ofNat (h.val + 0xC0)) = some ⟨0x80, 0xBF, 0, h.val⟩ := by
  decide

theorem lead?_three : ∀ h : Fin 16, lead? (UInt8.ofNat (h.val + 0xE0)) =
    some ⟨if h.val = 0 then 0xA0 else 0x80, if h.val = 13 then 0x9F else 0xBF, 1, h.val⟩ := by
  decide

theorem lead?_four : ∀ h : Fin 5, lead? (UInt8.ofNat (h.val + 0xF0)) =
    some ⟨if h.val = 0 then 0x90 else 0x80, if h.val = 4 then 0x8F else 0xBF, 2, h.val⟩ := by
  decide

/-! ## Bytes -/

theorem toNat_ofNat_add {h base : Nat} (hlt : h + base < 256) :
    (UInt8.ofNat (h + base)).toNat = h + base := by
  rw [UInt8.toNat_ofNat', Nat.mod_eq_of_lt hlt]

theorem toNat_continuation (x : Nat) : (UInt8.ofNat (x % 64 + 0x80)).toNat = x % 64 + 0x80 :=
  toNat_ofNat_add (by omega)

theorem tail_continuation (more v x : Nat) (rest : List UInt8) :
    tail (more + 1) v (UInt8.ofNat (x % 64 + 0x80) :: rest) = tail more (v * 64 + x % 64) rest := by
  have hbyte := toNat_continuation x
  have hrange : 0x80 ≤ UInt8.ofNat (x % 64 + 0x80) ∧ UInt8.ofNat (x % 64 + 0x80) ≤ 0xBF := by
    rw [UInt8.le_iff_toNat_le, UInt8.le_iff_toNat_le, hbyte]
    exact ⟨Nat.le_add_left .., by show _ ≤ 191; omega⟩
  rw [tail, if_pos hrange, hbyte, Nat.add_sub_cancel]

/-- A byte that starts a character, and a continuation byte in the range that it asks for. -/
theorem next_lead {b : UInt8} {l : Lead} (hb : 0x80 ≤ b.toNat) (hl : lead? b = some l) {x : Nat}
    (hlow : l.low.toNat ≤ x % 64 + 0x80) (hhigh : x % 64 + 0x80 ≤ l.high.toNat)
    (rest : List UInt8) :
    next b (UInt8.ofNat (x % 64 + 0x80) :: rest) = tail l.more (l.bits * 64 + x % 64) rest := by
  have hbyte := toNat_continuation x
  have hascii : ¬ b < 0x80 := Nat.not_lt.2 hb
  rw [← hbyte] at hlow hhigh
  unfold next
  rw [if_neg hascii]
  simp only [hl]
  rw [if_pos ⟨hlow, hhigh⟩, hbyte, Nat.add_sub_cancel]

/-! ## Characters -/

theorem next_one {v : Nat} (h : v < 0x80) (rest : List UInt8) :
    next (UInt8.ofNat v) rest = (some (Char.ofNat v), rest) := by
  have hbyte : (UInt8.ofNat v).toNat = v := by
    rw [UInt8.toNat_ofNat', Nat.mod_eq_of_lt (by omega)]
  have hascii : UInt8.ofNat v < 0x80 := by
    rw [UInt8.lt_iff_toNat_lt, hbyte]
    exact h
  unfold next
  rw [if_pos hascii, hbyte]

theorem next_two {v : Nat} (h : 0x80 ≤ v) (h' : v < 0x800) (rest : List UInt8) :
    next (UInt8.ofNat (v / 64 % 32 + 0xC0)) (UInt8.ofNat (v % 64 + 0x80) :: rest) =
      (some (Char.ofNat v), rest) := by
  have hvalue : v / 64 % 32 * 64 + v % 64 = v := by omega
  have hlead := lead?_two ⟨v / 64 % 32, Nat.mod_lt _ (by decide)⟩ (by show 2 ≤ v / 64 % 32; omega)
  rw [next_lead (by rw [toNat_ofNat_add (by omega)]; omega) hlead (by show 128 ≤ _; omega)
    (by show _ ≤ 191; omega), tail, hvalue]

theorem next_three {v : Nat} (h : 0x800 ≤ v) (h' : v < 0x10000)
    (hsurrogate : v < 0xD800 ∨ 0xDFFF < v) (rest : List UInt8) :
    next (UInt8.ofNat (v / 4096 % 16 + 0xE0))
        (UInt8.ofNat (v / 64 % 64 + 0x80) :: UInt8.ofNat (v % 64 + 0x80) :: rest) =
      (some (Char.ofNat v), rest) := by
  have hvalue : (v / 4096 % 16 * 64 + v / 64 % 64) * 64 + v % 64 = v := by omega
  have hlow : (if v / 4096 % 16 = 0 then 0xA0 else 0x80 : UInt8).toNat ≤ v / 64 % 64 + 0x80 := by
    split
    · show 160 ≤ _
      omega
    · exact Nat.le_add_left ..
  have hhigh : v / 64 % 64 + 0x80 ≤ (if v / 4096 % 16 = 13 then 0x9F else 0xBF : UInt8).toNat := by
    split
    · show _ ≤ 159
      omega
    · show _ ≤ 191
      omega
  rw [next_lead (by rw [toNat_ofNat_add (by omega)]; omega)
    (lead?_three ⟨v / 4096 % 16, Nat.mod_lt _ (by decide)⟩) hlow hhigh, tail_continuation, tail,
    hvalue]

theorem next_four {v : Nat} (h : 0x10000 ≤ v) (h' : v < 0x110000) (rest : List UInt8) :
    next (UInt8.ofNat (v / 262144 % 8 + 0xF0))
        (UInt8.ofNat (v / 4096 % 64 + 0x80) :: UInt8.ofNat (v / 64 % 64 + 0x80) ::
          UInt8.ofNat (v % 64 + 0x80) :: rest) =
      (some (Char.ofNat v), rest) := by
  have hvalue : ((v / 262144 % 8 * 64 + v / 4096 % 64) * 64 + v / 64 % 64) * 64 + v % 64 = v := by
    omega
  have hlow : (if v / 262144 % 8 = 0 then 0x90 else 0x80 : UInt8).toNat ≤
      v / 4096 % 64 + 0x80 := by
    split
    · show 144 ≤ _
      omega
    · exact Nat.le_add_left ..
  have hhigh : v / 4096 % 64 + 0x80 ≤
      (if v / 262144 % 8 = 4 then 0x8F else 0xBF : UInt8).toNat := by
    split
    · show _ ≤ 143
      omega
    · show _ ≤ 191
      omega
  rw [next_lead (by rw [toNat_ofNat_add (by omega)]; omega)
    (lead?_four ⟨v / 262144 % 8, by omega⟩) hlow hhigh, tail_continuation, tail_continuation, tail,
    hvalue]

theorem next_utf8EncodeChar {c : Char} {b : UInt8} {bs : List UInt8}
    (h : String.utf8EncodeChar c = b :: bs) (rest : List UInt8) :
    next b (bs ++ rest) = (some c, rest) := by
  have hv : c.val.toNat < 0xD800 ∨ (0xDFFF < c.val.toNat ∧ c.val.toNat < 0x110000) := c.valid
  have hc : Char.ofNat c.val.toNat = c := Char.ofNat_toNat c
  unfold String.utf8EncodeChar at h
  generalize c.val.toNat = v at h hv hc
  simp only at h
  split at h
  · cases h
    rw [List.nil_append, next_one (by omega), hc]
  · split at h
    · cases h
      rw [List.singleton_append, next_two (by omega) (by omega), hc]
    · split at h
      · cases h
        simp only [List.cons_append, List.nil_append]
        rw [next_three (by omega) (by omega) (by omega), hc]
      · cases h
        simp only [List.cons_append, List.nil_append]
        rw [next_four (by omega) (by omega), hc]

theorem decode_utf8EncodeChar (c : Char) (rest : List UInt8) :
    decode (String.utf8EncodeChar c ++ rest) = some c :: decode rest := by
  obtain ⟨b, bs, h⟩ := List.exists_cons_of_ne_nil (String.utf8EncodeChar_ne_nil (c := c))
  rw [h, List.cons_append, decode_cons, next_utf8EncodeChar h]

theorem decode_flatMap_append (text : List Char) (rest : List UInt8) :
    decode (text.flatMap String.utf8EncodeChar ++ rest) = text.map some ++ decode rest := by
  induction text with
  | nil => rfl
  | cons c text ih =>
    rw [List.flatMap_cons, List.append_assoc, decode_utf8EncodeChar, ih, List.map_cons,
      List.cons_append]

theorem decode_flatMap (text : List Char) :
    decode (text.flatMap String.utf8EncodeChar) = text.map some := by
  have h := decode_flatMap_append text []
  rwa [List.append_nil, decode_nil, List.append_nil] at h

/-- Reading the bytes of a text gives the text back. -/
theorem decodeText?_flatMap (text : List Char) :
    decodeText? (text.flatMap String.utf8EncodeChar) = some (String.ofList text) := by
  rw [decodeText?, decode_flatMap]
  have : (text.map some).mapM (m := Option) id = some text := by
    rw [List.mapM_map]
    exact (List.mapM_pure (m := Option) (l := text) (f := id)).trans (by simp)
  rw [this]
  rfl

theorem encode_eq_flatMap (text : String) :
    encode text = text.toList.flatMap String.utf8EncodeChar := by
  rw [encode, String.toUTF8, ← String.utf8Encode_toList, List.utf8Encode, List.data_toByteArray]

theorem lossy_nil : lossy [] = "" := by
  rw [lossy, decode_nil, List.map_nil, String.ofList_nil]

/-- The bytes of a text are read as that text, whatever follows. -/
theorem lossy_encode_append (text : String) (rest : List UInt8) :
    lossy (encode text ++ rest) = text ++ lossy rest := by
  have hread : (fun c : Option Char => c.getD '\uFFFD') ∘ some = id := rfl
  rw [lossy, encode_eq_flatMap, decode_flatMap_append, List.map_append, List.map_map, hread,
    List.map_id, String.ofList_append, String.ofList_toList, lossy]

/-- Nothing of a text is replaced. -/
theorem lossy_encode (text : String) : lossy (encode text) = text := by
  have h := lossy_encode_append text []
  rwa [List.append_nil, lossy_nil, String.append_empty] at h

end Courier.Utf8
