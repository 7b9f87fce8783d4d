import Courier.Proofs.Text.Parts

/-!
# Texts that are cut off

A limit on its bytes may cut a text within a character. Its first bytes are then not a text, and
what is read of them ends with a mark.

Results:

* `exists_cut`: a limit on its bytes leaves whole characters of a text and the start of one more.
* `IsFitting.isValid_iff`: whether it lies between two characters.
* `lossy_take_encode`: what is read of the bytes that are left.
-/

namespace Courier.Utf8

/-! ## Bytes of a text -/

theorem encode_ofList (text : List Char) :
    encode (String.ofList text) = text.flatMap String.utf8EncodeChar := by
  rw [encode_eq_flatMap, String.toList_ofList]

theorem length_encode (text : String) : (encode text).length = text.utf8ByteSize := rfl

theorem length_encode_mono {s t : String} (h : s.toList <+: t.toList) :
    (encode s).length ≤ (encode t).length := by
  obtain ⟨rest, hrest⟩ := h
  rw [encode_eq_flatMap, encode_eq_flatMap, ← hrest, List.flatMap_append, List.length_append]
  exact Nat.le_add_right _ _

/-! ## Cutting -/

/-- A limit on its bytes leaves whole characters of a text and the start of one more. -/
theorem exists_cut {text : List Char} {limit : Nat}
    (h : limit < (text.flatMap String.utf8EncodeChar).length) :
    ∃ whole c rest part, text = whole ++ c :: rest ∧
      part <+: String.utf8EncodeChar c ∧ part ≠ String.utf8EncodeChar c ∧
      (text.flatMap String.utf8EncodeChar).take limit =
        whole.flatMap String.utf8EncodeChar ++ part := by
  induction text generalizing limit with
  | nil => cases h
  | cons c text ih =>
    rw [List.flatMap_cons] at h ⊢
    rcases Nat.lt_or_ge limit (String.utf8EncodeChar c).length with hlimit | hlimit
    · refine ⟨[], c, text, (String.utf8EncodeChar c).take limit, rfl, List.take_prefix _ _, ?_, ?_⟩
      · intro heq
        have := congrArg List.length heq
        rw [List.length_take] at this
        omega
      · exact List.take_append_of_le_length (Nat.le_of_lt hlimit)
    · rw [List.length_append] at h
      have hmore : limit - (String.utf8EncodeChar c).length <
          (text.flatMap String.utf8EncodeChar).length := by omega
      obtain ⟨whole, d, rest, part, rfl, hpart, hcut, htake⟩ := ih hmore
      refine ⟨c :: whole, d, rest, part, rfl, hpart, hcut, ?_⟩
      rw [List.take_append, List.take_of_length_le hlimit, htake, List.flatMap_cons,
        List.append_assoc]

/-- The whole characters of a text that fit in a number of bytes. -/
structure IsFitting (limit : Nat) (text whole : String) : Prop where
  isStart : ∃ rest, text = whole ++ rest
  fits : (encode whole).length ≤ limit
  longest : ∀ other rest, text = other ++ rest → (encode other).length ≤ limit →
    other.length ≤ whole.length

theorem lossy_cut {c : Char} {part : List UInt8} (h : part <+: String.utf8EncodeChar c)
    (hcut : part ≠ String.utf8EncodeChar c) :
    lossy part = if part = [] then "" else "\uFFFD" := by
  split
  · rename_i hnil
    rw [hnil, lossy_nil]
  · rename_i hne
    have hpart := isInvalidPart_cut h hne hcut
    rw [← List.append_nil part, lossy, decode_invalidPart hpart, decode_nil]
    rfl

theorem isValid_iff_exists {text : String} {offset : Nat} :
    (⟨offset⟩ : String.Pos.Raw).IsValid text ↔
      ∃ before after, text = before ++ after ∧ (encode before).length = offset := by
  rw [String.Pos.Raw.isValid_iff_exists_append]
  simp only [length_encode, String.Pos.Raw.ext_iff, String.byteIdx_rawEndPos, eq_comm (a := offset)]

/-- The characters of a text before the one that a limit cuts fit, and no more do. -/
theorem isFitting_of_cut {whole rest : List Char} {c : Char} {part : List UInt8} {limit : Nat}
    (hpart : part.length < (String.utf8EncodeChar c).length)
    (hlimit : (whole.flatMap String.utf8EncodeChar).length + part.length = limit) :
    IsFitting limit (String.ofList (whole ++ c :: rest)) (String.ofList whole) := by
  refine ⟨⟨String.ofList (c :: rest), String.ofList_append⟩, ?_, fun other after htext hother => ?_⟩
  · rw [encode_ofList]
    omega
  · by_contra hlonger
    have hlist : whole ++ c :: rest = other.toList ++ after.toList := by
      simpa using congrArg String.toList htext
    rw [String.length_ofList, ← String.length_toList] at hlonger
    -- a longer text holds the character that is cut
    have hstart : whole ++ [c] <+: other.toList := by
      have hcut : whole ++ [c] <+: whole ++ c :: rest := ⟨rest, by simp⟩
      have hother : other.toList <+: whole ++ c :: rest := hlist ▸ List.prefix_append _ _
      refine List.prefix_of_prefix_length_le hcut hother ?_
      rw [List.length_append, List.length_singleton]
      omega
    have hsize : (encode (String.ofList (whole ++ [c]))).length ≤ (encode other).length :=
      length_encode_mono (by rwa [String.toList_ofList])
    rw [encode_ofList, List.flatMap_append, List.length_append, List.flatMap_singleton] at hsize
    omega

theorem IsFitting.length_encode_le {limit : Nat} {text whole other rest : String}
    (h : IsFitting limit text whole) (htext : text = other ++ rest)
    (hother : (encode other).length ≤ limit) : (encode other).length ≤ (encode whole).length := by
  obtain ⟨after, hafter⟩ := h.isStart
  have hstart : other.toList <+: text.toList := ⟨rest.toList, by rw [htext, String.toList_append]⟩
  have hwhole : whole.toList <+: text.toList :=
    ⟨after.toList, by rw [hafter, String.toList_append]⟩
  exact length_encode_mono
    (List.prefix_of_prefix_length_le hstart hwhole (h.longest other rest htext hother))

/-- A limit lies between two characters if the characters that fit take up all of it. -/
theorem IsFitting.isValid_iff {limit : Nat} {text whole : String} (h : IsFitting limit text whole) :
    (⟨limit⟩ : String.Pos.Raw).IsValid text ↔ (encode whole).length = limit := by
  rw [isValid_iff_exists]
  constructor
  · rintro ⟨before, after, htext, hsize⟩
    exact Nat.le_antisymm h.fits (hsize ▸ h.length_encode_le htext (Nat.le_of_eq hsize))
  · intro hsize
    obtain ⟨after, hafter⟩ := h.isStart
    exact ⟨whole, after, hafter, hsize⟩

/-- What is read of a text that is longer than a limit. -/
theorem lossy_take_encode {text : String} {limit : Nat} (h : limit < (encode text).length) :
    ∃ whole, IsFitting limit text whole ∧
      lossy ((encode text).take limit) =
        whole ++ if (⟨limit⟩ : String.Pos.Raw).IsValid text then "" else "\uFFFD" := by
  rw [encode_eq_flatMap] at h ⊢
  obtain ⟨whole, c, rest, part, htext, hpart, hcut, htake⟩ := exists_cut h
  have hshort : part.length < (String.utf8EncodeChar c).length :=
    Nat.lt_of_le_of_ne hpart.length_le fun heq => hcut (hpart.eq_of_length heq)
  have hlimit : (whole.flatMap String.utf8EncodeChar).length + part.length = limit := by
    have hlength := congrArg List.length htake
    rw [List.length_take, List.length_append] at hlength
    omega
  have hfit : IsFitting limit text (String.ofList whole) := by
    rw [← String.ofList_toList (s := text), htext]
    exact isFitting_of_cut hshort hlimit
  have hvalid : (⟨limit⟩ : String.Pos.Raw).IsValid text ↔ part = [] := by
    rw [hfit.isValid_iff, encode_ofList, ← List.length_eq_zero_iff]
    omega
  refine ⟨_, hfit, ?_⟩
  rw [htake, ← encode_ofList, lossy_encode_append, lossy_cut hpart hcut]
  simp only [hvalid]

example : lossy ((encode "né").take 2) = "n\uFFFD" := by cbv

end Courier.Utf8
