/-!
# Percent-encoding

A text is written with every character of a set, and every character beyond ASCII, replaced by its
UTF-8 bytes as `%XX`.

Results:

* `decode_encode`: a set that holds the percent sign loses nothing.
-/

namespace Courier.Percent

/-- A hexadecimal digit in upper case. -/
def digit (n : Nat) : Char := if n < 10 then Char.ofNat (48 + n) else Char.ofNat (55 + n)

/-- The value of a hexadecimal digit in either case. -/
def value? (c : Char) : Option Nat :=
  if '0' ≤ c ∧ c ≤ '9' then some (c.toNat - 48)
  else if 'A' ≤ c ∧ c ≤ 'F' then some (c.toNat - 55)
  else if 'a' ≤ c ∧ c ≤ 'f' then some (c.toNat - 87)
  else none

/-- The written form of a byte. -/
def encodeByte (b : UInt8) : List Char := ['%', digit (b.toNat / 16), digit (b.toNat % 16)]

/-- The written form of a character, for the set of ASCII characters to replace. -/
def encodeChar (set : Char → Bool) (c : Char) : List Char :=
  if set c || 0x80 ≤ c.toNat then (String.utf8EncodeChar c).flatMap encodeByte else [c]

/-- The written form of a text. -/
def encode (set : Char → Bool) (text : List Char) : List Char := text.flatMap (encodeChar set)

/-- The bytes that a written text stands for. A percent sign without two digits stands for
    itself. -/
def decode : List Char → List UInt8
  | [] => []
  | '%' :: x :: y :: rest =>
    match value? x, value? y with
    | some h, some l => UInt8.ofNat (h * 16 + l) :: decode rest
    | _, _ => String.utf8EncodeChar '%' ++ decode (x :: y :: rest)
  | c :: rest => String.utf8EncodeChar c ++ decode rest

/-! ## Sets -/

/-- Control characters and DEL. -/
def control (c : Char) : Bool := c.toNat < 0x20 || c.toNat == 0x7F

/-- What a fragment replaces. -/
def fragment (c : Char) : Bool := control c || c ∈ [' ', '"', '<', '>', '\x60']

/-- What a query replaces. -/
def query (c : Char) : Bool := control c || c ∈ [' ', '"', '#', '<', '>', '\'']

/-- What a path replaces. -/
def path (c : Char) : Bool := fragment c || c ∈ ['#', '?', '\x7b', '\x7d']

/-- What one segment of a path replaces. -/
def segment (c : Char) : Bool := path c || c ∈ ['/', '%', '\\']

/-- What a user name or password replaces. -/
def userinfo (c : Char) : Bool :=
  path c || c ∈ ['/', ':', ';', '=', '@', '[', '\\', ']', '^', '|']

/-! ## Nothing is lost -/

theorem value?_digit {n : Nat} (h : n < 16) : value? (digit n) = some n := by
  have : ∀ m : Fin 16, value? (digit m) = some m.val := by decide
  exact this ⟨n, h⟩

theorem decode_encodeByte (b : UInt8) (rest : List Char) :
    decode (encodeByte b ++ rest) = b :: decode rest := by
  have hb := b.toNat_lt
  simp only [encodeByte, List.cons_append, List.nil_append]
  rw [decode]
  simp only [value?_digit (show b.toNat / 16 < 16 by omega),
    value?_digit (show b.toNat % 16 < 16 by omega)]
  rw [show b.toNat / 16 * 16 + b.toNat % 16 = b.toNat by omega]
  simp

theorem decode_encodeBytes (bs : List UInt8) (rest : List Char) :
    decode (bs.flatMap encodeByte ++ rest) = bs ++ decode rest := by
  induction bs with
  | nil => simp
  | cons b bs ih => simp [List.append_assoc, decode_encodeByte, ih]

theorem decode_cons_of_ne {c : Char} (h : c ≠ '%') (rest : List Char) :
    decode (c :: rest) = String.utf8EncodeChar c ++ decode rest := by
  rw [decode]
  intro x y r hc _
  exact absurd hc h

theorem decode_encodeChar {set : Char → Bool} (hset : set '%') (c : Char) (rest : List Char) :
    decode (encodeChar set c ++ rest) = String.utf8EncodeChar c ++ decode rest := by
  unfold encodeChar
  split
  · exact decode_encodeBytes _ _
  · rename_i h
    refine decode_cons_of_ne (fun hc => ?_) rest
    subst hc
    simp [hset] at h

/-- Decoding an encoded text gives its UTF-8 bytes, if the percent sign is encoded. -/
theorem decode_encode {set : Char → Bool} (hset : set '%') (text : List Char) :
    decode (encode set text) = text.flatMap String.utf8EncodeChar := by
  induction text with
  | nil => simp [encode, decode]
  | cons c rest ih =>
    simp only [encode, List.flatMap_cons] at ih ⊢
    rw [decode_encodeChar hset, ih]

end Courier.Percent
