/-!
# UTF-8 over byte lists

Text arrives as bytes that nobody has checked. `decode` reads them into characters and marks every
maximal invalid part once; `lossy` writes U+FFFD for each mark, `decodeText?` refuses a text that
holds one.

Results:

* `decode_nil`, `decode_cons`: reading is one `next` at a time.
* `next_length_le`: a step never gives bytes back.
-/

namespace Courier.Utf8

/-- What must follow a byte that starts a character of two or more bytes: the range of the second
    byte, the number of bytes after that, and the value bits of the first byte. -/
structure Lead where
  low : UInt8
  high : UInt8
  more : Nat
  bits : Nat

/-- The bytes that may start a character of two or more bytes. The narrowed ranges leave out
    overlong forms, surrogates and values above U+10FFFF. -/
def lead? (b : UInt8) : Option Lead :=
  if 0xC2 ≤ b ∧ b ≤ 0xDF then some ⟨0x80, 0xBF, 0, b.toNat - 0xC0⟩
  else if b = 0xE0 then some ⟨0xA0, 0xBF, 1, 0⟩
  else if 0xE1 ≤ b ∧ b ≤ 0xEC then some ⟨0x80, 0xBF, 1, b.toNat - 0xE0⟩
  else if b = 0xED then some ⟨0x80, 0x9F, 1, 0xD⟩
  else if 0xEE ≤ b ∧ b ≤ 0xEF then some ⟨0x80, 0xBF, 1, b.toNat - 0xE0⟩
  else if b = 0xF0 then some ⟨0x90, 0xBF, 2, 0⟩
  else if 0xF1 ≤ b ∧ b ≤ 0xF3 then some ⟨0x80, 0xBF, 2, b.toNat - 0xF0⟩
  else if b = 0xF4 then some ⟨0x80, 0x8F, 2, 4⟩
  else none

/-- Reads `more` continuation bytes onto the value `v`. -/
def tail : Nat → Nat → List UInt8 → Option Char × List UInt8
  | 0, v, rest => (some (Char.ofNat v), rest)
  | _ + 1, _, [] => (none, [])
  | more + 1, v, c :: rest =>
    if 0x80 ≤ c ∧ c ≤ 0xBF then tail more (v * 64 + (c.toNat - 0x80)) rest else (none, c :: rest)

/-- Reads one character, or one maximal invalid part, that starts with the byte `b`. -/
def next (b : UInt8) (rest : List UInt8) : Option Char × List UInt8 :=
  if b < 0x80 then (some (Char.ofNat b.toNat), rest)
  else
    match lead? b, rest with
    | none, rest => (none, rest)
    | some _, [] => (none, [])
    | some l, c :: rest =>
      if l.low ≤ c ∧ c ≤ l.high then tail l.more (l.bits * 64 + (c.toNat - 0x80)) rest
      else (none, c :: rest)

theorem tail_length_le (more v : Nat) (bs : List UInt8) :
    (tail more v bs).2.length ≤ bs.length := by
  induction more, v, bs using tail.induct with
  | case1 => simp [tail]
  | case2 => simp [tail]
  | case3 more v c rest h ih => simp [tail, h]; omega
  | case4 more v c rest h => rw [tail]; simp [h]

theorem next_length_le (b : UInt8) (bs : List UInt8) : (next b bs).2.length ≤ bs.length := by
  unfold next
  split
  · simp
  · split
    · simp
    · simp
    · split
      · exact Nat.le_succ_of_le (tail_length_le ..)
      · simp

/-- Reads all bytes onto the characters read before, last one first. -/
def decodeOnto (read : List (Option Char)) : List UInt8 → List (Option Char)
  | [] => read.reverse
  | b :: rest => decodeOnto ((next b rest).1 :: read) (next b rest).2
termination_by bs => bs.length
decreasing_by have := next_length_le b rest; simp; omega

/-- The characters of a byte sequence, with `none` for each maximal invalid part. -/
def decode (bs : List UInt8) : List (Option Char) := decodeOnto [] bs

theorem decodeOnto_eq (read : List (Option Char)) (bs : List UInt8) :
    decodeOnto read bs = read.reverse ++ decode bs := by
  unfold decode
  induction hn : bs.length using Nat.strongRecOn generalizing bs read with
  | ind n ih =>
    match bs with
    | [] => simp [decodeOnto]
    | b :: rest =>
      have hlen := next_length_le b rest
      simp only [List.length_cons] at hn
      rw [decodeOnto, ih _ (by omega) _ _ rfl]
      conv => rhs; rw [decodeOnto, ih _ (by omega) _ _ rfl]
      simp

@[simp] theorem decode_nil : decode [] = [] := by simp [decode, decodeOnto]

theorem decode_cons (b : UInt8) (rest : List UInt8) :
    decode (b :: rest) = (next b rest).1 :: decode (next b rest).2 := by
  conv => lhs; unfold decode; rw [decodeOnto, decodeOnto_eq]
  simp

/-- The text of a byte sequence, with U+FFFD for each maximal invalid part. -/
def lossy (bs : List UInt8) : String :=
  String.ofList ((decode bs).map (·.getD '\uFFFD'))

/-- The text of a byte sequence, if all of it is valid. -/
def decodeText? (bs : List UInt8) : Option String :=
  ((decode bs).mapM id).map String.ofList

/-- The bytes of a text. -/
def encode (text : String) : List UInt8 := text.toUTF8.data.toList

end Courier.Utf8
