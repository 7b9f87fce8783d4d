import Courier.Text.Base64

/-!
# Base64, one text at a time

A receiver reads one text with padding at its end alone.

Results:

* `decodeOne?_encode`: every byte sequence is read back.
-/

namespace Courier.Base64

/-- Reads one text: only its last block may be padded. -/
def decodeOne? : List Char → Option (List UInt8)
  | [] => some []
  | w :: x :: y :: z :: rest =>
    if rest ≠ [] ∧ (y = '=' ∨ z = '=') then none
    else do
      let head ← block? w x y z
      let more ← decodeOne? rest
      some (head ++ more)
  | _ => none

/-- Every byte sequence is read back as one text. -/
theorem decodeOne?_encode (bs : List UInt8) : decodeOne? (encode bs) = some bs := by
  induction bs using encode.induct with
  | case1 => rfl
  | case2 a =>
    rw [encode, decodeOne?, if_neg fun h => h.1 rfl, block?_one]
    rfl
  | case3 a b =>
    rw [encode, decodeOne?, if_neg fun h => h.1 rfl, block?_two]
    rfl
  | case4 a b c rest ih =>
    have hb := b.toNat_lt
    have hc := c.toNat_lt
    -- a block that is not the last one has digits where padding could stand
    have hpad : ¬ (digit (b.toNat % 16 * 4 + c.toNat / 64) = '=' ∨
        digit (c.toNat % 64) = '=') := by
      rintro (h | h)
      · exact digit_ne_pad (by omega) h
      · exact digit_ne_pad (by omega) h
    rw [encode, decodeOne?, if_neg fun h => hpad h.2, block?_three, ih]
    rfl

example : decodeOne? ['A', 'A', '=', '=', 'A', 'A', '=', '='] = none ∧
    decode? ['A', 'A', '=', '=', 'A', 'A', '=', '='] = some [0, 0] := by
  decide

end Courier.Base64
