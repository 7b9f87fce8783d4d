/-!
# Hexadecimal bytes
-/

namespace Courier.Hex

/-- A digit in lower case. -/
def digit (n : Nat) : Char := if n < 10 then Char.ofNat (48 + n) else Char.ofNat (87 + n)

/-- The value of a digit in lower case. -/
def value? (c : Char) : Option Nat :=
  if '0' ≤ c ∧ c ≤ '9' then some (c.toNat - 48)
  else if 'a' ≤ c ∧ c ≤ 'f' then some (c.toNat - 87)
  else none

/-- Two digits for each byte. -/
def encode (bytes : List UInt8) : List Char :=
  bytes.flatMap fun b => [digit (b.toNat / 16), digit (b.toNat % 16)]

/-- Reads two digits for each byte. -/
def decode? : List Char → Option (List UInt8)
  | [] => some []
  | x :: y :: rest => do
    let high ← value? x
    let low ← value? y
    let more ← decode? rest
    some (UInt8.ofNat (high * 16 + low) :: more)
  | _ => none

end Courier.Hex
