import Courier.Json.Value
import Courier.Json.Decimal

/-!
# JSON numerals

A numeral as it is written, and what it stands for: an integer where it has neither fraction nor
exponent and fits 64 bits, a double otherwise.
-/

namespace Courier.Json

/-- A numeral as written. An absent fraction is empty. -/
structure Numeral where
  negative : Bool
  whole : List Nat
  fraction : List Nat
  exponent : Option (Bool × List Nat)
  deriving DecidableEq, Repr, Inhabited

namespace Numeral

/-- The value of a decimal digit. -/
def digit? (c : Char) : Option Nat :=
  if '0' ≤ c ∧ c ≤ '9' then some (c.toNat - 48) else none

/-- The leading digits of a text, and the rest. -/
def digits : List Char → List Nat × List Char
  | [] => ([], [])
  | c :: rest =>
    match digit? c with
    | some d => (d :: (digits rest).1, (digits rest).2)
    | none => ([], c :: rest)

/-- The number that digits write. -/
def ofDigits (ds : List Nat) : Nat := ds.foldl (fun n d => n * 10 + d) 0

/-- Reads a numeral: no leading zeros, and digits on both sides of the point. -/
def ofChars? (text : List Char) : Option Numeral := do
  let (negative, text) := match text with
    | '-' :: rest => (true, rest)
    | text => (false, text)
  let (whole, text) := digits text
  if whole = [] ∨ (whole.head? = some 0 ∧ whole.length ≠ 1) then none
  let (fraction, text) ← match text with
    | '.' :: rest =>
      let (ds, rest) := digits rest
      if ds = [] then none else some (ds, rest)
    | text => some ([], text)
  let (exponent, text) ← match text with
    | c :: rest =>
      if c = 'e' ∨ c = 'E' then
        let (down, rest) := match rest with
          | '-' :: rest => (true, rest)
          | '+' :: rest => (false, rest)
          | rest => (false, rest)
        let (ds, rest) := digits rest
        if ds = [] then none else some (some (down, ds), rest)
      else some (none, c :: rest)
    | [] => some (none, [])
  if text = [] then some ⟨negative, whole, fraction, exponent⟩ else none

/-- Whether a numeral has neither fraction nor exponent. Minus zero is no integer. -/
def isInteger (n : Numeral) : Bool :=
  n.fraction.isEmpty && n.exponent.isNone && !(n.negative && ofDigits n.whole == 0)

/-- The whole part with its sign. -/
def integerPart (n : Numeral) : Int :=
  if n.negative then -(ofDigits n.whole) else ofDigits n.whole

/-- The value of an integer numeral within closed bounds. -/
def int? (low high : Int) (n : Numeral) : Option Int :=
  if n.isInteger ∧ low ≤ n.integerPart ∧ n.integerPart ≤ high then some n.integerPart else none

/-- Multiplies by a power of ten, one factor of at most `10^308` at a time, rounding after each.
    A result beyond the largest double is refused. -/
def scale? (x : Float) (e : Int) : Option Float :=
  let power (k : Nat) : Float := Float.ofScientific 1 false k
  if 0 ≤ e then
    if e ≤ 308 then
      let y := x * power e.toNat
      if y.isInf then none else some y
    else if x == 0 then some x else none
  else
    let down := (-e).toNat
    -- the quotient is zero long before the third step
    if down ≤ 308 then some (x / power down)
    else if down ≤ 616 then some (x / power 308 / power (down - 308))
    else if down ≤ 924 then some (x / power 308 / power 308 / power (down - 616))
    else some 0

/-- Appends digits to `n` as long as the result fits 64 bits, and counts them. -/
def absorb (n : Nat) : List Nat → Nat × Nat
  | [] => (n, 0)
  | d :: rest =>
    if n * 10 + d < Nat.pow 2 64 then
      let (v, taken) := absorb (n * 10 + d) rest
      (v, taken + 1)
    else (n, 0)

/-- The double that a numeral stands for: the digits that fit 64 bits times a power of ten. The
    digits of the whole part that do not fit count as zeros, those of the fraction not at all. -/
def float? (n : Numeral) : Option Float :=
  let (whole, taken) := absorb 0 n.whole
  let (value, takenAfter) := absorb whole n.fraction
  let shift : Int := match n.exponent with
    | none => 0
    | some (down, ds) => if down then -(ofDigits ds) else ofDigits ds
  let signed (x : Float) : Float := if n.negative then -x else x
  let exponent : Int := n.whole.length - taken - takenAfter + shift
  (scale? (UInt64.ofNat value).toFloat exponent).map signed

/-- The number that a numeral stands for, unless it is too large for a double. -/
def number? (n : Numeral) : Option Number :=
  match n.int? (-Nat.pow 2 63) (Nat.pow 2 64 - 1) with
  | some v => some (.int v)
  | none => n.float?.map fun x => .float (Decimal.write x)

end Numeral

end Courier.Json
