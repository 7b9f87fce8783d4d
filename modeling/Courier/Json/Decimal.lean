/-!
# Doubles in decimal

The shortest decimal that reads back as a given double, by exact arithmetic on `m · 2^q`, and the
layout in which it is written.
-/

namespace Courier.Json.Decimal

/-- The largest `e` with `10^e ≤ num / den`, for positive `num` and `den`. -/
def exponent10 (num den : Nat) : Int :=
  let guess : Int := (Nat.toDigits 10 num).length - (Nat.toDigits 10 den).length
  let reaches (e : Int) : Bool :=
    if 0 ≤ e then decide (Nat.pow 10 e.toNat * den ≤ num)
    else decide (den ≤ num * Nat.pow 10 (-e).toNat)
  if reaches guess then guess else guess - 1

/-- A positive double `m · 2^q` scaled by four, with the ends of the interval of reals that round
    to it. `narrow` says that the next smaller double is only half a step away. -/
structure Interval where
  low : Nat
  value : Nat
  high : Nat
  closed : Bool

/-- The interval around `m · 2^q`, in units of `2^(q-2)`. -/
def interval (m : Nat) (narrow : Bool) : Interval :=
  ⟨if narrow then 4 * m - 1 else 4 * m - 2, 4 * m, 4 * m + 2, m % 2 == 0⟩

/-- The decimal of `count` digits nearest to the value, if one of its two neighbours on that grid
    reads back; the result is the digits as a number and the exponent of the last one. -/
def onGrid? (iv : Interval) (q : Int) (top : Int) (count : Nat) : Option (Nat × Int) :=
  let e : Int := top - (count - 1 : Nat)
  -- every quantity below is multiplied by `scale`, a common denominator of the unit and the grid
  let up (k : Int) (base : Nat) : Nat := if 0 ≤ k then Nat.pow base k.toNat else 1
  let down (k : Int) (base : Nat) : Nat := if 0 ≤ k then 1 else Nat.pow base (-k).toNat
  let unit := up q 2 * down e 10
  let grid := up e 10 * down q 2
  let value := iv.value * unit
  let hits (d : Nat) : Bool :=
    let at_ := d * grid
    if iv.closed then decide (iv.low * unit ≤ at_ ∧ at_ ≤ iv.high * unit)
    else decide (iv.low * unit < at_ ∧ at_ < iv.high * unit)
  let below := value / grid
  let above := below + 1
  let nearer : Nat :=
    let short := value - below * grid
    let excess := above * grid - value
    if short < excess then below else if excess < short then above
    else if below % 2 = 0 then below else above
  match hits below, hits above with
  | true, true => some (nearer, e)
  | true, false => some (below, e)
  | false, true => some (above, e)
  | false, false => none

/-- The fewest digits that read back, for `m · 2^q` with `m` positive. Seventeen always do. -/
def shortest (m : Nat) (q : Int) (narrow : Bool) : Nat × Int :=
  let iv := interval m narrow
  let top :=
    if 0 ≤ q then exponent10 (m * Nat.pow 2 q.toNat) 1
    else exponent10 m (Nat.pow 2 (-q).toNat)
  ((List.range 17).findSome? fun n => onGrid? iv (q - 2) top (n + 1)).getD (m, q)

/-- Drops zeros at the end of the digits. -/
def trim (digits : List Char) (e : Int) : List Char × Int :=
  let zeros := digits.reverse.takeWhile (· == '0')
  (digits.take (digits.length - zeros.length), e + zeros.length)

/-- Writes digits with exponent `e`: positionally from `10^-5` up to `10^16`, with `.0` after a
    whole number, and otherwise with an exponent without sign. -/
def layout (digits : List Char) (e : Int) : List Char :=
  let point : Int := digits.length + e
  let zeros (n : Int) : List Char := List.replicate n.toNat '0'
  if 0 ≤ e ∧ point ≤ 16 then digits ++ zeros e ++ ['.', '0']
  else if 0 < point ∧ point ≤ 16 then
    digits.take point.toNat ++ ['.'] ++ digits.drop point.toNat
  else if -5 < point ∧ point ≤ 0 then ['0', '.'] ++ zeros (-point) ++ digits
  else
    let power := (toString (point - 1)).toList
    match digits with
    | [d] => d :: 'e' :: power
    | d :: rest => d :: '.' :: rest ++ 'e' :: power
    | [] => []

/-- The text of a finite double. -/
def write (x : Float) : String :=
  let bits := x.toBits.toNat
  let sign := if bits / Nat.pow 2 63 = 1 then ['-'] else []
  let biased : Nat := bits / Nat.pow 2 52 % Nat.pow 2 11
  let fraction : Nat := bits % Nat.pow 2 52
  if biased = 0 ∧ fraction = 0 then String.ofList (sign ++ ['0', '.', '0'])
  else
    let (m, q) : Nat × Int :=
      if biased = 0 then (fraction, -1074) else (Nat.pow 2 52 + fraction, (biased : Int) - 1075)
    let (d, e) := shortest m q (fraction == 0 && biased > 1)
    let (digits, e) := trim (Nat.toDigits 10 d) e
    String.ofList (sign ++ layout digits e)

end Courier.Json.Decimal
