import Courier.Yaml.Glyph

/-!
# Spellings of values

What a scalar without quotes stands for follows from its spelling: nothing, a truth value, an
integer, another number, or else its own text.
-/

namespace Courier.Yaml

/-! ## Words -/

/-- Whether a spelling stands for nothing. -/
def isNull (text : String) : Bool := text ∈ ["~", "null", "Null", "NULL"]

/-- The truth value that a spelling stands for. -/
def bool? (text : String) : Option Bool :=
  if text ∈ ["true", "True", "TRUE"] then some true
  else if text ∈ ["false", "False", "FALSE"] then some false
  else none

/-! ## Integers -/

/-- The value of a digit in a base up to 16. -/
def digit? (base : Nat) (c : Char) : Option Nat :=
  (hexDigit? c).filter (· < base)

/-- The number that digits write in a base; there must be a digit. -/
def digits? (base : Nat) (text : List Char) : Option Nat :=
  if text = [] then none
  else text.foldlM (fun n c => (digit? base c).map (n * base + ·)) 0

/-- Whether digits start with a zero that is not the only one. -/
def hasLeadingZero (text : List Char) : Bool :=
  text.head? == some '0' && text.length ≠ 1 && text.all Char.isDigit

/-- The number that an unsigned spelling writes: in base 16, 8 or 2 after a mark, else in base 10
    without leading zeros. -/
def magnitude? (text : List Char) : Option Nat :=
  match text with
  | '0' :: 'x' :: rest => digits? 16 rest
  | '0' :: 'o' :: rest => digits? 8 rest
  | '0' :: 'b' :: rest => digits? 2 rest
  | text => if hasLeadingZero text then none else digits? 10 text

/-- Whether a spelling starts with a minus. -/
def hasMinus (text : String) : Bool := text.toList.head? == some '-'

/-- A spelling without its sign. -/
def unsigned (text : String) : List Char :=
  match text.toList with
  | '-' :: rest => rest
  | '+' :: rest => rest
  | chars => chars

/-- The integer that a spelling stands for. -/
def int? (text : String) : Option Int :=
  (magnitude? (unsigned text)).map fun n => if hasMinus text then -(n : Int) else n

/-! ## Other numbers -/

/-- A decimal number: its digits as an integer, and the power of ten that they are multiplied by. -/
structure Decimal where
  digits : List Char
  exponent : Int
  deriving DecidableEq, Repr, Inhabited

/-- Reads an exponent, which may be left out. -/
def exponent? (text : List Char) : Option Int :=
  match text with
  | [] => some 0
  | c :: rest =>
    if c = 'e' ∨ c = 'E' then
      match rest with
      | '-' :: rest => (digits? 10 rest).map fun n => -(n : Int)
      | '+' :: rest => (digits? 10 rest).map fun n => (n : Int)
      | rest => (digits? 10 rest).map fun n => (n : Int)
    else none

/-- Reads a decimal with a digit, and perhaps a point and an exponent. -/
def Decimal.read? (text : List Char) : Option Decimal := do
  let whole := text.takeWhile Char.isDigit
  let (fraction, rest) := match text.drop whole.length with
    | '.' :: rest =>
      let fraction := rest.takeWhile Char.isDigit
      (fraction, rest.drop fraction.length)
    | rest => ([], rest)
  let exponent ← exponent? rest
  let digits := whole ++ fraction
  if digits = [] then none else some ⟨digits, exponent - fraction.length⟩

/-- The least number that rounds to infinity: half a unit beyond the greatest number of 64 bits. -/
def overflow : Nat := Nat.pow 2 1024 - Nat.pow 2 970

/-- Whether a decimal is less than what rounds to infinity, which is between 10 ^ 308 and
    10 ^ 309. -/
def Decimal.isFinite (d : Decimal) : Bool :=
  let digits := d.digits.dropWhile (· == '0')
  let scale := (digits.length : Int) + d.exponent
  if digits = [] ∨ scale ≤ 308 then true
  else if 309 < scale then false
  else
    let n := (digits? 10 digits).getD 0
    decide (n * Nat.pow 10 d.exponent.toNat < overflow * Nat.pow 10 (-d.exponent).toNat)

/-- Whether a spelling stands for a number if one is asked for. -/
def isNumber (text : String) : Bool :=
  (Decimal.read? (unsigned text)).any Decimal.isFinite ||
    String.ofList (unsigned text) ∈ [".inf", ".Inf", ".INF"] || text ∈ [".nan", ".NaN", ".NAN"]

/-- Whether a spelling stands for a number that need not be an integer. -/
def isFloat (text : String) : Bool := !hasLeadingZero (unsigned text) && isNumber text

end Courier.Yaml
