import Courier.Certificate.Der

/-!
# Times in certificates

A point in time is a run of digits and a zone. The short form has a year of two digits and any zone;
the long form has a year of four digits, may have a fraction of a second, and ends in `Z`.
-/

namespace Courier.Certificate

/-! ## The calendar -/

/-- Whether a year has a 29th of February. -/
def isLeapYear (year : Nat) : Bool := year % 4 = 0 && (year % 100 ≠ 0 || year % 400 = 0)

/-- The number of days in a month. -/
def daysIn (year month : Nat) : Nat :=
  if month = 2 then if isLeapYear year then 29 else 28
  else if month ∈ [4, 6, 9, 11] then 30
  else if 1 ≤ month ∧ month ≤ 12 then 31
  else 0

/-- Whether a month of a year has a day. -/
def isDay (year month day : Nat) : Bool := 1 ≤ day && day ≤ daysIn year month

/-! ## Digits -/

/-- The number of two digits, and what follows. -/
def pair? : List UInt8 → Option (Nat × List UInt8)
  | a :: b :: rest =>
    if 48 ≤ a ∧ a ≤ 57 ∧ 48 ≤ b ∧ b ≤ 57 then
      some ((a.toNat - 48) * 10 + (b.toNat - 48), rest)
    else none
  | _ => none

/-- So many numbers of two digits, and what follows. -/
def pairs? : Nat → List UInt8 → Option (List Nat × List UInt8)
  | 0, bytes => some ([], bytes)
  | count + 1, bytes => do
    let (n, rest) ← pair? bytes
    let (more, rest) ← pairs? count rest
    some (n :: more, rest)

/-- The seconds, if at least two bytes are left, and what follows. -/
def seconds? (bytes : List UInt8) : Option (Nat × List UInt8) :=
  if bytes.length < 2 then some (0, bytes) else pair? bytes

/-- Whether hour, minute and second are in range. -/
def isClockTime (hour minute second : Nat) : Bool := hour ≤ 23 && minute ≤ 59 && second ≤ 59

/-! ## Forms -/

/-- The byte of the zone `Z`. -/
def zulu : UInt8 := 90

/-- The most hours between a zone and `Z`. -/
def farthestZone : Nat := 25

/-- Whether bytes are a zone: `Z`, or a sign, hours and minutes. -/
def isZone (bytes : List UInt8) : Bool :=
  match bytes with
  | [z] => z == zulu
  | sign :: rest =>
    (sign == 43 || sign == 45) &&
      match pairs? 2 rest with
      | some ([hours, minutes], []) => hours ≤ farthestZone && minutes ≤ 59
      | _ => false
  | [] => false

/-- The full year of two digits. The century turns at 50. -/
def fullYear (year : Nat) : Nat := if 50 ≤ year then 1900 + year else 2000 + year

/-- Whether bytes are a point in time with a year of two digits. -/
def isShortTime (bytes : List UInt8) : Bool :=
  match pairs? 5 bytes with
  | some ([year, month, day, hour, minute], rest) =>
    match seconds? rest with
    | some (second, zone) =>
      isDay (fullYear year) month day && isClockTime hour minute second && isZone zone
    | none => false
  | _ => false

/-- The most digits of a fraction of a second. -/
def fractionDigits : Nat := 3

/-- What follows a fraction of a second, if there is one. -/
def afterFraction (bytes : List UInt8) : List UInt8 :=
  match bytes with
  | 46 :: rest => rest.drop ((rest.take fractionDigits).takeWhile fun b => 48 ≤ b ∧ b ≤ 57).length
  | bytes => bytes

/-- Whether bytes are a point in time with a year of four digits. -/
def isLongTime (bytes : List UInt8) : Bool :=
  match pairs? 6 bytes with
  | some ([century, year, month, day, hour, minute], rest) =>
    match seconds? rest with
    | some (second, rest) =>
      isDay (century * 100 + year) month day && isClockTime hour minute second &&
        afterFraction rest == [zulu]
    | none => false
  | _ => false

/-- Whether an element is a point in time. -/
def isTime (e : Der.Element) : Bool :=
  if e.tag.number = Der.utcTime.number then isShortTime e.content
  else e.tag.number = Der.generalizedTime.number && isLongTime e.content

end Courier.Certificate
