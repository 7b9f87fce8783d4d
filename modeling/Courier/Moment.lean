/-!
# Points in time

A point in time is a number of whole seconds since the epoch, which may be negative, and a fraction
in nanoseconds, which never is.

Results:

* `Moment.toNanos_later`: adding seconds is exact.
* `Moment.later?_isSome_iff`: when a clock runs over.
* `Moment.sinceEpoch?_getD`: before the epoch there are no whole seconds.
-/

namespace Courier

/-- The nanoseconds of a second. -/
def nanosPerSecond : Nat := 1000000000

/-- A point in time. -/
structure Moment where
  seconds : Int
  nanos : Nat
  nanos_lt : nanos < nanosPerSecond := by decide
  deriving DecidableEq

namespace Moment

instance : Inhabited Moment := ⟨⟨0, 0, by decide⟩⟩

/-- The nanoseconds since the epoch. -/
def toNanos (t : Moment) : Int := t.seconds * nanosPerSecond + t.nanos

/-- The point in time that many nanoseconds after the epoch. -/
def ofNanos (n : Int) : Moment :=
  ⟨n / nanosPerSecond, (n % nanosPerSecond).toNat, by
    have h : (0 : Int) < nanosPerSecond := by decide
    have := Int.emod_lt_of_pos n h
    have := Int.emod_nonneg n (Int.ne_of_gt h)
    omega⟩

/-- The point in time so many seconds later. -/
def later (t : Moment) (seconds : Nat) : Moment := { t with seconds := t.seconds + seconds }

/-- The last second that a clock can show. -/
def lastSecond : Int := Nat.pow 2 63 - 1

/-- The point in time so many seconds later; `none` if no clock can show it. -/
def later? (t : Moment) (seconds : Nat) : Option Moment :=
  if t.seconds + seconds ≤ lastSecond then some (t.later seconds) else none

/-- Whether a point in time comes before another. -/
def isBefore (t u : Moment) : Bool := t.toNanos < u.toNanos

/-- The whole seconds since the epoch; `none` before it. -/
def sinceEpoch? (t : Moment) : Option Nat :=
  if t.toNanos < 0 then none else some t.seconds.toNat

theorem toNanos_later (t : Moment) (n : Nat) :
    (t.later n).toNanos = t.toNanos + n * nanosPerSecond := by
  simp only [toNanos, later, Int.add_mul]
  omega

theorem later?_isSome_iff (t : Moment) (n : Nat) :
    (t.later? n).isSome ↔ t.seconds + n ≤ lastSecond := by
  unfold later?
  split <;> simp_all

theorem sinceEpoch?_getD (t : Moment) : t.sinceEpoch?.getD 0 = t.seconds.toNat := by
  have h := t.nanos_lt
  by_cases hn : t.toNanos < 0 <;> simp only [sinceEpoch?, hn, if_true, if_false]
  · simp only [toNanos, nanosPerSecond] at *
    simp
    omega
  · rfl

end Moment

end Courier
