import Courier.Moment
import Mathlib.Data.Rat.Floor

/-!
# Clocks

A clock keeps the whole seconds since the epoch in 64 bits with a sign, and the nanoseconds beside
them in 32 bits. Seconds and nanoseconds are added and subtracted apart, with a carry from one to
the other. Both operations are exact: a sum is refused only if no clock can show it, and a
difference only if it is negative.

Results:

* `Clock.add?_eq_some_iff`: the time a while after another.
* `Clock.since?_eq_some_iff`: the while between two times.
* `Clock.add?_ofSeconds`, `Clock.since?_epoch`: the same for points in time.
-/

namespace Courier

/-! ## Times -/

/-- A time that a clock can show. -/
structure Clock where
  seconds : Int64
  nanos : UInt32
  nanos_lt : nanos.toNat < nanosPerSecond := by decide
  deriving DecidableEq

/-- A length of time. -/
structure Span where
  seconds : UInt64
  nanos : UInt32
  nanos_lt : nanos.toNat < nanosPerSecond := by decide
  deriving DecidableEq

/-- So many seconds. -/
def Span.ofSeconds (seconds : UInt64) : Span := { seconds := seconds, nanos := 0 }

/-- The nanoseconds in a length of time. -/
def Span.toNanos (d : Span) : Nat := d.seconds.toNat * nanosPerSecond + d.nanos.toNat

theorem Span.toNanos_injective {d e : Span} (h : d.toNanos = e.toNanos) : d = e := by
  obtain ⟨s, n, hn⟩ := d
  obtain ⟨s', n', hn'⟩ := e
  have hn : n.toNat < 1000000000 := hn
  have hn' : n'.toNat < 1000000000 := hn'
  simp only [toNanos, nanosPerSecond] at h
  obtain rfl : s = s' := UInt64.toNat_inj.mp (by omega)
  obtain rfl : n = n' := UInt32.toNat_inj.mp (by omega)
  rfl

namespace Clock

/-- The point in time that a clock shows. -/
def toMoment (t : Clock) : Moment := ⟨t.seconds.toInt, t.nanos.toNat, t.nanos_lt⟩

/-- The nanoseconds since the epoch. -/
def toNanos (t : Clock) : Int := t.toMoment.toNanos

theorem toNanos_eq (t : Clock) :
    t.toNanos = t.seconds.toInt * nanosPerSecond + t.nanos.toNat := rfl

theorem toNanos_injective {t u : Clock} (h : t.toNanos = u.toNanos) : t = u := by
  obtain ⟨s, n, hn⟩ := t
  obtain ⟨s', n', hn'⟩ := u
  have hn : n.toNat < 1000000000 := hn
  have hn' : n'.toNat < 1000000000 := hn'
  simp only [toNanos_eq, nanosPerSecond] at h
  obtain rfl : s = s' := Int64.toInt_inj.mp (by omega)
  obtain rfl : n = n' := UInt32.toNat_inj.mp (by omega)
  rfl

/-- The epoch. -/
def epoch : Clock := { seconds := 0, nanos := 0 }

theorem toNanos_epoch : epoch.toNanos = 0 := by decide

/-! ## Sums -/

/-- A number in 64 bits with a sign; `none` if it runs over. -/
def int64? (n : Int) : Option Int64 :=
  if Int64.minValue.toInt ≤ n ∧ n ≤ Int64.maxValue.toInt then some (.ofInt n) else none

theorem int64?_eq_some_iff {n : Int} {m : Int64} : int64? n = some m ↔ m.toInt = n := by
  unfold int64?
  rw [Int64.toInt_minValue, Int64.toInt_maxValue]
  constructor
  · intro h
    split at h
    · cases h
      exact Int64.toInt_ofInt_of_le (by omega) (by omega)
    · cases h
  · rintro rfl
    have hlow := m.le_toInt
    have hhigh := m.toInt_lt
    rw [if_pos (by omega), Int64.ofInt_toInt]

theorem exists_int64? {n : Int} (h : -2 ^ 63 ≤ n) (h' : n < 2 ^ 63) : ∃ m, int64? n = some m :=
  ⟨.ofInt n, int64?_eq_some_iff.mpr (Int64.toInt_ofInt_of_le h h')⟩

theorem toNat_add_nanos {a b : UInt32} (ha : a.toNat < nanosPerSecond)
    (hb : b.toNat < nanosPerSecond) : (a + b).toNat = a.toNat + b.toNat := by
  unfold nanosPerSecond at ha hb
  rw [UInt32.toNat_add]
  omega

theorem toNat_carry {a b : UInt32} (ha : a.toNat < nanosPerSecond) (hb : b.toNat < nanosPerSecond)
    (h : ¬ (a + b).toNat < nanosPerSecond) :
    (a + b - 1000000000).toNat + nanosPerSecond = a.toNat + b.toNat := by
  have hsum := toNat_add_nanos ha hb
  have hle : (1000000000 : UInt32) ≤ a + b := Nat.not_lt.mp h
  rw [UInt32.toNat_sub_of_le _ _ hle, ← hsum]
  exact Nat.sub_add_cancel hle

/-- The time a while later; `none` if the clock runs over. -/
def add? (t : Clock) (d : Span) : Option Clock :=
  (int64? (t.seconds.toInt + d.seconds.toNat)).bind fun seconds =>
    if h : (d.nanos + t.nanos).toNat < nanosPerSecond then some ⟨seconds, d.nanos + t.nanos, h⟩
    else
      (int64? (seconds.toInt + 1)).map fun seconds =>
        ⟨seconds, d.nanos + t.nanos - 1000000000, by
          have hcarry := toNat_carry d.nanos_lt t.nanos_lt h
          have ht := t.nanos_lt
          have hd := d.nanos_lt
          omega⟩

theorem toNanos_of_add? {t u : Clock} {d : Span} (h : t.add? d = some u) :
    u.toNanos = t.toNanos + d.toNanos := by
  obtain ⟨seconds, hseconds, h⟩ := Option.bind_eq_some_iff.mp h
  rw [int64?_eq_some_iff] at hseconds
  split at h
  · cases h
    have hsum := toNat_add_nanos d.nanos_lt t.nanos_lt
    simp only [toNanos_eq, Span.toNanos, nanosPerSecond, hsum, hseconds]
    omega
  · rename_i hcarry
    obtain ⟨next, hnext, rfl⟩ := Option.map_eq_some_iff.mp h
    rw [int64?_eq_some_iff] at hnext
    have hsum := toNat_carry d.nanos_lt t.nanos_lt hcarry
    simp only [toNanos_eq, Span.toNanos, nanosPerSecond, hnext, hseconds] at hsum ⊢
    omega

/-- A sum is exact, and refused only if no clock can show it. -/
theorem add?_eq_some_iff {t u : Clock} {d : Span} :
    t.add? d = some u ↔ u.toNanos = t.toNanos + d.toNanos := by
  refine ⟨toNanos_of_add?, fun h => ?_⟩
  obtain ⟨u', hu'⟩ : ∃ u', t.add? d = some u' := by
    have ht := t.nanos_lt
    have hd := d.nanos_lt
    have hu := u.nanos_lt
    have hlow := t.seconds.le_toInt
    have hhigh := u.seconds.toInt_lt
    simp only [toNanos_eq, Span.toNanos, nanosPerSecond] at h ht hd hu
    obtain ⟨seconds, hseconds⟩ :=
      exists_int64? (n := t.seconds.toInt + d.seconds.toNat) (by omega) (by omega)
    rw [add?, hseconds, Option.bind_some]
    rw [int64?_eq_some_iff] at hseconds
    split
    · exact ⟨_, rfl⟩
    · rename_i hcarry
      have hsum := toNat_carry d.nanos_lt t.nanos_lt hcarry
      unfold nanosPerSecond at hsum
      obtain ⟨next, hnext⟩ := exists_int64? (n := seconds.toInt + 1) (by omega) (by omega)
      exact ⟨_, by rw [hnext, Option.map_some]⟩
  have := toNanos_of_add? hu'
  rw [hu', toNanos_injective (this.trans h.symm)]

/-! ## Differences -/

/-- Whether a time comes before another. -/
def isBefore (t u : Clock) : Bool :=
  t.seconds < u.seconds || (t.seconds = u.seconds && t.nanos < u.nanos)

theorem isBefore_iff {t u : Clock} : t.isBefore u = true ↔ t.toNanos < u.toNanos := by
  have ht := t.nanos_lt
  have hu := u.nanos_lt
  simp only [isBefore, toNanos_eq, nanosPerSecond, Bool.or_eq_true, Bool.and_eq_true,
    decide_eq_true_eq, Int64.lt_iff_toInt_lt, UInt32.lt_iff_toNat_lt, ← Int64.toInt_inj] at *
  omega

/-- A number with a sign that was wrapped to 64 bits, as a number without. -/
theorem toNat_toUInt64_of_bmod {x : Int64} {n : Nat} (hn : n < 2 ^ 64)
    (h : x.toInt = (n : Int).bmod (2 ^ 64)) : x.toUInt64.toNat = n := by
  have hx : x.toInt = (x.toUInt64.toNat : Int).bmod (2 ^ 64) := BitVec.toInt_eq_toNat_bmod _
  have hmod : (x.toUInt64.toNat : Int) % (2 ^ 64 : Nat) = (n : Int) % (2 ^ 64 : Nat) := by
    rw [← Int.bmod_emod, ← hx, h, Int.bmod_emod]
  have hlt := x.toUInt64.toNat_lt
  omega

theorem toNat_toUInt64_sub {a b : Int64} {n : Nat} (hn : n < 2 ^ 64) (h : a.toInt - b.toInt = n) :
    (a - b).toUInt64.toNat = n :=
  toNat_toUInt64_of_bmod hn (by rw [Int64.toInt_sub, h])

theorem toNat_toUInt64_sub_one {a b : Int64} {n : Nat} (hn : n < 2 ^ 64)
    (h : a.toInt - b.toInt - 1 = n) : (a - b - 1).toUInt64.toNat = n := by
  apply toNat_toUInt64_of_bmod hn
  rw [Int64.toInt_sub, Int64.toInt_sub, ← h]
  simp

theorem toNat_borrow {a b : UInt32} (ha : a.toNat < nanosPerSecond)
    (hb : b.toNat < nanosPerSecond) :
    (a + 1000000000 - b).toNat + b.toNat = a.toNat + nanosPerSecond := by
  unfold nanosPerSecond at *
  have hsum : (a + 1000000000).toNat = a.toNat + 1000000000 := by
    rw [UInt32.toNat_add, Nat.mod_eq_of_lt]
    · rfl
    · exact Nat.lt_trans (Nat.add_lt_add_right ha 1000000000) (by decide)
  rw [UInt32.toNat_sub_of_le _ _ (UInt32.le_iff_toNat_le.mpr (by omega)), hsum]
  omega

/-- The while since another time; `none` before it. -/
def since? (t u : Clock) : Option Span :=
  if t.isBefore u then none
  else if h : u.nanos ≤ t.nanos then
    some ⟨(t.seconds - u.seconds).toUInt64, t.nanos - u.nanos, by
      rw [UInt32.toNat_sub_of_le _ _ h]
      exact Nat.lt_of_le_of_lt (Nat.sub_le ..) t.nanos_lt⟩
  else
    some ⟨(t.seconds - u.seconds - 1).toUInt64, t.nanos + 1000000000 - u.nanos, by
      have hborrow := toNat_borrow t.nanos_lt u.nanos_lt
      rw [UInt32.le_iff_toNat_le] at h
      omega⟩

theorem toNanos_of_since? {t u : Clock} {d : Span} (h : t.since? u = some d) :
    (d.toNanos : Int) = t.toNanos - u.toNanos := by
  unfold since? at h
  split at h
  · cases h
  · rename_i hbefore
    rw [isBefore_iff] at hbefore
    have ht := t.nanos_lt
    have hu := u.nanos_lt
    have hlow := u.seconds.le_toInt
    have hhigh := t.seconds.toInt_lt
    split at h
    · rename_i hle
      cases h
      rw [UInt32.le_iff_toNat_le] at hle
      simp only [toNanos_eq, Span.toNanos, nanosPerSecond] at *
      rw [UInt32.toNat_sub_of_le _ _ hle]
      rw [toNat_toUInt64_sub (n := (t.seconds.toInt - u.seconds.toInt).toNat) (by omega) (by omega)]
      omega
    · rename_i hle
      cases h
      have hborrow := toNat_borrow t.nanos_lt u.nanos_lt
      rw [UInt32.le_iff_toNat_le] at hle
      simp only [toNanos_eq, Span.toNanos, nanosPerSecond] at *
      rw [toNat_toUInt64_sub_one (n := (t.seconds.toInt - u.seconds.toInt - 1).toNat)
        (by omega) (by omega)]
      omega

theorem exists_since? {t u : Clock} (h : u.toNanos ≤ t.toNanos) : ∃ d, t.since? u = some d := by
  have hbefore : ¬ t.isBefore u = true := by
    rw [isBefore_iff]
    exact Int.not_lt.mpr h
  rw [since?, if_neg hbefore]
  split
  · exact ⟨_, rfl⟩
  · exact ⟨_, rfl⟩

/-- A difference is exact, and refused only if it is negative. -/
theorem since?_eq_some_iff {t u : Clock} {d : Span} :
    t.since? u = some d ↔ (d.toNanos : Int) = t.toNanos - u.toNanos := by
  refine ⟨toNanos_of_since?, fun h => ?_⟩
  obtain ⟨e, he⟩ : ∃ e, t.since? u = some e := exists_since? (by omega)
  have := toNanos_of_since? he
  rw [he, Span.toNanos_injective (d := e) (e := d) (by omega)]

/-! ## Points in time -/

theorem lastSecond_eq : Moment.lastSecond = 2 ^ 63 - 1 := rfl

/-- The time so many seconds later shows the point in time so many seconds later. -/
theorem add?_ofSeconds (t : Clock) (n : UInt64) :
    (t.add? (.ofSeconds n)).map toMoment = t.toMoment.later? n.toNat := by
  unfold Moment.later?
  split
  · rename_i hlast
    replace hlast : t.seconds.toInt + n.toNat ≤ Moment.lastSecond := hlast
    obtain ⟨seconds, hseconds⟩ : ∃ m, int64? (t.seconds.toInt + n.toNat) = some m := by
      have hlow := t.seconds.le_toInt
      rw [lastSecond_eq] at hlast
      exact exists_int64? (by omega) (by omega)
    rw [int64?_eq_some_iff] at hseconds
    have hmoment : toMoment ⟨seconds, t.nanos, t.nanos_lt⟩ = t.toMoment.later n.toNat := by
      simp [toMoment, Moment.later, hseconds]
    have hadd : t.add? (.ofSeconds n) = some ⟨seconds, t.nanos, t.nanos_lt⟩ := by
      rw [add?_eq_some_iff, toNanos, hmoment, Moment.toNanos_later]
      simp [toNanos, Span.toNanos, Span.ofSeconds]
    rw [hadd, Option.map_some, hmoment]
  · rename_i hlast
    refine Option.map_eq_none_iff.mpr (Option.eq_none_iff_forall_ne_some.mpr fun u hu => hlast ?_)
    have hsum := toNanos_of_add? hu
    have ht := t.nanos_lt
    have hn := u.nanos_lt
    have hhigh := u.seconds.toInt_lt
    show t.seconds.toInt + n.toNat ≤ Moment.lastSecond
    rw [lastSecond_eq]
    simp only [toNanos_eq, Span.toNanos, Span.ofSeconds, nanosPerSecond, UInt32.toNat_zero] at *
    omega

/-- The whole seconds since the epoch are those of the point in time. -/
theorem since?_epoch (t : Clock) :
    (t.since? epoch).map (·.seconds.toNat) = t.toMoment.sinceEpoch? := by
  have ht := t.nanos_lt
  unfold Moment.sinceEpoch?
  split
  · rename_i hneg
    have hnone : t.since? epoch = none := by
      refine Option.eq_none_iff_forall_ne_some.mpr fun d hd => ?_
      have := since?_eq_some_iff.mp hd
      rw [toNanos_epoch] at this
      replace hneg : t.toNanos < 0 := hneg
      omega
    rw [hnone, Option.map_none]
  · rename_i hpos
    replace hpos : ¬ t.toNanos < 0 := hpos
    obtain ⟨d, hd⟩ : ∃ d, t.since? epoch = some d := exists_since? (by rw [toNanos_epoch]; omega)
    have hdiff := since?_eq_some_iff.mp hd
    have hn := d.nanos_lt
    rw [toNanos_epoch] at hdiff
    simp only [toNanos_eq, Span.toNanos, nanosPerSecond] at *
    rw [hd, Option.map_some]
    show some d.seconds.toNat = some t.seconds.toInt.toNat
    congr 1
    omega

end Clock

end Courier
