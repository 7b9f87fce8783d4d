import Courier.Proofs.Clock
import Courier.Proofs.Conversion.Envelope

/-!
# How long a push is kept

The service drops a push that it cannot deliver before its expiration, which is given in whole
seconds since the epoch. A time is a fraction of seconds that may lie before the epoch.

Results:

* `Moment.floor_add`: the whole seconds of a point in time so many seconds later.
* `Clock.expiration?_eq`: the expiration in the numbers of the clock is the expiration.
* `Apns.convert_expires`: how the expiration of a request depends on the time and the time to live.
-/

namespace Courier

/-! ## Exact seconds -/

/-- The seconds since the epoch, with their fraction. -/
def Moment.toRat (t : Moment) : ℚ := t.seconds + t.nanos / nanosPerSecond

theorem Moment.floor_toRat (t : Moment) : ⌊t.toRat⌋ = t.seconds := by
  have hlow : (0 : ℚ) ≤ t.nanos / nanosPerSecond := by positivity
  have hhigh : (t.nanos / nanosPerSecond : ℚ) < 1 := by
    rw [div_lt_one (by norm_num [nanosPerSecond])]
    exact_mod_cast t.nanos_lt
  rw [toRat, Int.floor_intCast_add, Int.floor_eq_zero_iff.mpr ⟨hlow, hhigh⟩, add_zero]

/-- The whole seconds of a point in time so many seconds later. -/
theorem Moment.floor_add (t : Moment) (n : ℕ) : ⌊t.toRat + n⌋ = t.seconds + n := by
  rw [Int.floor_add_natCast, floor_toRat]

theorem Moment.seconds_le_of_toRat_le {t u : Moment} (h : t.toRat ≤ u.toRat) :
    t.seconds ≤ u.seconds := by
  rw [← t.floor_toRat, ← u.floor_toRat]
  exact Int.floor_le_floor h

namespace Apns

/-- The expiration is the end of the push in whole seconds, or the epoch if that is later. -/
theorem expiration_eq_max (now : Moment) (timeToLive : ℕ) :
    (expiration now timeToLive : ℤ) = max 0 ⌊now.toRat + effectiveTimeToLive timeToLive⌋ := by
  rw [expiration_eq, Int.toNat_eq_max, Moment.floor_add, max_comm]

/-- A later time and a longer time to live do not bring the expiration forward. -/
theorem expiration_mono {now later : Moment} {short long : ℕ} (hnow : now.toRat ≤ later.toRat)
    (h : effectiveTimeToLive short ≤ effectiveTimeToLive long) :
    expiration now short ≤ expiration later long := by
  have hseconds := Moment.seconds_le_of_toRat_le hnow
  rw [expiration_eq, expiration_eq]
  omega

end Apns

/-! ## In the numbers of a clock -/

namespace Clock

/-- The seconds that a push is kept. -/
def keepingTime (timeToLive : UInt32) : UInt64 :=
  if timeToLive = 0 then 1200 else timeToLive.toUInt64

theorem toNat_keepingTime (timeToLive : UInt32) :
    (keepingTime timeToLive).toNat = Apns.effectiveTimeToLive timeToLive.toNat := by
  unfold keepingTime Apns.effectiveTimeToLive
  by_cases h : timeToLive = 0
  · rw [if_pos h, if_pos (by rw [h]; rfl)]
    rfl
  · have hne : timeToLive.toNat ≠ 0 := fun h0 => h (UInt32.toNat_inj.mp h0)
    rw [if_neg h, if_neg hne, UInt32.toNat_toUInt64]

/-- The expiration of a push; `none` if the clock runs over. -/
def expiration? (now : Clock) (timeToLive : UInt32) : Option UInt64 :=
  (now.add? (.ofSeconds (keepingTime timeToLive))).map fun ending =>
    ((ending.since? epoch).getD (.ofSeconds 0)).seconds

/-- Counting in these numbers is exact: an expiration neither runs over nor below zero. -/
theorem expiration?_eq (now : Clock) (timeToLive : UInt32) :
    (now.expiration? timeToLive).map UInt64.toNat =
      (now.toMoment.later? (Apns.effectiveTimeToLive timeToLive.toNat)).map fun _ =>
        Apns.expiration now.toMoment timeToLive.toNat := by
  have hend := now.add?_ofSeconds (keepingTime timeToLive)
  rw [toNat_keepingTime] at hend
  rw [expiration?, Option.map_map, ← hend]
  cases hadd : now.add? (.ofSeconds (keepingTime timeToLive)) with
  | none => rfl
  | some ending =>
    have hlater : ending.toMoment =
        now.toMoment.later (Apns.effectiveTimeToLive timeToLive.toNat) := by
      rw [hadd, Option.map_some, Moment.later?] at hend
      split at hend
      · exact Option.some.inj hend
      · cases hend
    have hsince := ending.since?_epoch
    simp only [Option.map_some, Function.comp_apply]
    rw [Apns.expiration, ← hlater, ← hsince]
    cases ending.since? epoch with
    | none => rfl
    | some d => rfl

/-- Whether a clock can show the end of every push that is converted now: it is less than 2 ^ 32
    seconds away. -/
def HasRoom (now : Clock) : Prop := (now.add? (.ofSeconds 0x100000000)).isSome

theorem HasRoom.later? {now : Clock} (h : now.HasRoom) {n : ℕ} (hn : n ≤ 2 ^ 32) :
    now.toMoment.later? n = some (now.toMoment.later n) := by
  have hlast : (now.toMoment.later? (2 ^ 32)).isSome := by
    have hend := now.add?_ofSeconds 0x100000000
    rw [show (0x100000000 : UInt64).toNat = 2 ^ 32 by decide] at hend
    rwa [← hend, Option.isSome_map]
  rw [Moment.later?_isSome_iff] at hlast
  rw [Moment.later?, if_pos (by omega)]

end Clock

/-! ## Requests -/

/-- A notification with another time to live. -/
def Notification.keeping (n : Notification) (timeToLive : UInt32) : Notification :=
  { n with timeToLive := timeToLive.toNat }

namespace Apns

variable {n : Notification} {policy : Policy} {capabilities : Capabilities}

theorem effectiveTimeToLive_le (timeToLive : UInt32) :
    effectiveTimeToLive timeToLive.toNat ≤ 2 ^ 32 := by
  have hlt := timeToLive.toNat_lt
  unfold effectiveTimeToLive defaultTimeToLive
  split <;> omega

/-- A time to live of zero stands for one of twenty minutes, so only others are in order. -/
theorem effectiveTimeToLive_mono {short long : UInt32} (hpos : 1 ≤ short) (h : short ≤ long) :
    effectiveTimeToLive short.toNat ≤ effectiveTimeToLive long.toNat := by
  rw [UInt32.le_iff_toNat_le] at hpos h
  replace hpos : 1 ≤ short.toNat := hpos
  unfold effectiveTimeToLive
  rw [if_neg (by omega), if_neg (by omega)]
  exact h

/-- No clock runs over that has room. -/
theorem convert?_of_hasRoom {now : Clock} (hroom : now.HasRoom) (timeToLive : UInt32) :
    convert? (n.keeping timeToLive) policy capabilities now.toMoment =
      some (convert (n.keeping timeToLive) policy capabilities now.toMoment) := by
  unfold convert?
  split
  · rename_i r hsend
    have hlater := hroom.later? (effectiveTimeToLive_le timeToLive)
    rw [show (n.keeping timeToLive).timeToLive = timeToLive.toNat from rfl, hlater, hsend]
    rfl
  · rfl

/-- The time and the time to live matter for the expiration of a request only. -/
theorem convert_keeping {now : Moment} {r : Request}
    (h : convert n policy capabilities now = .ok (.send r)) (later : Moment) (timeToLive : UInt32) :
    convert (n.keeping timeToLive) policy capabilities later =
      .ok (.send { r with expiration := expiration later timeToLive.toNat }) := by
  cases hpayload : n.payload with
  | none =>
    rw [convert_missing hpayload] at h
    cases h
  | some payload =>
    have hkeeping : (n.keeping timeToLive).payload = some payload := hpayload
    rw [n.eq_carrying hpayload, convert_payload] at h
    rw [(n.keeping timeToLive).eq_carrying hkeeping, convert_payload]
    cases hparts : parts payload policy capabilities with
    | error e =>
      rw [hparts] at h
      cases h
    | ok made =>
      rw [hparts] at h
      cases made with
      | none => cases h
      | some p =>
        cases h
        rfl

/-- The seconds that a push is kept, in exact numbers. -/
def lifetime (timeToLive : UInt32) : ℕ := if timeToLive = 0 then 1200 else timeToLive.toNat

theorem lifetime_eq (timeToLive : UInt32) :
    lifetime timeToLive = effectiveTimeToLive timeToLive.toNat := by
  unfold lifetime effectiveTimeToLive
  simp only [← UInt32.toNat_inj]
  rfl

/-- How long a push is kept that is converted into a request at a certain time. -/
structure Expires (n : Notification) (policy : Policy) (capabilities : Capabilities) (now : Clock)
    (timeToLive : UInt32) (r : Request) : Prop where
  /-- It expires at the end of its lifetime in whole seconds, or at the epoch if that is later. -/
  ends : (r.expiration : ℤ) = max 0 ⌊now.toMoment.toRat + lifetime timeToLive⌋
  /-- The numbers of the clock come to the same, and run neither over nor below zero. -/
  counted : (now.expiration? timeToLive).map UInt64.toNat = some r.expiration
  /-- After the epoch, the whole seconds of the time and of the lifetime are added up. -/
  afterEpoch : 0 ≤ now.toMoment.toRat →
    (r.expiration : ℤ) = ⌊now.toMoment.toRat⌋ + lifetime timeToLive
  /-- Converted at a later time, it does not expire sooner. -/
  later : ∀ later : Clock, later.HasRoom → now.toMoment.toRat ≤ later.toMoment.toRat →
    ∃ e, r.expiration ≤ e ∧
      convert? (n.keeping timeToLive) policy capabilities later.toMoment =
        some (.ok (.send { r with expiration := e }))
  /-- With a longer time to live, it does not expire sooner. -/
  longer : ∀ longer : UInt32, 1 ≤ timeToLive → timeToLive ≤ longer →
    ∃ e, r.expiration ≤ e ∧
      convert? (n.keeping longer) policy capabilities now.toMoment =
        some (.ok (.send { r with expiration := e }))

theorem expires_of_convert {now : Clock} (hroom : now.HasRoom) {timeToLive : UInt32} {r : Request}
    (h : convert (n.keeping timeToLive) policy capabilities now.toMoment = .ok (.send r)) :
    Expires n policy capabilities now timeToLive r := by
  have hother {later : Clock} (hlater : later.HasRoom) (longer : UInt32) :
      convert? (n.keeping longer) policy capabilities later.toMoment =
        some (.ok (.send { r with expiration := expiration later.toMoment longer.toNat })) := by
    rw [convert?_of_hasRoom hlater]
    exact congrArg some (convert_keeping h later.toMoment longer)
  have hexpiration : r.expiration = expiration now.toMoment timeToLive.toNat := by
    have hsame := hother hroom timeToLive
    rw [convert?_of_hasRoom hroom, h] at hsame
    injection hsame with hsame
    injection hsame with hsame
    injection hsame with hsame
    exact congrArg Request.expiration hsame
  have hends : (r.expiration : ℤ) = max 0 ⌊now.toMoment.toRat + lifetime timeToLive⌋ := by
    rw [hexpiration, expiration_eq_max, lifetime_eq]
  refine ⟨hends, ?_, fun hepoch => ?_, fun later hlater hle => ?_, fun longer hpos hle => ?_⟩
  · rw [now.expiration?_eq, hroom.later? (effectiveTimeToLive_le timeToLive), hexpiration]
    rfl
  · rw [hends, Int.floor_add_natCast]
    have := Int.floor_nonneg.mpr hepoch
    omega
  · exact ⟨_, hexpiration ▸ expiration_mono hle le_rfl, hother hlater timeToLive⟩
  · exact ⟨_, hexpiration ▸ expiration_mono le_rfl (effectiveTimeToLive_mono hpos hle),
      hother hroom longer⟩

/-- However far a time is from the epoch, before or after it: if the clock has room for every time
    to live, a conversion is answered, and a request expires exactly at the end of its lifetime. -/
theorem convert_expires (n : Notification) (policy : Policy) (capabilities : Capabilities)
    {now : Clock} (hroom : now.HasRoom) (timeToLive : UInt32) :
    ∃ answer,
      convert? (n.keeping timeToLive) policy capabilities now.toMoment = some answer ∧
      ∀ r, answer = .ok (.send r) → Expires n policy capabilities now timeToLive r :=
  ⟨_, convert?_of_hasRoom hroom timeToLive, fun _ hsend => expires_of_convert hroom hsend⟩

/-- A push whose lifetime of a minute ends a nanosecond before the epoch. -/
theorem convert_expires_before_epoch :
    Clock.HasRoom { seconds := -61, nanos := 999999999 } ∧
    ∃ r, convert? (Notification.keeping { payload := some (.alerting {}) } 60) {} {}
        (Clock.toMoment { seconds := -61, nanos := 999999999 }) = some (.ok (.send r)) ∧
      r.expiration = 0 ∧
      Expires { payload := some (.alerting {}) } {} {}
        { seconds := -61, nanos := 999999999 } 60 r := by
  have hroom : Clock.HasRoom { seconds := -61, nanos := 999999999 } := by
    unfold Clock.HasRoom
    decide
  obtain ⟨answer, hanswer, hexpires⟩ :=
    convert_expires { payload := some (.alerting {}) } {} {} hroom 60
  cases hanswer
  exact ⟨hroom, _, rfl, rfl, hexpires _ rfl⟩

end Apns

end Courier
