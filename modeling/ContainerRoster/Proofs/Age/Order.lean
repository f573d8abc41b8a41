import ContainerRoster.Proofs.Age.Reading
import ContainerRoster.Record

/-!
# Ages in order

A time is first rounded to whole hours, unless it is below one, and then counted in whole units.
Rounding down to whole units never steps back, also where the unit changes: each unit is first used
at a whole number of itself.  Years alone are counted in the time before it was rounded, so in the
half hour in which a time is rounded up to two years it is counted as one.  `shown_in_order` says
that a longer time is shown as a shorter one then, if the shorter one is shown as more than a year,
and at no other time.
-/

namespace ContainerRoster

namespace AgeUnit

/-- The least time that is counted in a unit, in seconds. -/
def start : AgeUnit → Nat
  | second => 0
  | minute => 60
  | hour => 3600
  | day => 48 * 3600
  | week => 14 * 24 * 3600
  | month => 60 * 24 * 3600
  | year => 730 * 24 * 3600

/-- The time from which on a unit gives way to the next one; there is none behind years. -/
def stop? : AgeUnit → Option Nat
  | second => some minute.start
  | minute => some hour.start
  | hour => some day.start
  | day => some week.start
  | week => some month.start
  | month => some year.start
  | year => none

/-- The unit that a time is counted in. -/
def ofTime (time : Nat) : AgeUnit :=
  if time < minute.start then second
  else if time < hour.start then minute
  else if time < day.start then hour
  else if time < week.start then day
  else if time < month.start then week
  else if time < year.start then month
  else year

variable {unit : AgeUnit} {time later : Nat}

theorem seconds_dvd_start (unit : AgeUnit) : unit.seconds ∣ unit.start := by
  cases unit <;> decide

theorem ofTime_eq_iff :
    ofTime time = unit ↔ unit.start ≤ time ∧ ∀ stop ∈ unit.stop?, time < stop := by
  unfold ofTime
  cases unit <;> simp only [stop?, start, Option.mem_def, Option.some.injEq, reduceCtorEq] <;> grind

theorem start_ofTime_le (time : Nat) : (ofTime time).start ≤ time := (ofTime_eq_iff.mp rfl).1

theorem ofTime_eq_year_iff : ofTime time = year ↔ year.start ≤ time := by
  simp only [ofTime_eq_iff, stop?, Option.not_mem_none, false_implies, implies_true, and_true]

/-- Where the unit changes on the way to a later time, the later unit starts. -/
theorem lt_start_of_ne (h : time ≤ later) (hne : ofTime time ≠ ofTime later) :
    time < (ofTime later).start := by
  refine Nat.lt_of_not_le fun hle => hne (ofTime_eq_iff.mpr ⟨hle, fun stop hs => ?_⟩)
  exact Nat.lt_of_le_of_lt h ((ofTime_eq_iff.mp rfl).2 stop hs)

/-- A time without what is over a whole number of units. -/
def whole (unit : AgeUnit) (time : Nat) : Nat := time / unit.seconds * unit.seconds

theorem whole_le (unit : AgeUnit) (time : Nat) : unit.whole time ≤ time :=
  Nat.div_mul_le_self time unit.seconds

theorem whole_mono (h : time ≤ later) : unit.whole time ≤ unit.whole later :=
  Nat.mul_le_mul_right _ (Nat.div_le_div_right h)

theorem le_whole {n : Nat} (h : unit.seconds ∣ n) (hle : n ≤ time) : n ≤ unit.whole time :=
  calc n = unit.whole n := (Nat.div_mul_cancel h).symm
    _ ≤ unit.whole time := whole_mono hle

/-- Counting whole units never steps back. -/
theorem whole_ofTime_mono (h : time ≤ later) :
    (ofTime time).whole time ≤ (ofTime later).whole later := by
  by_cases hunit : ofTime time = ofTime later
  · rw [hunit]
    exact whole_mono h
  · calc (ofTime time).whole time ≤ time := whole_le _ _
      _ ≤ (ofTime later).start := Nat.le_of_lt (lt_start_of_ne h hunit)
      _ ≤ (ofTime later).whole later :=
        le_whole (seconds_dvd_start _) (start_ofTime_le later)

end AgeUnit

namespace Age

open AgeUnit (ofTime)

variable {s t : Nat}

/-- A time that is at least an hour, in whole hours. -/
def rounded (s : Nat) : Nat := if s < 3600 then s else nearestHour s * 3600

theorem rounded_cases (s : Nat) :
    (s < 3600 ∧ rounded s = s) ∨ (3600 ≤ s ∧ rounded s = nearestHour s * 3600) := by
  unfold rounded
  split <;> omega

theorem nearestHour_pos (h : 3600 ≤ s) : 0 < nearestHour s := by
  unfold nearestHour
  omega

theorem rounded_mono (h : s ≤ t) : rounded s ≤ rounded t := by
  unfold rounded nearestHour
  split <;> split <;> omega

/-- Times are counted in the unit of the rounded time. -/
theorem unit_ofSeconds (s : Nat) : (ofSeconds s).unit = ofTime (rounded s) := by
  have hr := rounded_cases s
  have hpos := @nearestHour_pos s
  rw [eq_comm, AgeUnit.ofTime_eq_iff]
  unfold ofSeconds
  dsimp only
  repeat' split
  all_goals
    simp only [AgeUnit.start, AgeUnit.stop?, Option.mem_def, Option.some.injEq, forall_eq',
      reduceCtorEq, false_implies, implies_true, and_true]
    omega

/-- Times are rounded before they are counted, but not those that are counted in years. -/
theorem count_ofSeconds (s : Nat) :
    (ofSeconds s).count =
      (if rounded s < AgeUnit.year.start then rounded s else s) / (ofSeconds s).unit.seconds := by
  have hr := rounded_cases s
  have hpos := @nearestHour_pos s
  have hyear : AgeUnit.year.start = 730 * 86400 := rfl
  unfold ofSeconds
  dsimp only
  repeat' split
  all_goals dsimp only [AgeUnit.seconds]
  all_goals omega

theorem length_ofSeconds (s : Nat) :
    (ofSeconds s).length =
      if rounded s < AgeUnit.year.start then (ofTime (rounded s)).whole (rounded s)
      else AgeUnit.year.whole s := by
  rw [length, count_ofSeconds, unit_ofSeconds]
  split
  · rfl
  · next h =>
    rw [AgeUnit.ofTime_eq_year_iff.mpr (Nat.le_of_not_lt h)]
    rfl

/-- How a time is shown as long as it is not counted in years. -/
theorem length_ofSeconds_of_lt (h : rounded s < AgeUnit.year.start) :
    (ofSeconds s).length = (ofTime (rounded s)).whole (rounded s) := by
  rw [length_ofSeconds, if_pos h]

theorem length_ofSeconds_of_le (h : AgeUnit.year.start ≤ rounded s) :
    (ofSeconds s).length = AgeUnit.year.whole s := by
  rw [length_ofSeconds, if_neg (Nat.not_lt.mpr h)]

/-- A time rounds up to a number of days half an hour before it. -/
theorem le_rounded_iff {days : Nat} (hdays : 0 < days) :
    days * 86400 ≤ rounded s ↔ days * 86400 - 1800 ≤ s := by
  unfold rounded nearestHour
  split <;> omega

theorem year_le_rounded_iff : AgeUnit.year.start ≤ rounded s ↔ 730 * 86400 - 1800 ≤ s := by
  rw [show AgeUnit.year.start = 730 * 86400 from rfl]
  exact le_rounded_iff (by decide)

/-- A time that is not counted in years is shown as more than one once it rounds up to 13 months. -/
theorem year_lt_whole_iff : AgeUnit.year.seconds < (ofTime (rounded s)).whole (rounded s) ↔
    390 * 86400 - 1800 ≤ s := by
  rw [← le_rounded_iff (by decide)]
  constructor
  · intro h
    by_cases hr : 390 * 86400 ≤ rounded s
    · exact hr
    · have hle : rounded s ≤ 390 * 86400 - 1 := Nat.le_pred_of_lt (Nat.lt_of_not_le hr)
      have hmono := AgeUnit.whole_ofTime_mono hle
      have hmonths : (ofTime (390 * 86400 - 1)).whole (390 * 86400 - 1) = 360 * 86400 := rfl
      have hyear : AgeUnit.year.seconds = 365 * 86400 := rfl
      omega
  · intro h
    have hmono := AgeUnit.whole_ofTime_mono h
    have hmonths : (ofTime (390 * 86400)).whole (390 * 86400) = 390 * 86400 := rfl
    have hyear : AgeUnit.year.seconds = 365 * 86400 := rfl
    omega

/-- As long as the longer time is not counted in years, it is not shown as the shorter one. -/
theorem length_le_of_lt (h : s ≤ t) (ht : rounded t < AgeUnit.year.start) :
    (ofSeconds s).length ≤ (ofSeconds t).length := by
  have hs : rounded s < AgeUnit.year.start := Nat.lt_of_le_of_lt (rounded_mono h) ht
  rw [length_ofSeconds_of_lt hs, length_ofSeconds_of_lt ht]
  exact AgeUnit.whole_ofTime_mono (rounded_mono h)

/-- What rounds up to two years is counted as a single one. -/
theorem year_whole_eq (h : 730 * 86400 - 1800 ≤ t) (ht : t < 730 * 86400) :
    AgeUnit.year.whole t = AgeUnit.year.seconds := by
  have hone : t / (365 * 24 * 3600) = 1 := by omega
  show t / (365 * 24 * 3600) * (365 * 24 * 3600) = _
  rw [hone, Nat.one_mul]
  rfl

/-- Two years that are not rounded up to are shown as more than all that is not counted in years. -/
theorem whole_le_year_whole (hs : rounded s < AgeUnit.year.start) (ht : AgeUnit.year.start ≤ t) :
    (ofTime (rounded s)).whole (rounded s) ≤ AgeUnit.year.whole t :=
  calc (ofTime (rounded s)).whole (rounded s) ≤ rounded s := AgeUnit.whole_le _ _
    _ ≤ AgeUnit.year.start := Nat.le_of_lt hs
    _ ≤ AgeUnit.year.whole t := AgeUnit.le_whole (AgeUnit.seconds_dvd_start .year) ht

/-- A longer time is shown as a shorter one where it is counted as a single year. -/
theorem length_lt_iff (h : s ≤ t) : (ofSeconds t).length < (ofSeconds s).length ↔
    (390 * 86400 - 1800 ≤ s ∧ s < 730 * 86400 - 1800) ∧
      730 * 86400 - 1800 ≤ t ∧ t < 730 * 86400 := by
  have hs := @year_le_rounded_iff s
  have ht := @year_le_rounded_iff t
  by_cases hlater : rounded t < AgeUnit.year.start
  · have hle := length_le_of_lt h hlater
    omega
  · rw [length_ofSeconds_of_le (Nat.le_of_not_lt hlater)]
    by_cases hearlier : rounded s < AgeUnit.year.start
    · rw [length_ofSeconds_of_lt hearlier]
      by_cases hyears : t < 730 * 86400
      · rw [year_whole_eq (ht.mp (Nat.le_of_not_lt hlater)) hyears, year_lt_whole_iff]
        omega
      · have hle := whole_le_year_whole hearlier (Nat.le_of_not_lt hyears)
        omega
    · rw [length_ofSeconds_of_le (Nat.le_of_not_lt hearlier)]
      have hle : AgeUnit.year.whole s ≤ AgeUnit.year.whole t := AgeUnit.whole_mono h
      omega

/-- Half an hour in nanoseconds. -/
def halfHour : Int := 1800 * nanosPerSecond

/-- A number of days in nanoseconds. -/
def days (n : Nat) : Int := n * 86400 * nanosPerSecond

/-- The length of time that is named for what happened so many nanoseconds ago, in seconds. -/
def shown? (elapsed : Int) : Option Nat := (ofText? (ofNanos elapsed).text).map length

theorem shown?_eq (elapsed : Int) :
    shown? elapsed = some (ofSeconds (elapsed.toNat / nanosPerSecond)).length := by
  rw [shown?, ofText?_text]
  rfl

/-- A longer time is named as a shorter one in the last half hour before two years alone. -/
theorem length_ofNanos_lt_iff {a b : Int} (hab : a ≤ b) :
    (ofNanos b).length < (ofNanos a).length ↔
      (days 390 - halfHour ≤ a ∧ a < days 730 - halfHour) ∧
        days 730 - halfHour ≤ b ∧ b < days 730 := by
  have hnanos : nanosPerSecond = 1000000000 := rfl
  have hseconds : a.toNat / nanosPerSecond ≤ b.toNat / nanosPerSecond :=
    Nat.div_le_div_right (Int.toNat_le_toNat hab)
  unfold ofNanos days halfHour
  rw [length_lt_iff hseconds, hnanos]
  omega

theorem shown_in_order {a b : Int} (hab : a ≤ b) :
    ∃ age age' : Age, shown? a = some age.length ∧ shown? b = some age'.length ∧
      (age'.length < age.length ↔
        (days 390 - halfHour ≤ a ∧ a < days 730 - halfHour) ∧
          days 730 - halfHour ≤ b ∧ b < days 730) ∧
      ∀ (c c' : Container) (stored stored' : StorageRecord) (noTrunc : Bool) (now : Int),
        now - c.createdAt = a → now - c'.createdAt = b →
        (Record.assemble c stored noTrunc now).created = age.text ++ " ago" ∧
          (Record.assemble c' stored' noTrunc now).created = age'.text ++ " ago" := by
  refine ⟨ofNanos a, ofNanos b, shown?_eq a, shown?_eq b, length_ofNanos_lt_iff hab, ?_⟩
  rintro c c' stored stored' noTrunc now rfl rfl
  exact ⟨rfl, rfl⟩

/-- Two years are shown as more than what is just too short to round up to them. -/
theorem shown_in_order_two_years :
    let a := days 730 - halfHour - 1
    let b := days 730
    let c : Container := ⟨"a", none, 1, -a⟩
    let c' : Container := ⟨"b", none, 1, -b⟩
    a ≤ b ∧ ∃ age age' : Age, shown? a = some age.length ∧ shown? b = some age'.length ∧
      age.length ≤ age'.length ∧
      (Record.assemble c ⟨"a", none, none, none⟩ false 0).created = age.text ++ " ago" ∧
      (Record.assemble c' ⟨"b", none, none, none⟩ false 0).created = age'.text ++ " ago" := by
  intro a b c c'
  have hab : a ≤ b := by decide
  obtain ⟨age, age', hage, hage', horder, hcreated⟩ := shown_in_order hab
  refine ⟨hab, age, age', hage, hage', ?_,
    hcreated c c' ⟨"a", none, none, none⟩ ⟨"b", none, none, none⟩ false 0 (by decide) (by decide)⟩
  exact Nat.le_of_not_lt fun hlt => absurd (horder.mp hlt) (by decide)

/-- A nanosecond more makes 24 months a single year. -/
theorem shown_out_of_order :
    (ofNanos (days 730 - halfHour - 1)).text = "24 months" ∧
      (ofNanos (days 730 - halfHour)).text = "1 years" ∧
      shown? (days 730 - halfHour - 1) = some (720 * 86400) ∧
      shown? (days 730 - halfHour) = some (365 * 86400) := by
  decide +kernel

end Age

end ContainerRoster
