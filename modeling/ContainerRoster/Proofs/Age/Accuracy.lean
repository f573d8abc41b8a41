import ContainerRoster.Proofs.Age.Order

/-!
# Ages that tell the time

How far the text of an age may be from the time that has passed, in nanoseconds.  Seconds, minutes
and years count what is complete.  Hours are the nearest ones, and days, weeks and months count what
is complete once half an hour has been added.  `told_accurately` says this of every time, with the
words of each text and with the times for which each unit is used.
-/

namespace ContainerRoster

namespace AgeUnit

/-- The length of a unit in nanoseconds. -/
def nanos (unit : AgeUnit) : Int := unit.seconds * Age.nanosPerSecond

/-- Whether a unit is used for a time in nanoseconds that is nearest to so many hours. -/
def IsUsedFor (elapsed hours : Int) : AgeUnit → Prop
  | second => elapsed < 60 * second.nanos
  | minute => 60 * second.nanos ≤ elapsed ∧ elapsed < 60 * minute.nanos
  | hour => 60 * minute.nanos ≤ elapsed ∧ hours < 48
  | day => 48 ≤ hours ∧ hours < 336
  | week => 336 ≤ hours ∧ hours < 1440
  | month => 1440 ≤ hours ∧ hours < 17520
  | year => 17520 ≤ hours

end AgeUnit

namespace Age

/-- The words for an age. -/
inductive Says : String → Age → Prop
  | instant : Says "Less than a second" ⟨0, .second⟩
  | second : Says "1 second" ⟨1, .second⟩
  | minute : Says "About a minute" ⟨1, .minute⟩
  | hour : Says "About an hour" ⟨1, .hour⟩
  | seconds (n : Nat) (h : 2 ≤ n) : Says (toString n ++ " seconds") ⟨n, .second⟩
  | minutes (n : Nat) (h : 2 ≤ n) : Says (toString n ++ " minutes") ⟨n, .minute⟩
  | hours (n : Nat) (h : 2 ≤ n) : Says (toString n ++ " hours") ⟨n, .hour⟩
  | days (n : Nat) : Says (toString n ++ " days") ⟨n, .day⟩
  | weeks (n : Nat) : Says (toString n ++ " weeks") ⟨n, .week⟩
  | months (n : Nat) : Says (toString n ++ " months") ⟨n, .month⟩
  | years (n : Nat) : Says (toString n ++ " years") ⟨n, .year⟩

/-- The times, in nanoseconds, that an age may stand for. -/
def Covers (age : Age) (elapsed : Int) : Prop :=
  match age.unit with
  | .second | .minute | .year =>
    age.count * age.unit.nanos ≤ elapsed ∧ elapsed < (age.count + 1) * age.unit.nanos
  | .hour =>
    -- A single hour is complete.
    (if age.count = 1 then age.unit.nanos else age.count * age.unit.nanos - halfHour) ≤ elapsed ∧
      elapsed < age.count * age.unit.nanos + halfHour
  | .day | .week | .month =>
    age.count * age.unit.nanos - halfHour ≤ elapsed ∧
      elapsed < (age.count + 1) * age.unit.nanos - halfHour

/-- Whether a time is nearest to so many hours; one that is between two belongs to the later. -/
def IsNearest (elapsed hours : Int) : Prop :=
  hours * AgeUnit.hour.nanos - halfHour ≤ elapsed ∧
    elapsed < hours * AgeUnit.hour.nanos + halfHour

variable {s : Nat} {elapsed hours : Int}

theorem exists_isNearest (elapsed : Int) : ∃ hours, IsNearest elapsed hours := by
  refine ⟨(elapsed + halfHour) / AgeUnit.hour.nanos, ?_⟩
  unfold IsNearest
  simp only [halfHour, AgeUnit.nanos, AgeUnit.seconds, nanosPerSecond]
  omega

/-- The complete seconds of a time are nearest to the same hour. -/
theorem nearestHour_eq (h : IsNearest elapsed hours) (hpos : 0 ≤ elapsed) :
    (nearestHour (elapsed.toNat / nanosPerSecond) : Int) = hours := by
  obtain ⟨hlow, hhigh⟩ := h
  simp only [halfHour, AgeUnit.nanos, AgeUnit.seconds] at hlow hhigh
  simp only [nearestHour, nanosPerSecond] at *
  omega

/-! ## Units -/

theorem unit_ofNanos_iff (h : IsNearest elapsed hours) (unit : AgeUnit) :
    (ofNanos elapsed).unit = unit ↔ unit.IsUsedFor elapsed hours := by
  have hnearest := nearestHour_eq h
  obtain ⟨hlow, hhigh⟩ := h
  have hr := rounded_cases (elapsed.toNat / nanosPerSecond)
  rw [ofNanos, unit_ofSeconds, AgeUnit.ofTime_eq_iff]
  simp only [halfHour, AgeUnit.nanos, AgeUnit.seconds] at hlow hhigh
  cases unit
  all_goals
    simp only [AgeUnit.start, AgeUnit.stop?, AgeUnit.IsUsedFor, AgeUnit.nanos, AgeUnit.seconds,
      Option.mem_def, Option.some.injEq, forall_eq', reduceCtorEq, false_implies, implies_true,
      and_true]
    simp only [nanosPerSecond] at *
    omega

/-! ## Counts -/

/-- An age of a second or more is counted from one on. -/
theorem count_pos (h : 1 ≤ s) : 0 < (ofSeconds s).count := by
  unfold ofSeconds nearestHour
  dsimp only
  repeat' split
  all_goals dsimp only
  all_goals omega

/-- The complete seconds of a time that is not in the future. -/
theorem complete_seconds (h : 0 ≤ elapsed) :
    (elapsed.toNat / nanosPerSecond : Nat) * (nanosPerSecond : Int) ≤ elapsed ∧
      elapsed < ((elapsed.toNat / nanosPerSecond : Nat) + 1) * (nanosPerSecond : Int) := by
  unfold nanosPerSecond
  omega

/-- An age counts the complete units of the rounded time, or of the time itself once it is counted
in years. -/
theorem count_cases (s : Nat) :
    (rounded s < AgeUnit.year.start ∧
        (ofSeconds s).count = rounded s / (ofSeconds s).unit.seconds) ∨
      (AgeUnit.year.start ≤ rounded s ∧
        (ofSeconds s).count = s / (ofSeconds s).unit.seconds) := by
  have hcount := count_ofSeconds s
  split at hcount
  · next h => exact .inl ⟨h, hcount⟩
  · next h => exact .inr ⟨Nat.le_of_not_lt h, hcount⟩

theorem covers_ofNanos (h : AgeUnit.second.nanos ≤ elapsed) :
    (ofNanos elapsed).Covers elapsed := by
  have hs := complete_seconds (Int.le_trans (by decide) h)
  have hr := rounded_cases (elapsed.toNat / nanosPerSecond)
  have hunit := AgeUnit.ofTime_eq_iff.mp (unit_ofSeconds (elapsed.toNat / nanosPerSecond)).symm
  have hcount := count_cases (elapsed.toNat / nanosPerSecond)
  rw [ofNanos, Covers]
  generalize elapsed.toNat / nanosPerSecond = s at *
  generalize ofSeconds s = age at *
  obtain ⟨n, unit⟩ := age
  unfold nearestHour at hr
  -- What an age covers depends on its unit alone, and so does how it was rounded.
  cases unit
  all_goals
    simp only [AgeUnit.start, AgeUnit.stop?, AgeUnit.nanos, AgeUnit.seconds, halfHour,
      nanosPerSecond, Option.mem_def, Option.some.injEq, forall_eq', reduceCtorEq, false_implies,
      implies_true, and_true] at *
    omega

/-! ## Words -/

theorem says_text {age : Age} (h : 0 < age.count ∨ age.unit = .second) : Says age.text age := by
  unfold text
  split
  · exact .instant
  · exact .second
  · exact .minute
  · exact .hour
  · next n unit hinstant hsecond hminute hhour =>
    rw [String.append_assoc]
    cases unit with
    | second =>
      have h0 : n ≠ 0 := fun he => hinstant he rfl
      have h1 : n ≠ 1 := fun he => hsecond he rfl
      exact .seconds n (by omega)
    | minute =>
      have h1 : n ≠ 1 := fun he => hminute he rfl
      have h0 : 0 < n := h.resolve_right nofun
      exact .minutes n (by omega)
    | hour =>
      have h1 : n ≠ 1 := fun he => hhour he rfl
      have h0 : 0 < n := h.resolve_right nofun
      exact .hours n (by omega)
    | day => exact .days n
    | week => exact .weeks n
    | month => exact .months n
    | year => exact .years n

theorem text_of_lt (h : elapsed < AgeUnit.second.nanos) :
    (ofNanos elapsed).text = "Less than a second" := by
  have hs : elapsed.toNat / nanosPerSecond = 0 := by
    simp only [AgeUnit.nanos, AgeUnit.seconds, nanosPerSecond] at *
    omega
  rw [ofNanos, hs]
  rfl

/-- The words, the bounds of the count and the range of the unit, for every time that has passed. -/
theorem told_accurately (elapsed : Int) :
    ∃ (age : Age) (hours : Int),
      IsNearest elapsed hours ∧
      (∀ unit, age.unit = unit ↔ unit.IsUsedFor elapsed hours) ∧
      Says (ofNanos elapsed).text age ∧
      (if elapsed < AgeUnit.second.nanos then (ofNanos elapsed).text = "Less than a second"
        else age.Covers elapsed) := by
  obtain ⟨hours, hnearest⟩ := exists_isNearest elapsed
  refine ⟨ofNanos elapsed, hours, hnearest, unit_ofNanos_iff hnearest, ?_, ?_⟩
  · refine says_text ?_
    rcases Nat.eq_zero_or_pos (elapsed.toNat / nanosPerSecond) with hs | hs
    · rw [ofNanos, hs]
      exact .inr rfl
    · exact .inl (count_pos hs)
  · split
    · next h => exact text_of_lt h
    · next h => exact covers_ofNanos (Int.not_lt.mp h)

/-- The words at either side of an edge, of rounding and of counting. -/
example : (ofNanos (5400 * nanosPerSecond - 1)).text = "About an hour" ∧
    (ofNanos (5400 * nanosPerSecond)).text = "2 hours" ∧
    (ofNanos (days 14 - halfHour - 1)).text = "13 days" ∧
    (ofNanos (days 14 - halfHour)).text = "2 weeks" := by
  decide +kernel

end Age
end ContainerRoster
