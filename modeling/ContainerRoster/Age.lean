/-!
# Ages

How long ago something happened, as a count of one unit. The unit grows with the age: seconds and
minutes below sixty of them, then hours, days, weeks and months below about two of the next larger
unit, then years. Hours are rounded to the nearest, and days, weeks and months count whole ones in
the rounded hours; seconds, minutes and years are never rounded up.
-/

namespace ContainerRoster

inductive AgeUnit
  | second
  | minute
  | hour
  | day
  | week
  | month
  | year
  deriving DecidableEq, Repr

namespace AgeUnit

/-- The length of a unit in seconds; a month has thirty days and a year 365. -/
def seconds : AgeUnit → Nat
  | second => 1
  | minute => 60
  | hour => 3600
  | day => 24 * 3600
  | week => 7 * 24 * 3600
  | month => 30 * 24 * 3600
  | year => 365 * 24 * 3600

/-- The name for more than one of a unit. -/
def plural : AgeUnit → String
  | second => "seconds"
  | minute => "minutes"
  | hour => "hours"
  | day => "days"
  | week => "weeks"
  | month => "months"
  | year => "years"

end AgeUnit

/-- A count of a unit. No seconds stand for less than one. -/
structure Age where
  count : Nat
  unit : AgeUnit
  deriving DecidableEq, Repr

namespace Age

/-- Nanoseconds in a second. -/
def nanosPerSecond : Nat := 1000000000

/-- Seconds rounded to the nearest hour. -/
def nearestHour (seconds : Nat) : Nat := (seconds + 1800) / 3600

/-- The age for a number of whole seconds. -/
def ofSeconds (s : Nat) : Age :=
  if s < 60 then ⟨s, .second⟩
  else if s / 60 < 60 then ⟨s / 60, .minute⟩
  else
    let h := nearestHour s
    if h < 48 then ⟨h, .hour⟩
    else if h < 24 * 7 * 2 then ⟨h / 24, .day⟩
    else if h < 24 * 30 * 2 then ⟨h / 24 / 7, .week⟩
    else if h < 24 * 365 * 2 then ⟨h / 24 / 30, .month⟩
    else ⟨s / 3600 / 24 / 365, .year⟩

/-- The age of what happened so many nanoseconds ago; the future counts as now. -/
def ofNanos (elapsed : Int) : Age := ofSeconds (elapsed.toNat / nanosPerSecond)

def text (age : Age) : String :=
  match age with
  | ⟨0, .second⟩ => "Less than a second"
  | ⟨1, .second⟩ => "1 second"
  | ⟨1, .minute⟩ => "About a minute"
  | ⟨1, .hour⟩ => "About an hour"
  | ⟨n, unit⟩ => toString n ++ " " ++ unit.plural

end Age

end ContainerRoster
