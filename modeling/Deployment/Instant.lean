import Deployment.Instant.Calendar

/-!
# Instant — points in time

An instant is kept in universal time. A leap second is counted to the second before it: its
fraction goes on from one billion billionths.
-/

namespace Deployment

/-- A point in time. -/
structure Instant where
  /-- The number of the day. -/
  day : Int
  /-- The seconds since midnight. -/
  second : Nat
  /-- The billionths of a second; from one billion on they lie in a leap second. -/
  nano : Nat
  deriving DecidableEq, Inhabited

namespace Instant

/-- The seconds of a day. -/
def secondsPerDay : Nat := 86400

/-- The billionths of a second. -/
def nanosPerSecond : Nat := 1000000000

/-- The first date that an instant may have. -/
def firstDate : Date := ⟨-262143, 1, 1⟩

/-- The last date that an instant may have. -/
def lastDate : Date := ⟨262142, 12, 31⟩

/-- The instant a number of billionths of a second after the begin of 1970. -/
def ofNanos (n : Nat) : Instant :=
  let seconds := n / nanosPerSecond
  ⟨seconds / secondsPerDay, seconds % secondsPerDay, n % nanosPerSecond⟩

end Instant

end Deployment
