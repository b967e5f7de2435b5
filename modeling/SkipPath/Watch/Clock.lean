import SkipPath.Rounding

/-!
Readings of a clock, in seconds (`time.time`).

A clock keeps 53 binary digits of a number of seconds, and so does the time that is counted between two
readings.  Readings that are close to each other, compared with their size, have a difference with so few
digits anyway; a reading near zero and a late one may not.
-/

namespace SkipPath.Watch

/-- A reading of a clock, in seconds. -/
abbrev Time := Rat

/-- The time from one reading to another. -/
def Time.elapsed (start now : Time) : Time := Rounding.kept (now - start)

end SkipPath.Watch
