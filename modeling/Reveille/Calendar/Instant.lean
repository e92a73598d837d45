import Reveille.Calendar.Date
import Reveille.Calendar.TimeOfDay

/-!
# Instants

An instant is a count of seconds since 1970 in UTC, the nanoseconds after it, and the offset of
local time at that instant.
-/

namespace Reveille.Calendar

open Reveille.Text

def secondsPerDay : Int := 86400

/-- A date and a time of day, without regard to where. -/
structure LocalTime where
  days : Int
  time : TimeOfDay
deriving DecidableEq, Repr

namespace LocalTime

def date (t : LocalTime) : Date := Date.ofDays t.days

def weekday (t : LocalTime) : Weekday := Date.weekdayOfDays t.days

/-- So many seconds after the start of 1970. -/
def ofSeconds (seconds : Int) (nanos : Nat) : LocalTime :=
  ⟨seconds / secondsPerDay, ⟨(seconds % secondsPerDay).toNat, nanos⟩⟩

/-- Seconds from the start of 1970. -/
def toSeconds (t : LocalTime) : Int :=
  t.days * secondsPerDay + t.time.second

/-- Date and time with `between` in the middle. -/
def textWith (between : String) (t : LocalTime) : String :=
  t.date.text ++ between ++ t.time.text

end LocalTime

structure Instant where
  epoch : Int
  nanos : Nat
  offset : Int
deriving DecidableEq, Repr

namespace Instant

/-- What a clock on the wall shows. -/
def toLocal (t : Instant) : LocalTime :=
  LocalTime.ofSeconds (t.epoch + t.offset) t.nanos

/-- An instant of UTC on a whole second. -/
def ofEpoch (epoch : Int) : Instant :=
  ⟨epoch, 0, 0⟩

/-- The first second that has a date: the start of the year -262143. -/
def firstEpoch : Int := -8334601228800

/-- The last second that has a date: the end of the year 262142. -/
def lastEpoch : Int := 8210266876799

def isDated (epoch : Int) : Bool :=
  firstEpoch ≤ epoch && epoch ≤ lastEpoch

theorem isDated_iff {epoch : Int} :
    isDated epoch = true ↔ -8334601228800 ≤ epoch ∧ epoch ≤ 8210266876799 := by
  rw [isDated, Bool.and_eq_true, decide_eq_true_iff, decide_eq_true_iff, firstEpoch, lastEpoch]

/-- `yyyy-mm-ddThh:mm:ssZ` in UTC, for seconds that have a date. -/
def utcText? (epoch : Int) : Option String :=
  if isDated epoch then some ((ofEpoch epoch).toLocal.textWith "T" ++ "Z") else none

end Instant

end Reveille.Calendar
