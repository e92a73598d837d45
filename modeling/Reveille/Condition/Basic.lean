import Reveille.Calendar.TimeOfDay
import Reveille.Calendar.Weekday
import Reveille.Net.Host

/-!
# Conditions

What a rule may ask of a motion: its weekday, its time of day, how long it was quiet before it,
and how long ago the rule's host was woken. The last one is asked of a host, so it is bound to
one before it can be checked.
-/

namespace Reveille

open Reveille.Calendar Reveille.Net Reveille.Text

/-- A condition as it is written. Lengths of time are in seconds. -/
inductive Condition where
  | dayOfWeek (days : List Weekday)
  /-- The time of day is strictly between these. -/
  | timeBetween (start stop : TimeOfDay)
  /-- More than so long passed since the motion before. -/
  | inactiveFor (seconds : Nat)
  /-- At least so long passed since the host was woken. -/
  | holdOff (seconds : Nat)
deriving DecidableEq, Repr

namespace Condition

def needsHost : Condition → Bool
  | .holdOff _ => true
  | _ => false

/-- The names of days, with commas between them. -/
def dayListChars (days : List Weekday) : List Char :=
  List.intercalate [',', ' '] (days.map fun d => d.shortName.toList)

def chars : Condition → List Char
  | .dayOfWeek days => "day in [".toList ++ dayListChars days ++ [']']
  | .timeBetween start stop =>
    start.clockText.toList ++ " < now < ".toList ++ stop.clockText.toList
  | .inactiveFor n => "inactive > ".toList ++ decimal n ++ ['s']
  | .holdOff n => "hold off >= ".toList ++ decimal n ++ ['s']

end Condition

/-- A condition with the host it is asked of, where it needs one. -/
structure BoundCondition where
  condition : Condition
  host : Option Host
deriving DecidableEq, Repr

namespace BoundCondition

/-- Hands the host to the condition if it needs one. -/
def ofCondition (host : Host) (c : Condition) : BoundCondition :=
  ⟨c, if c.needsHost then some host else none⟩

def chars (b : BoundCondition) : List Char :=
  b.condition.chars

end BoundCondition

end Reveille
