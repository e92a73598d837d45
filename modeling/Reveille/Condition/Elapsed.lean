/-!
# Time gone by

Seconds between two counts of 64 bits stop at the ends of the signed range instead of wrapping,
and a length of time above that range counts as its end.
-/

namespace Reveille

/-- The greatest signed number of 64 bits. -/
def maxSeconds : Int := (Nat.pow 2 63 : Int) - 1

/-- The least signed number of 64 bits. -/
def minSeconds : Int := -(Nat.pow 2 63 : Int)

/-- The difference, kept within the signed range of 64 bits. -/
def secondsBetween (since now : Int) : Int :=
  max minSeconds (min maxSeconds (now - since))

/-- A length of time, kept within the signed range of 64 bits. -/
def clampSeconds (seconds : Nat) : Int :=
  min seconds maxSeconds

/-- More than so many seconds passed since the motion before. Where none is on record, 1970
stands for it. -/
def inactiveFor (seconds : Nat) (previous : Option Int) (now : Int) : Bool :=
  clampSeconds seconds < secondsBetween (previous.getD 0) now

/-- At least so many seconds passed since the last wake, or none is on record. -/
def holdOffElapsed (seconds : Nat) (lastWake : Option Int) (now : Int) : Bool :=
  match lastWake with
  | some last => clampSeconds seconds ≤ secondsBetween last now
  | none => true

end Reveille
