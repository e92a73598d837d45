import Reveille.Condition.Context

/-!
# Rules

A rule wakes one host when its conditions hold and its hold-off has gone by. Its conditions are
bound to its host when the rule is made.
-/

namespace Reveille

open Reveille.Net

/-- Hands the host to every condition that needs one. -/
def When.bind (host : Host) (w : When Condition) : When BoundCondition :=
  w.map (BoundCondition.ofCondition host)

structure Rule where
  host : Host
  /-- Seconds to pass between two wakes of the host. -/
  holdOff : Nat
  conditions : When BoundCondition
  enabled : Bool
deriving Repr, DecidableEq

namespace Rule

def make (host : Host) (holdOff : Nat) (conditions : When Condition) : Rule :=
  ⟨host, holdOff, conditions.bind host, true⟩

def setEnabled (r : Rule) (enabled : Bool) : Rule :=
  { r with enabled }

/-- The hold-off has gone by and the conditions hold, whether or not the rule is enabled. -/
def holds (ctx : Context) (r : Rule) : Bool :=
  holdOffElapsed r.holdOff (ctx.wakes.get? r.host) ctx.epoch && r.conditions.holds ctx

end Rule

end Reveille
