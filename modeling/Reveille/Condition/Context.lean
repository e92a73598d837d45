import Reveille.Calendar.Instant
import Reveille.Condition.Basic
import Reveille.Condition.Elapsed
import Reveille.Condition.Tree
import Reveille.History.HostLog

/-!
# Checking conditions

A context is all that a condition may look at. Every condition of an event is checked against
the same context.
-/

namespace Reveille

open Reveille.Calendar Reveille.Net

structure Context where
  /-- What the clock on the wall shows. -/
  clock : LocalTime
  /-- The same instant in epoch seconds. -/
  epoch : Int
  previousMotion : Option Int
  wakes : HostLog
deriving Repr

namespace Context

def ofInstant (now : Instant) (previousMotion : Option Int) (wakes : HostLog) : Context :=
  ⟨now.toLocal, now.epoch, previousMotion, wakes⟩

end Context

/-- Whether a condition holds. A condition that lacks the host it needs does not. -/
def BoundCondition.check (ctx : Context) (b : BoundCondition) : Bool :=
  match b.condition with
  | .dayOfWeek days => days.contains ctx.clock.weekday
  | .timeBetween start stop => start.before ctx.clock.time && ctx.clock.time.before stop
  | .inactiveFor n => inactiveFor n ctx.previousMotion ctx.epoch
  | .holdOff n =>
    match b.host with
    | some host => holdOffElapsed n (ctx.wakes.get? host) ctx.epoch
    | none => false

def Node.holds (ctx : Context) (n : Node BoundCondition) : Bool :=
  n.eval (BoundCondition.check ctx)

def When.holds (ctx : Context) (w : When BoundCondition) : Bool :=
  w.eval (BoundCondition.check ctx)

end Reveille
