import Reveille.History.Motion
import Reveille.Rule.Registry

/-!
# The engine

An engine is a registry and what its rules are checked against: the last two motions and the
last wake of each host. The last answers to pings are kept for the status only.
-/

namespace Reveille

open Reveille.Calendar Reveille.Net

structure Engine where
  registry : Registry
  motion : Motion
  wakes : HostLog
  pings : HostLog
deriving Repr, DecidableEq

namespace Engine

/-- An engine that has seen nothing yet. -/
def new (registry : Registry) : Engine :=
  ⟨registry, .none, .empty, .empty⟩

/-- The hosts that a motion would wake, if the motion before it was at `previousMotion`. -/
def dryRun (e : Engine) (now : Instant) (previousMotion : Option Int) : List Host :=
  e.registry.wakes (.ofInstant now previousMotion e.wakes)

/-- A motion. All rules are checked against the same context, and the hosts to wake are put on
record before they are handed over. -/
def onMotion (e : Engine) (now : Instant) : Engine × List Host :=
  let motion := e.motion.record now.epoch
  let hosts := e.dryRun now motion.previous
  ({ e with motion, wakes := e.wakes.recordAll hosts now.epoch }, hosts)

def recordPing (e : Engine) (host : Host) (epoch : Int) : Engine :=
  { e with pings := e.pings.record host epoch }

def enableAll (e : Engine) : Engine :=
  { e with registry := e.registry.enableAll }

def disableAll (e : Engine) : Engine :=
  { e with registry := e.registry.disableAll }

end Engine

end Reveille
