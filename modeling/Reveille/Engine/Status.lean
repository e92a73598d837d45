import Reveille.Engine.Basic
import Reveille.Json.Value

/-!
# The status of an engine

A snapshot for people and programs to look at, and the JSON that shows it.
-/

namespace Reveille

open Reveille.Calendar Reveille.Json Reveille.Net

/-- A host of the rules. Times are in epoch seconds. -/
structure HostStatus where
  host : Host
  lastWake : Option Int
  lastPing : Option Int
deriving DecidableEq, Repr

structure Status where
  rules : Nat
  enabled : Nat
  lastMotion : Option Int
  previousMotion : Option Int
  hosts : List HostStatus
deriving DecidableEq, Repr

def Engine.status (e : Engine) : Status where
  rules := e.registry.size
  enabled := e.registry.enabledCount
  lastMotion := e.motion.last
  previousMotion := e.motion.previous
  hosts := e.registry.hosts.map fun h => ⟨h, e.wakes.get? h, e.pings.get? h⟩

/-- A time as text, null where there is none or it has no date. -/
def timeValue (epoch : Option Int) : Value :=
  .ofOption ((epoch.bind Instant.utcText?).map .string)

def HostStatus.toJson (s : HostStatus) : Value :=
  let address := match s.host.address with
    | some a => [("address", .string a.text)]
    | none => []
  .ofMembers (address ++ [("mac", .string s.host.mac.text),
    ("last_wake", timeValue s.lastWake), ("last_ping", timeValue s.lastPing)])

def Status.members (s : Status) : List (String × Value) :=
  [("rules", .int s.rules), ("enabled", .int s.enabled),
    ("last_motion", timeValue s.lastMotion), ("previous_motion", timeValue s.previousMotion),
    ("hosts", .array (s.hosts.map HostStatus.toJson))]

def Status.toJson (s : Status) : Value :=
  .ofMembers s.members

end Reveille
