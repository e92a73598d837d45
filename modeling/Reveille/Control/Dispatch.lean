import Reveille.Control.Message
import Reveille.Engine.Status

/-!
# Control requests

What each method does to an engine, what it is answered with, and what is left to do after the
answer.
-/

namespace Reveille.Control

open Reveille.Calendar Reveille.Json Reveille.Net

inductive Method where
  | enable
  | disable
  | status
  | motion
  | stop
deriving DecidableEq, Repr

namespace Method

def all : List Method := [enable, disable, status, motion, stop]

def name : Method → String
  | enable => "enable"
  | disable => "disable"
  | status => "status"
  | motion => "motion"
  | stop => "stop"

def ofName? (name : String) : Option Method :=
  all.find? (·.name = name)

/-- The names of all methods. -/
def names : String :=
  ", ".intercalate (all.map name)

end Method

inductive Answer where
  /-- The number of rules that are enabled now. -/
  | enabled (count : Nat)
  | status (status : Status) (process : Nat)
  | woken (hosts : List Host)
  | stopping
  | unknownMethod (name : String)
deriving DecidableEq, Repr

/-- What is left to do after the answer. -/
inductive Outcome where
  | reply
  | wake (hosts : List Host)
  | stop
deriving DecidableEq, Repr

/-- The code of the answer to a line that is no request. -/
def parseErrorCode : Int := -32700

def unknownMethodCode : Int := -32601

def Answer.response (id : Option Value) : Answer → Response
  | .enabled n => .ofResult id (.object [("enabled", .int n)])
  | .status s process => .ofResult id (.ofMembers (s.members ++ [("pid", .int process)]))
  | .woken hosts => .ofResult id
      (.object [("woken", .array (hosts.map fun h => .string h.mac.text))])
  | .stopping => .ofResult id (.object [("stopping", .bool true)])
  | .unknownMethod name => .ofError id unknownMethodCode
      ("unknown method '" ++ name ++ "', expected one of " ++ Method.names)

/-- The response to a line that is no request. -/
def malformedResponse (f : Fault) : Response :=
  .ofError none parseErrorCode ("invalid request: " ++ f.message)

/-- Carries out a method: the engine after it, the answer, and what is left to do. -/
def Method.apply (process : Nat) (now : Instant) (e : Engine) : Method → Engine × Answer × Outcome
  | .enable => (e.enableAll, .enabled e.enableAll.registry.enabledCount, .reply)
  | .disable => (e.disableAll, .enabled e.disableAll.registry.enabledCount, .reply)
  | .status => (e, .status e.status process, .reply)
  | .motion =>
    let (e, hosts) := e.onMotion now
    (e, .woken hosts, .wake hosts)
  | .stop => (e, .stopping, .stop)

/-- Carries out a request. -/
def dispatch (process : Nat) (now : Instant) (e : Engine) (r : Request) :
    Engine × Response × Outcome :=
  match Method.ofName? r.method with
  | some m =>
    let (e, answer, outcome) := m.apply process now e
    (e, answer.response r.id, outcome)
  | none => (e, (Answer.unknownMethod r.method).response r.id, .reply)

end Reveille.Control
