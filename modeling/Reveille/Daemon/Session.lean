import Reveille.Control.Connection
import Reveille.Daemon.Ping

/-!
# Sessions

A session is a daemon at work: its engine, the connections that have ended, and what it has sent
out. It takes one event at a time.
-/

namespace Reveille

open Reveille.Calendar Reveille.Control Reveille.Net

/-- Something that a daemon takes notice of. -/
inductive Event where
  /-- A motion, noticed by itself. -/
  | motion
  | line (connection : Nat) (bytes : List UInt8)
  | ping (host : Host) (line : String)
deriving DecidableEq, Repr

structure Session where
  engine : Engine
  /-- The connections that have ended. -/
  ended : List Nat
  /-- Responses by their connections, in the order in which they were sent. -/
  responses : List (Nat × Response)
  /-- The hosts handed over to be woken, in the order of the motions. -/
  woken : List Host
  stopping : Bool
deriving Repr

namespace Session

def start (engine : Engine) : Session :=
  ⟨engine, [], [], [], false⟩

/-- Does what is left after a response. -/
def conclude (s : Session) : Outcome → Session
  | .reply => s
  | .wake hosts => { s with woken := s.woken ++ hosts }
  | .stop => { s with stopping := true }

/-- Takes a line on a connection that has not ended. -/
def takeLine (process : Nat) (now : Instant) (s : Session) (connection : Nat) (line : Line) :
    Session :=
  match line with
  | .noText => { s with ended := connection :: s.ended }
  | line =>
    match line.serve process now s.engine with
    | (engine, none) => { s with engine }
    | (engine, some (response, outcome)) =>
      conclude { s with engine, responses := s.responses ++ [(connection, response)] } outcome

def step (process : Nat) (s : Session) (now : Instant) : Event → Session
  | .motion =>
    let (engine, hosts) := s.engine.onMotion now
    { s with engine, woken := s.woken ++ hosts }
  | .line connection bytes =>
    if connection ∈ s.ended then s else s.takeLine process now connection (.ofBytes bytes)
  | .ping host line => { s with engine := s.engine.heardPing host now.epoch line }

/-- Takes events in order. -/
def run (process : Nat) (s : Session) (events : List (Instant × Event)) : Session :=
  events.foldl (fun s (now, e) => s.step process now e) s

def responsesOn (s : Session) (connection : Nat) : List Response :=
  (s.responses.filter (·.1 = connection)).map (·.2)

/-- The events of all that comes over a connection. -/
def eventsOf (connection : Nat) (now : Instant) (bytes : List UInt8) : List (Instant × Event) :=
  (linesOf bytes).map fun line => (now, .line connection line)

end Session

end Reveille
