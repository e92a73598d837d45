import Reveille.Daemon.Session

/-!
# The service

A daemon at work, task by task. Each connection has a task of its own, and another one watches
the pipe. A task can be held up between any two of its turns while others take theirs. All that
they share is the engine: who takes hold of it keeps it for one request, one motion or one answer
to a ping. Responses are written and hosts are handed over after it was let go. A connection may
break whenever its task has a turn, and the daemon shuts down if it is made to or was asked to.
-/

namespace Reveille

open Reveille.Calendar Reveille.Control Reveille.Net Reveille.Text

/-- What the task of a connection does in its next turn. -/
inductive Stage where
  /-- It reads a line, or finds that there is none. -/
  | reading
  /-- It carries out the line. If that is a request, it takes hold of the engine for it. -/
  | holding (bytes : List UInt8)
  /-- It writes the response. -/
  | replying (response : Response) (outcome : Outcome)
  /-- It does what is left to do after the response. -/
  | settling (outcome : Outcome)
  /-- There was no other line, or the line was no text. -/
  | ended
  /-- The response was not taken, and the task ended without what was left to do after it. -/
  | refused (response : Response) (outcome : Outcome)

structure Task where
  /-- The lines that were not read, from one that is no text on if there is one. -/
  unread : List (List UInt8)
  stage : Stage
  /-- The responses that were written. -/
  sent : List Response

/-- What the task that watches the pipe does in its next turn. -/
inductive Watch where
  | idle
  /-- It has looked at the clock and takes hold of the engine. -/
  | noticed (now : Instant)
  /-- It hands over the hosts to be woken. -/
  | settling (hosts : List Host)

/-- Whose motions and responses leave something to do. -/
inductive Source where
  | pipe
  | connection (c : Nat)
deriving DecidableEq

structure Service where
  engine : Engine
  tasks : Nat → Task
  watch : Watch
  /-- What was done after responses and motions, in order. -/
  settled : List (Source × Outcome)
  /-- It has shut down: nobody waits for lines, motions and answers to pings any more. -/
  closed : Bool

/-- Who takes a turn, and what the clock shows. -/
inductive Turn where
  | watch (now : Instant)
  /-- The connection may be broken, and then nothing more is read from it or written to it. -/
  | task (c : Nat) (now : Instant) (broken : Bool)
  /-- A monitor hears a line from its ping. -/
  | ping (host : Host) (line : String) (now : Instant)
  /-- The daemon looks whether it is to shut down. Signals make it, and so does a pipe or a socket
  that fails. -/
  | close (forced : Bool)

namespace Service

/-- A service before any turn, with all that will ever come over its connections. -/
def start (engine : Engine) (inputs : Nat → List UInt8) : Service where
  engine := engine
  tasks c := ⟨linesOf (inputs c), .reading, []⟩
  watch := .idle
  settled := []
  closed := false

def setTask (s : Service) (c : Nat) (t : Task) : Service :=
  { s with tasks := fun i => if i = c then t else s.tasks i }

/-- Does what is left to do after a response or a motion: hands over hosts to be woken, asks the
daemon to stop, or nothing. -/
def settle (s : Service) (source : Source) (outcome : Outcome) : Service :=
  { s with settled := s.settled ++ [(source, outcome)] }

def watchTurn (s : Service) (now : Instant) : Service :=
  match s.watch with
  | .idle => if s.closed then s else { s with watch := .noticed now }
  | .noticed noticed =>
    let (engine, hosts) := s.engine.onMotion noticed
    { s with engine, watch := .settling hosts }
  | .settling hosts => { s.settle .pipe (.wake hosts) with watch := .idle }

def taskTurn (process : Nat) (s : Service) (c : Nat) (now : Instant) (broken : Bool) : Service :=
  let t := s.tasks c
  match t.stage with
  | .reading =>
    if broken || s.closed then s.setTask c { t with stage := .ended }
    else
      match t.unread with
      | [] => s.setTask c { t with stage := .ended }
      | bytes :: unread =>
        if isText bytes then s.setTask c { t with unread, stage := .holding bytes }
        else s.setTask c { t with stage := .ended }
  | .holding bytes =>
    match (Line.ofBytes bytes).serve process now s.engine with
    | (engine, none) => { s with engine }.setTask c { t with stage := .reading }
    | (engine, some (response, outcome)) =>
      { s with engine }.setTask c { t with stage := .replying response outcome }
  | .replying response outcome =>
    if broken || s.closed then s.setTask c { t with stage := .refused response outcome }
    else s.setTask c { t with stage := .settling outcome, sent := t.sent ++ [response] }
  | .settling outcome => (s.settle (.connection c) outcome).setTask c { t with stage := .reading }
  | .ended | .refused .. => s

/-- Someone asked the daemon to stop, and was answered. -/
def askedToStop (s : Service) : Bool :=
  s.settled.any fun done => done.2 = .stop

def step (process : Nat) (s : Service) : Turn → Service
  | .watch now => s.watchTurn now
  | .task c now broken => s.taskTurn process c now broken
  | .ping host line now =>
    if s.closed then s else { s with engine := s.engine.heardPing host now.epoch line }
  | .close forced => { s with closed := s.closed || forced || s.askedToStop }

def run (process : Nat) : Service → List Turn → Service
  | s, [] => s
  | s, turn :: turns => run process (s.step process turn) turns

/-- What is carried out in a turn, if anything is. -/
def event? (s : Service) : Turn → Option (Instant × Event)
  | .watch _ =>
    match s.watch with
    | .noticed noticed => some (noticed, .motion)
    | _ => none
  | .task c now _ =>
    match (s.tasks c).stage with
    | .holding bytes => some (now, .line c bytes)
    | _ => none
  | .ping host line now => if s.closed then none else some (now, .ping host line)
  | .close _ => none

/-- What was carried out in a run, in this order. -/
def log (process : Nat) : Service → List Turn → List (Instant × Event)
  | _, [] => []
  | s, turn :: turns => (s.event? turn).toList ++ log process (s.step process turn) turns

end Service

end Reveille
