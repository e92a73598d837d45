import Mathlib.Data.List.Forall2
import Reveille.Daemon.Service

/-!
# Moments of a log

A log holds what is carried out on an engine, one event after the other. Each event finds the
engine as the ones before it left it, and that moment settles the answer to a line and the hosts
that a motion wakes.
-/

namespace Reveille

open Reveille.Calendar Reveille.Control Reveille.Json Reveille.Net Reveille.Text

/-- Something is left of the line without the blanks around it. -/
def asks (bytes : List UInt8) : Bool :=
  match ofUtf8? bytes with
  | some text => trim text.toList ≠ []
  | none => false

/-- What an event makes of an engine. Of the lines only requests count. -/
def Event.effect (process : Nat) (e : Engine) (now : Instant) : Event → Engine
  | .motion => (e.onMotion now).1
  | .line _ bytes =>
    match Line.ofBytes bytes with
    | .request r => (dispatch process now e r).1
    | _ => e
  | .ping host said => e.heardPing host now.epoch said

def Event.lineOn? (c : Nat) : Event → Option (List UInt8)
  | .line c' bytes => if c' = c then some bytes else none
  | _ => none

/-- The line is a request of this method. -/
def Control.Line.asksFor (method : String) : Line → Bool
  | .request r => r.method = method
  | _ => false

/-- A motion, noticed on the pipe or asked for over a connection. -/
def Event.isMotionFrom : Source → Event → Bool
  | .pipe, .motion => true
  | .connection c, .line c' bytes => c' = c && (Line.ofBytes bytes).asksFor "motion"
  | _, _ => false

/-- An event and the engine that it finds. -/
structure Moment where
  engine : Engine
  now : Instant
  event : Event

namespace Moment

def after (process : Nat) (m : Moment) : Engine :=
  m.event.effect process m.engine m.now

/-- The answer to a line of a connection, and what is left to do after it. -/
def answer? (process c : Nat) (m : Moment) : Option (Response × Outcome) :=
  (m.event.lineOn? c).bind fun bytes => ((Line.ofBytes bytes).serve process m.now m.engine).2

/-- What is left to do after the answer, or after the motion on the pipe. -/
def outcome? (process : Nat) (source : Source) (m : Moment) : Option Outcome :=
  match source with
  | .pipe => if m.event = .motion then some (.wake (m.engine.onMotion m.now).2) else none
  | .connection c => (m.answer? process c).map Prod.snd

/-- The hosts that a motion from the source wakes. -/
def woken? (source : Source) (m : Moment) : Option (List Host) :=
  if m.event.isMotionFrom source then some (m.engine.onMotion m.now).2 else none

end Moment

/-- The hosts that are left to be woken after an answer. -/
def Control.Outcome.hosts? : Outcome → Option (List Host)
  | .wake hosts => some hosts
  | _ => none

/-- The hosts that a response says were woken. -/
def Control.Response.woken? (reply : Response) : Option (List Value) :=
  match reply.result with
  | some (.object [("woken", .array values)]) => some values
  | _ => none

variable {process c : Nat} {e : Engine} {log : List (Instant × Event)} {now : Instant}
  {event : Event} {m : Moment}

/-! ### Moments of a log -/

theorem ofName?_eq_some_iff {name : String} {method : Method} :
    Method.ofName? name = some method ↔ name = method.name := by
  constructor
  · intro found
    have same := List.find?_some found
    simpa [eq_comm] using same
  · rintro rfl
    cases method <;> rfl

theorem ofName?_eq_none_iff {name : String} : Method.ofName? name = none ↔
    name ∉ ["enable", "disable", "status", "motion", "stop"] := by
  rw [Method.ofName?, List.find?_eq_none]
  simp [Method.all, Method.name, eq_comm]

/-! ### Answers -/

theorem mem_put (key : String) (value : Value) (members : List (String × Value)) :
    (key, value) ∈ Value.put key value members := by
  induction members with
  | nil => exact List.mem_singleton_self _
  | cons member members ih =>
    unfold Value.put
    split_ifs
    · exact List.mem_cons_self
    · exact List.mem_cons_self
    · exact List.mem_cons_of_mem _ ih

end Reveille
