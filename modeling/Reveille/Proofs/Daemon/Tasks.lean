import Reveille.Proofs.Daemon.Moments

/-!
# Turns of a task

What a turn of a task comes to is said once: the line that is carried out in it, what is done in
it after a response, and how the task goes on. From there follows what every turn keeps, and what
every run keeps.
-/

namespace Reveille

open Reveille.Calendar Reveille.Control Reveille.Net Reveille.Text

namespace Stage

/-- The response that is on its way or was refused. -/
def response? : Stage → Option Response
  | .replying response _ => some response
  | .refused response _ => some response
  | _ => none

/-- What was not done yet after a response, or never will be. -/
def outcomes : Stage → List Outcome
  | .replying _ outcome => [outcome]
  | .settling outcome => [outcome]
  | .refused _ outcome => [outcome]
  | _ => []

def isOver : Stage → Bool
  | .ended => true
  | .refused .. => true
  | _ => false

end Stage

namespace Task

/-- The lines that were not carried out, up to the first that is no text. -/
def left (t : Task) : List (List UInt8) :=
  match t.stage with
  | .holding bytes => bytes :: t.unread.takeWhile isText
  | _ => t.unread.takeWhile isText

/-- The responses up to now, one that was not sent among them. -/
def replies (t : Task) : List Response :=
  t.sent ++ t.stage.response?.toList

/-- How a task goes on, the line that is carried out, and what is done after a response. Where the
task is cut off, nothing is read or written any more. -/
inductive Moves (answer? : List UInt8 → Option (Response × Outcome)) (cut : Bool) :
    Task → Option (List UInt8) → List Outcome → Task → Prop where
  | finished {t : Task} (finished : t.stage.isOver = true) : Moves answer? cut t none [] t
  | stray {unread : List (List UInt8)} {sent : List Response} (off : cut = true) :
      Moves answer? cut ⟨unread, .reading, sent⟩ none [] ⟨unread, .ended, sent⟩
  | last {sent : List Response} :
      Moves answer? cut ⟨[], .reading, sent⟩ none [] ⟨[], .ended, sent⟩
  | noText {bytes : List UInt8} {unread : List (List UInt8)} {sent : List Response}
      (noText : isText bytes = false) :
      Moves answer? cut ⟨bytes :: unread, .reading, sent⟩ none [] ⟨bytes :: unread, .ended, sent⟩
  | line {bytes : List UInt8} {unread : List (List UInt8)} {sent : List Response}
      (text : isText bytes = true) :
      Moves answer? cut ⟨bytes :: unread, .reading, sent⟩ none [] ⟨unread, .holding bytes, sent⟩
  | pass {bytes : List UInt8} {unread : List (List UInt8)} {sent : List Response}
      (blank : answer? bytes = none) :
      Moves answer? cut ⟨unread, .holding bytes, sent⟩ (some bytes) [] ⟨unread, .reading, sent⟩
  | answer {bytes : List UInt8} {unread : List (List UInt8)} {sent : List Response}
      {response : Response} {outcome : Outcome}
      (served : answer? bytes = some (response, outcome)) :
      Moves answer? cut ⟨unread, .holding bytes, sent⟩ (some bytes) []
        ⟨unread, .replying response outcome, sent⟩
  | refuse {unread : List (List UInt8)} {sent : List Response} {response : Response}
      {outcome : Outcome} (off : cut = true) :
      Moves answer? cut ⟨unread, .replying response outcome, sent⟩ none []
        ⟨unread, .refused response outcome, sent⟩
  | send {unread : List (List UInt8)} {sent : List Response} {response : Response}
      {outcome : Outcome} :
      Moves answer? cut ⟨unread, .replying response outcome, sent⟩ none []
        ⟨unread, .settling outcome, sent ++ [response]⟩
  | settle {unread : List (List UInt8)} {sent : List Response} {outcome : Outcome} :
      Moves answer? cut ⟨unread, .settling outcome, sent⟩ none [outcome] ⟨unread, .reading, sent⟩

namespace Moves

variable {answer? : List UInt8 → Option (Response × Outcome)} {cut : Bool} {t t' : Task}
  {carried : Option (List UInt8)} {done : List Outcome}

theorem lines (moves : Moves answer? cut t carried done t') :
    carried.toList ++ t'.left = t.left := by
  cases moves with
  | line text => simp [left, text]
  | _ => rfl

theorem replies (moves : Moves answer? cut t carried done t') :
    t'.replies = t.replies ++ (carried.bind answer?).toList.map Prod.fst := by
  cases moves with
  | pass blank => simp [Task.replies, Stage.response?, blank]
  | answer served => simp [Task.replies, Stage.response?, served]
  | _ => simp [Task.replies, Stage.response?]

theorem outcomes (moves : Moves answer? cut t carried done t') :
    done ++ t'.stage.outcomes =
      t.stage.outcomes ++ (carried.bind answer?).toList.map Prod.snd := by
  cases moves with
  | pass blank => simp [Stage.outcomes, blank]
  | answer served => simp [Stage.outcomes, served]
  | _ => simp [Stage.outcomes]

end Moves

end Task

namespace Service

variable {process c : Nat} {s : Service} {t : Task} {turn : Turn} {turns : List Turn}

/-- The answer to a line, and what is left to do after it. -/
def answer? (process : Nat) (s : Service) (now : Instant) (bytes : List UInt8) :
    Option (Response × Outcome) :=
  ((Line.ofBytes bytes).serve process now s.engine).2

end Service

end Reveille
