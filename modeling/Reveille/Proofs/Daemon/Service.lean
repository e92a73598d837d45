import Reveille.Proofs.Daemon.Tasks

/-!
# What turns of a service add up to

What a turn adds to the log, to the replies and to what is done after them is said once. A run
adds up its turns.
-/

namespace Reveille

open Reveille.Calendar Reveille.Control Reveille.Net Reveille.Text

def Watch.outcomes : Watch → List Outcome
  | .settling hosts => [.wake hosts]
  | _ => []

namespace Service

/-- What was done after the motions and the responses of a source. -/
def settledBy (s : Service) (source : Source) : List Outcome :=
  (s.settled.filter (·.1 = source)).map (·.2)

/-- What was not done after them yet, or never will be. -/
def pending (s : Service) : Source → List Outcome
  | .pipe => s.watch.outcomes
  | .connection c => (s.tasks c).stage.outcomes

def outcomes (s : Service) (source : Source) : List Outcome :=
  s.settledBy source ++ s.pending source

variable {process c : Nat} {s s' s'' : Service} {ms ms' : List Moment} {turns : List Turn}

/-! ### Turns -/

/-- What happens between two states: these moments, and all that comes of them. -/
structure Advance (process : Nat) (s s' : Service) (ms : List Moment) : Prop where
  engine : s'.engine = ms.foldl (fun _ m => m.after process) s.engine
  lines : ∀ c, ms.filterMap (·.event.lineOn? c) ++ (s'.tasks c).left = (s.tasks c).left
  replies : ∀ c, (s'.tasks c).replies =
    (s.tasks c).replies ++ (ms.filterMap (·.answer? process c)).map Prod.fst
  outcomes : ∀ source,
    s'.outcomes source = s.outcomes source ++ ms.filterMap (·.outcome? process source)

theorem Advance.refl (process : Nat) (s : Service) : Advance process s s [] :=
  ⟨rfl, fun _ => rfl, fun _ => by simp, fun _ => by simp⟩

theorem Advance.trans (first : Advance process s s' ms) (second : Advance process s' s'' ms') :
    Advance process s s'' (ms ++ ms') where
  engine := by rw [second.engine, first.engine, List.foldl_append]
  lines c := by
    rw [List.filterMap_append, List.append_assoc, second.lines, first.lines]
  replies c := by
    rw [List.filterMap_append, List.map_append, second.replies, first.replies, List.append_assoc]
  outcomes source := by
    rw [List.filterMap_append, second.outcomes, first.outcomes, List.append_assoc]

end Service

end Reveille
