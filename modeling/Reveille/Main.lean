import Reveille.Command.Observe
import Std.Time.DateTime.Timestamp

/-!
# The program

Reads the files that an invocation looks at, runs it on them, and writes the files that it has
changed. Named pipes and sockets cannot be made from here, so that no daemon gets to run.
-/

namespace Reveille.Main

open Reveille.Calendar Reveille.Command Reveille.Control Reveille.Files

/-- Adds a file to those known, if it can be read. -/
def observe (fs : Files) (p : Pathname) : IO Files := do
  try
    return fs.putAt p (.file (← IO.FS.readBinFile p.text).toList)
  catch _ => return fs

def processLives (n : Int) : IO Bool := do
  try
    let _ ← IO.FS.readFile s!"/proc/{n}/stat"
    return true
  catch _ => return false

/-- The present moment. Local time is UTC. -/
def now : IO Instant := do
  let t ← Std.Time.Timestamp.now
  let nanos := t.toNanosecondsSinceUnixEpoch.val
  return ⟨nanos / 1000000000, (nanos % 1000000000).toNat, 0⟩

/-- The surroundings of an invocation, with all files that it looks at. -/
def surroundings (i : Invocation) : IO Surroundings := do
  let home := (← IO.getEnv "HOME").filter (· ≠ "")
  let folder := (← IO.getEnv "PWD").getD "/"
  let names := (folder.splitOn "/").filter (· ≠ "")
  let empty : Files := (⟨names, []⟩ : Files).putAt ⟨folder⟩ .folder
  let w : Surroundings := {
    environment := ⟨home, ← IO.getEnv "MOTION_WOL_CONFIG"⟩
    files := empty
    lives := fun _ => false
    now := ← now
    terminal := ← (← IO.getStdout).isTty }
  let w := { w with files := ← observe empty (w.settingsPath i) }
  let w := { w with files := ← (w.lookedAt i).foldlM observe w.files }
  let process := w.processLookedAt i
  let alive ← process.elim (pure false) processLives
  return { w with lives := fun n => alive && some n = process }

/-- Writes the files that have changed. -/
def store (before after : Files) : IO Unit := do
  for (place, bytes) in after.filesSince before do
    IO.FS.createDirAll ("/" ++ "/".intercalate place.dropLast)
    IO.FS.writeBinFile ("/" ++ "/".intercalate place) ⟨bytes.toArray⟩

/-- Ends an invocation that does not end by itself. -/
def conclude (w : Surroundings) : Course → Finished
  | .finished f => f
  | .ask a => a.finish w.files (.error (.unreachable a.socket (w.files.connectFault a.socket)))
  | .daemon s o =>
    let (files, fault) :=
      Daemon.run w.environment.home w.lives (fun _ => some .unsupported) 1 w.files s o
    daemonEnded files fault

/-- Runs the program. -/
def run (words : List String) : IO UInt32 := do
  match Invocation.read words with
  | .error u =>
    let text := u.message ++ "\n\n" ++ usageText
    if u.exitCode = 0 then IO.print text else IO.eprint ("error: " ++ text)
    return UInt32.ofNat u.exitCode
  | .ok i =>
    let w ← surroundings i
    let f := conclude w (w.run i)
    try
      store w.files f.files
      IO.print f.output
      IO.eprint f.errors
      return UInt32.ofNat f.exit.code
    catch e =>
      IO.eprintln s!"Error: {e}"
      return 1

end Reveille.Main

def main (words : List String) : IO UInt32 :=
  Reveille.Main.run words
