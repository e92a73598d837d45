import Reveille.Daemon.Plan

/-!
# Holdings

A daemon takes hold of three places one after the other: the named pipe, the file for its
process number, and the control socket. When it ends, however far it came, it removes what it
holds and nothing else.
-/

namespace Reveille.Daemon

open Reveille.Files

/-- The calls to the system by which a daemon takes hold of its places. -/
inductive Call where
  | makePipe
  /-- Opens the file for the process number and empties it. -/
  | openPid
  | writePid
  | removeSocket
  | bindSocket
deriving DecidableEq, Repr

/-- The calls that the system refuses for a reason that lies not in the files. -/
abbrev Refusals := Call → Option FileError

/-- The system refuses nothing without a reason in the files. -/
def Refusals.none : Refusals := fun _ => Option.none

def Refusals.attempt {α : Type} (refusals : Refusals) (call : Call)
    (result : Except FileError α) : Except FileError α :=
  match refusals call with
  | some cause => .error cause
  | .none => result

structure Holdings where
  fifo : Bool := false
  pid : Bool := false
  socket : Bool := false
deriving DecidableEq, Repr

/-- Takes hold of the named pipe, which may be there. -/
def takeFifo (refusals : Refusals) (p : Pathname) (fs : Files) : Except Fault Files :=
  match fs.at? p with
  | some .pipe => .ok fs
  | some _ => .error (.fifoTaken p)
  | none =>
    if '\x00' ∈ p.chars then .error (.fifoNul p)
    else (refusals.attempt .makePipe (fs.makePipe p)).mapError (.fifo p)

/-- Takes hold of the file for the process number. Once it is open, what it held is gone. -/
def takePid (refusals : Refusals) (process : Nat) (p : Pathname) (fs : Files) :
    Files × Except Fault Unit :=
  match refusals.attempt .openPid (fs.write p []) with
  | .error cause => (fs, .error (.pid p cause))
  | .ok fs =>
    match refusals.attempt .writePid (PidFile.write fs p process) with
    | .error cause => (fs, .error (.pid p cause))
    | .ok fs => (fs, .ok ())

/-- Removes the socket that a daemon has left behind. -/
def clearSocket (refusals : Refusals) (p : Pathname) (fs : Files) : Except Fault Files :=
  match fs.at? p with
  | none => .ok fs
  | some .socket => (refusals.attempt .removeSocket (fs.remove p)).mapError (.stale p)
  | some _ => .error (.socketTaken p)

/-- Takes hold of the control socket. -/
def takeSocket (refusals : Refusals) (p : Pathname) (fs : Files) : Except Fault Files :=
  (refusals.attempt .bindSocket (fs.bind p)).mapError (.socket p)

/-- How far a daemon came. -/
structure Standing where
  files : Files
  holdings : Holdings
  fault : Option Fault
deriving Repr, DecidableEq

/-- Takes hold of all places, up to the first that it fails at. -/
def acquire (refusals : Refusals) (process : Nat) (sites : Sites) (fs : Files) : Standing :=
  match takeFifo refusals sites.fifo fs with
  | .error fault => ⟨fs, {}, some fault⟩
  | .ok fs =>
    match takePid refusals process sites.pid fs with
    | (fs, .error fault) => ⟨fs, { fifo := true }, some fault⟩
    | (fs, .ok ()) =>
      match clearSocket refusals sites.socket fs with
      | .error fault => ⟨fs, { fifo := true, pid := true }, some fault⟩
      | .ok fs =>
        match takeSocket refusals sites.socket fs with
        | .error fault => ⟨fs, { fifo := true, pid := true }, some fault⟩
        | .ok fs => ⟨fs, { fifo := true, pid := true, socket := true }, none⟩

/-- Removes what a path leads to, if it can be removed. -/
def discard (p : Pathname) (fs : Files) : Files :=
  match fs.remove p with
  | .ok fs => fs
  | .error _ => fs

/-- Removes what a daemon holds. -/
def Holdings.release (h : Holdings) (sites : Sites) (fs : Files) : Files :=
  let fs := if h.fifo then discard sites.fifo fs else fs
  let fs := if h.socket then discard sites.socket fs else fs
  if h.pid then discard sites.pid fs else fs

/-- A daemon that has started, or the files and the fault it ended with. -/
inductive Launch where
  | ended (files : Files) (fault : Fault)
  | running (files : Files) (plan : Plan)

def Plan.launch (refusals : Refusals) (process : Nat) (fs : Files) (plan : Plan) : Launch :=
  match acquire refusals process plan.sites fs with
  | ⟨fs, holdings, some fault⟩ => .ended (holdings.release plan.sites fs) fault
  | ⟨fs, _, none⟩ => .running fs plan

def launch (home : Option String) (lives : Int → Bool) (refusals : Refusals) (process : Nat)
    (fs : Files) (s : Settings) (o : Overrides) : Launch :=
  match Plan.make home lives fs s o with
  | .error fault => .ended fs fault
  | .ok plan => plan.launch refusals process fs

/-- The files after a daemon that was running has ended, whatever ended it. -/
def Plan.close (plan : Plan) (fs : Files) : Files :=
  ({ fifo := true, pid := true, socket := true } : Holdings).release plan.sites fs

/-- The files after a daemon has been started and has ended, at whichever point, and the fault
if it did not get to run. -/
def run (home : Option String) (lives : Int → Bool) (refusals : Refusals) (process : Nat)
    (fs : Files) (s : Settings) (o : Overrides) : Files × Option Fault :=
  match launch home lives refusals process fs s o with
  | .ended fs fault => (fs, some fault)
  | .running fs plan => (plan.close fs, none)

end Reveille.Daemon
