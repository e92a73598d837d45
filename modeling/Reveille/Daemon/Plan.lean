import Reveille.Daemon.PidFile
import Reveille.RuleText.File
import Reveille.Settings.Location
import Reveille.Wake.Waker

/-!
# Plans

Before a daemon touches a file it makes its plan: that no other daemon runs, which rules it
checks, and how it wakes hosts.
-/

namespace Reveille.Daemon

open Reveille.Files Reveille.RuleText

/-- What the command line says instead of the settings. -/
structure Overrides where
  fifo : Option Pathname := none
  rules : Option Pathname := none
  noPing : Bool := false
deriving DecidableEq, Repr

/-- The paths that a daemon uses. -/
structure Sites where
  rules : Pathname
  fifo : Pathname
  socket : Pathname
  pid : Pathname
deriving DecidableEq, Repr

def Sites.of (home : Option String) (s : Settings) (o : Overrides) : Sites where
  rules := o.rules.getD (s.rulesPath home)
  fifo := o.fifo.getD (s.fifoPath home)
  socket := s.socketPath home
  pid := s.pidPath home

inductive Fault where
  | running (path : Pathname)
  | rules (path : Pathname) (cause : FileFault)
  | waker (cause : Waker.Fault)
  | fifoTaken (path : Pathname)
  | fifoNul (path : Pathname)
  | fifo (path : Pathname) (cause : FileError)
  | pid (path : Pathname) (cause : FileError)
  | socketTaken (path : Pathname)
  | stale (path : Pathname) (cause : FileError)
  | socket (path : Pathname) (cause : FileError)
deriving DecidableEq, Repr

def Fault.report : Fault → Report
  | .running path => .plain ("Daemon is already running (pid file " ++ path.text ++ ")")
  | .rules path cause => cause.report path
  | .waker cause => cause.report
  | .fifoTaken path => .plain (path.text ++ " exists and is not a named pipe")
  | .fifoNul path => .plain ("fifo path contains a NUL byte: " ++ path.text)
  | .fifo path cause => ⟨"Failed to create fifo " ++ path.text, [cause.message]⟩
  | .pid path cause => ⟨"Failed to write pid file " ++ path.text, [cause.message]⟩
  | .socketTaken path => .plain (path.text ++ " exists and is not a socket")
  | .stale path cause => ⟨"Failed to remove stale socket " ++ path.text, [cause.message]⟩
  | .socket path cause => ⟨"Failed to bind control socket " ++ path.text, [cause.message]⟩

structure Plan where
  sites : Sites
  registry : Registry
  waker : Waker
  /-- The seconds between two pings, if hosts are pinged. -/
  interval : Option Nat
deriving Repr, DecidableEq

namespace Plan

/-- Makes the plan of a daemon, given which processes live. -/
def make (home : Option String) (lives : Int → Bool) (fs : Files) (s : Settings)
    (o : Overrides) : Except Fault Plan := do
  let sites := Sites.of home s o
  if PidFile.isRunning lives fs sites.pid then throw (.running sites.pid)
  let rules ← (readRules fs sites.rules).mapError (.rules sites.rules)
  let waker ← (Waker.ofSettings s.wake).mapError .waker
  return ⟨sites, .addAll .empty rules, waker,
    if s.ping.enabled && !o.noPing then some s.ping.interval else none⟩

/-- The hosts to ping: those that have an address. -/
def monitored (p : Plan) : List Net.Host :=
  match p.interval with
  | some _ => p.registry.hosts.filter (·.address.isSome)
  | none => []

end Plan

end Reveille.Daemon
