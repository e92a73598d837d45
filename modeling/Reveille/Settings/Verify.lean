import Reveille.RuleText.File
import Reveille.Settings.Edit
import Reveille.Settings.Location
import Reveille.Settings.LogFilter
import Reveille.Settings.Store

/-!
# Verification of settings

What is found wrong with settings before a daemon is started with them, the rules file that they
lead to included.
-/

namespace Reveille

open Reveille.Files Reveille.Net Reveille.RuleText Reveille.Text

namespace Settings

/-- Something wrong with settings. -/
inductive Finding where
  | interval
  | command
  | broadcast (text : String)
  | logLevel (text : String) (cause : LogFilter.Fault)
  /-- The named pipe and the control socket have the same path. -/
  | clash
  | rules (path : Pathname) (cause : FileFault)
deriving DecidableEq, Repr

def Finding.message : Finding → String
  | .interval => "ping.interval_secs: must be at least 1"
  | .command => "wake.command: must not be empty"
  | .broadcast text =>
    "wake.broadcast: invalid address '" ++ text ++ "': " ++ Endpoint.invalidMessage
  | .logLevel text cause => "log.level: invalid filter '" ++ text ++ "': " ++ cause.message
  | .clash => "fifo and socket must be different paths"
  | .rules path (.malformed cause) => "rules: " ++ path.text ++ ": " ++ cause.message
  | .rules path (.unreadable cause) =>
    "rules: cannot read " ++ path.text ++ ": " ++ cause.message

def findingIf (wrong : Prop) [Decidable wrong] (f : Finding) : List Finding :=
  if wrong then [f] else []

/-- What is wrong with the level of the log. -/
def levelFindings (s : Settings) : List Finding :=
  match LogFilter.check s.log.level with
  | .ok () => []
  | .error cause => [.logLevel s.log.level cause]

/-- What is wrong with the rules file. -/
def rulesFindings (home : Option String) (fs : Files) (s : Settings) : List Finding :=
  match readRules fs (s.rulesPath home) with
  | .ok _ => []
  | .error cause => [.rules (s.rulesPath home) cause]

/-- All that is wrong with settings. -/
def findings (home : Option String) (fs : Files) (s : Settings) : List Finding :=
  findingIf (s.ping.interval = 0) .interval
    ++ findingIf (trim s.wake.command.toList = []) .command
    ++ findingIf (Endpoint.ofText? s.wake.broadcast.toList = none) (.broadcast s.wake.broadcast)
    ++ s.levelFindings
    ++ findingIf ((s.fifoPath home).same (s.socketPath home)) .clash
    ++ s.rulesFindings home fs

inductive VerifyFault where
  | absent
  | load (cause : LoadFault)
deriving DecidableEq, Repr

def VerifyFault.report (p : Pathname) : VerifyFault → Report
  | .absent => .plain ("config file not found: " ++ p.text)
  | .load (.unreadable cause) => ⟨"failed to read config file: " ++ p.text, [cause.message]⟩
  | .load (.malformed cause) => .plain ("invalid JSON: " ++ cause.message)

def verify (home : Option String) (fs : Files) (p : Pathname) : Except VerifyFault (List Finding) :=
  if fs.has p then
    match readFile fs p with
    | .ok s => .ok (s.findings home fs)
    | .error cause => .error (.load cause)
  else .error .absent

end Settings

end Reveille
