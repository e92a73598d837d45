import Reveille.Command.Invocation
import Reveille.Command.Output
import Reveille.Control.Client
import Reveille.Daemon.Holdings
import Reveille.Settings.Verify

/-!
# Running an invocation

What an invocation does to the files, what it prints, and how it ends. Two kinds do not end by
themselves: one asks the running daemon, and one becomes the daemon.
-/

namespace Reveille.Command

open Reveille.Calendar Reveille.Control Reveille.Files Reveille.Json Reveille.RuleText

/-- Where an invocation runs. -/
structure Surroundings where
  environment : Environment
  files : Files
  /-- Which process numbers are those of processes that live. -/
  lives : Int → Bool
  now : Instant
  terminal : Bool

structure Finished where
  files : Files
  output : String
  errors : String
  exit : Exit
deriving DecidableEq, Repr

/-- A request to the running daemon. -/
structure Asking where
  mode : Mode
  method : Method
  socket : Pathname
deriving DecidableEq, Repr

/-- The course that an invocation takes. -/
inductive Course where
  | finished (f : Finished)
  | ask (a : Asking)
  | daemon (settings : Settings) (overrides : Daemon.Overrides)

namespace Finished

/-- The invocation succeeds and prints. -/
def success (files : Files) (output : String) : Finished :=
  ⟨files, output, "", .success⟩

/-- The invocation fails and says why: in JSON where results would be, and else apart from
them. -/
def fail (files : Files) (mode : Mode) (exit : Exit) (message : String)
    (details : Option Details := none) : Finished :=
  match mode with
  | .json => ⟨files, errorText exit.code message details ++ "\n", "", exit⟩
  | _ => ⟨files, "", "Error: " ++ message ++ "\n", exit⟩

/-- The invocation ends with a report. -/
def report (files : Files) (r : Report) : Finished :=
  ⟨files, "", r.text, .failure⟩

/-- The invocation succeeds and prints its result in the form asked for. -/
def result (files : Files) (mode : Mode) (json : Value) (text : String) : Finished :=
  success files <| match mode with
    | .json => resultText json ++ "\n"
    | .text => text
    | .quiet => ""

end Finished

namespace Surroundings

def settingsPath (w : Surroundings) (i : Invocation) : Pathname :=
  w.environment.settingsPath i.settingsFile

/-- Loads the settings of an invocation, without which it fails. -/
def withSettings (w : Surroundings) (i : Invocation) (mode : Mode) (go : Settings → Course) :
    Course :=
  match Settings.load w.files (w.settingsPath i) with
  | .ok s => go s
  | .error f => .finished (.fail w.files mode .settings (f.report (w.settingsPath i)).line)

/-- The rules file asked for, or else that of the settings. -/
def rulesPath (w : Surroundings) (s : Settings) (asked : Option String) : Pathname :=
  (asked.map Pathname.mk).getD (s.rulesPath w.environment.home)

/-- Reads a rules file, without which an invocation fails. -/
def withRules (w : Surroundings) (p : Pathname) (mode : Mode) (go : List Rule → Finished) :
    Finished :=
  match readRules w.files p with
  | .ok rules => go rules
  | .error (.unreadable cause) =>
    .fail w.files mode .failure ("Failed to read rules file " ++ p.text ++ ": " ++ cause.message)
  | .error (.malformed cause) =>
    .fail w.files mode .rules (p.text ++ ": " ++ cause.message) (some (.ofParseError cause))

/-- Shows the rules of a file. -/
def check (w : Surroundings) (mode : Mode) (p : Pathname) : Finished :=
  w.withRules p mode fun rules =>
    let i : Inspection := ⟨p.text, rules.map .ofRule⟩
    .result w.files mode i.toJson i.text

/-- Shows what a motion would do, now or at another time. -/
def eval (w : Surroundings) (mode : Mode) (p : Pathname) (moment : Option String)
    (idle : Option Nat) : Finished :=
  let now :=
    match moment with
    | some text => (Timestamp.read text.toList).mapError (text, ·)
    | none => .ok w.now
  match now with
  | .error (text, e) =>
    .fail w.files mode .arguments ("invalid --at time '" ++ text ++ "': " ++ e.message)
  | .ok now => w.withRules p mode fun rules =>
    let f := Forecast.make rules now idle
    .result w.files mode f.toJson f.text

def hasDaemon (w : Surroundings) (s : Settings) : Bool :=
  PidFile.isRunning w.lives w.files (s.pidPath w.environment.home)

/-- Asks the running daemon. Only its status can be told when there is none. -/
def control (w : Surroundings) (mode : Mode) (s : Settings) (method : Method) : Course :=
  if w.hasDaemon s then .ask ⟨mode, method, s.socketPath w.environment.home⟩
  else if method = .status then
    .finished (.result w.files mode (.object [("running", .bool false)]) "Daemon is not running\n")
  else
    .finished (.fail w.files mode .notRunning
      "Daemon is not running. Start with: motion-wol daemon")

/-- Saves settings and says so. -/
def saveSettings (w : Surroundings) (mode : Mode) (p : Pathname) (s : Settings) (text : String) :
    Finished :=
  match s.save w.files p with
  | (files, .ok ()) => .success files (if mode = .quiet then "" else text)
  | (files, .error f) => .report files (f.report p)

/-- Verifies the settings file. What is found is shown even if nothing else is. -/
def verify (w : Surroundings) (mode : Mode) (p : Pathname) : Finished :=
  match Settings.verify w.environment.home w.files p with
  | .error f => .fail w.files mode .settings (f.report p).line
  | .ok [] =>
    .result w.files mode (.object [("path", .string p.text), ("valid", .bool true)])
      ("✓ Configuration is valid: " ++ p.text ++ "\n")
  | .ok findings =>
    let messages := findings.map Settings.Finding.message
    let text := match mode with
      | .json => resultText (.object [("errors", .array (messages.map .string)),
          ("path", .string p.text), ("valid", .bool false)]) ++ "\n"
      | _ => s!"✗ Configuration has {messages.length} error(s): " ++ p.text ++ "\n\n"
          ++ String.join (messages.map fun m => "  - " ++ m ++ "\n")
    ⟨w.files, text, "", .settings⟩

/-- Shows or changes settings. -/
def settings (w : Surroundings) (i : Invocation) (mode : Mode) : SettingsAction → Course
  | .show => w.withSettings i mode fun s => .finished (.success w.files (s.print ++ "\n"))
  | .path => .finished (.success w.files ((w.settingsPath i).text ++ "\n"))
  | .set key value => w.withSettings i mode fun s =>
    .finished <| match s.set key value with
      | .ok s => w.saveSettings mode (w.settingsPath i) s ("Set " ++ key ++ " = " ++ value ++ "\n")
      | .error f => .fail w.files mode .arguments f.report.line
  | .reset =>
    .finished (w.saveSettings mode (w.settingsPath i) {} "Configuration reset to defaults\n")
  | .default => .finished (.success w.files (({} : Settings).print ++ "\n"))
  | .verify => .finished (w.verify mode (w.settingsPath i))

def run (w : Surroundings) (i : Invocation) : Course :=
  let mode := Mode.ofFlags w.terminal i.json i.noJson i.quiet
  match i.action with
  | .daemon fifo rules noPing => w.withSettings i mode fun s =>
    .daemon s ⟨fifo.map Pathname.mk, rules.map Pathname.mk, noPing⟩
  | .check rules => w.withSettings i mode fun s =>
    .finished (w.check mode (w.rulesPath s rules))
  | .eval rules moment idle => w.withSettings i mode fun s =>
    .finished (w.eval mode (w.rulesPath s rules) moment idle)
  | .control method => w.withSettings i mode fun s => w.control mode s method
  | .settings action => w.settings i mode action

end Surroundings

/-! ### Answers of the daemon -/

def textOr (word : String) (v : Value) : String :=
  v.string?.getD word

def hostLine (host : Value) : String :=
  "  " ++ textOr "?" (host.get "mac") ++ " " ++ textOr "-" (host.get "address")
    ++ "  last wake: " ++ textOr "never" (host.get "last_wake")
    ++ "  last ping: " ++ textOr "never" (host.get "last_ping") ++ "\n"

/-- A result of a request, for people. -/
def answerText (result : Value) : Method → String
  | .enable | .disable => (result.get "enabled").compact ++ " rule(s) enabled\n"
  | .motion =>
    let woken := ((result.get "woken").array?.getD []).length
    s!"motion event sent, {woken} host(s) woken\n"
  | .stop => "Daemon stopping\n"
  | .status =>
    let hosts := match (result.get "hosts").array? with
      | some hosts => "Hosts:\n" ++ String.join (hosts.map hostLine)
      | none => ""
    "Daemon running (pid " ++ (result.get "pid").compact ++ ")\n"
      ++ "Rules: " ++ (result.get "rules").compact
      ++ " (" ++ (result.get "enabled").compact ++ " enabled)\n"
      ++ "Last motion: " ++ textOr "never" (result.get "last_motion") ++ "\n" ++ hosts

/-- Ends an invocation with the response to its request. -/
def Asking.finish (a : Asking) (files : Files) (reply : Except ClientFault Response) : Finished :=
  match reply with
  | .error f => .report files f.report
  | .ok r =>
    match r.error, r.result with
    | some e, _ => .fail files a.mode .failure e.message
    | none, some v => .result files a.mode v (answerText v a.method)
    | none, none => .report files (.plain "daemon sent an empty reply")

/-- Ends an invocation that has become a daemon. -/
def daemonEnded (files : Files) : Option Daemon.Fault → Finished
  | some fault => .report files fault.report
  | none => .success files ""

end Reveille.Command
