import Reveille.Command.Arguments
import Reveille.Control.Dispatch

/-!
# Invocations

What the program can be asked to do, and how its arguments say so.
-/

namespace Reveille.Command

open Reveille.Text

inductive SettingsAction where
  | show
  | path
  | set (key value : String)
  | reset
  | default
  | verify
deriving DecidableEq, Repr

inductive Action where
  | daemon (fifo rules : Option String) (noPing : Bool)
  | check (rules : Option String)
  /-- Which hosts a motion would wake at a time, so many seconds after the motion before. -/
  | eval (rules moment : Option String) (idle : Option Nat)
  | control (method : Control.Method)
  | settings (action : SettingsAction)
deriving DecidableEq, Repr

structure Invocation where
  settingsFile : Option String
  json : Bool
  noJson : Bool
  quiet : Bool
  action : Action
deriving DecidableEq, Repr

namespace Invocation

/-- What can be given at every level. -/
def everywhere : List Argument :=
  [⟨"config", none, .path⟩, ⟨"json", some 'j', .nothing⟩, ⟨"no-json", none, .nothing⟩,
    ⟨"quiet", some 'q', .nothing⟩, ⟨"verbose", some 'v', .repeats⟩, ⟨"help", some 'h', .help⟩]

def controlVerbs : List String :=
  ["enable", "disable", "status", "motion", "stop"]

def top : Level where
  switches := ⟨"version", some 'V', .version⟩ :: everywhere
  verbs := ["daemon", "check", "eval"] ++ controlVerbs ++ ["config"]

def daemonLevel : Level where
  switches := [⟨"fifo", none, .path⟩, ⟨"rules", none, .path⟩, ⟨"no-ping", none, .nothing⟩]
    ++ everywhere

def checkLevel : Level where
  switches := everywhere
  places := [⟨"rules", none, .path⟩]

def evalLevel : Level where
  switches := [⟨"at", none, .text⟩, ⟨"idle", none, .number⟩] ++ everywhere
  places := [⟨"rules", none, .path⟩]

def settingsLevel : Level where
  switches := everywhere
  verbs := ["show", "path", "set", "reset", "default", "verify"]

def setLevel : Level where
  switches := everywhere
  places := [⟨"key", none, .text⟩, ⟨"value", none, .text⟩]
  complete := true

/-- A level with nothing of its own. -/
def plainLevel : Level where
  switches := everywhere

def levelOf (verb : String) : Level :=
  if verb = "daemon" then daemonLevel
  else if verb = "check" then checkLevel
  else if verb = "eval" then evalLevel
  else if verb = "config" then settingsLevel
  else if verb = "set" then setLevel
  else plainLevel

/-- What comes of asking for help on verbs, the first of them at a level. -/
def helpOn : Level → List String → Usage
  | _, [] => .help
  | level, verb :: rest =>
    if level.isVerb verb then helpOn (levelOf verb) rest else .unknownVerb

/-- Reads what follows the verb `config`. -/
def readSettings (verb : String) (words : List String) :
    Except Usage (SettingsAction × List Given) := do
  if verb = "help" then throw (helpOn settingsLevel words)
  let (given, _) ← (levelOf verb).read (α := Unit) (fun _ _ => .error .unknownVerb) words
  let action : SettingsAction :=
    if verb = "show" then .show
    else if verb = "path" then .path
    else if verb = "set" then
      .set ((given.value? "key").getD "") ((given.value? "value").getD "")
    else if verb = "reset" then .reset
    else if verb = "default" then .default
    else .verify
  return (action, [given])

def number? (given : Given) (name : String) : Option Nat :=
  (given.value? name).bind fun s => readNat? maxWord s.toList

/-- Reads what follows a verb: the action, and what was given at this level and below it, the
lowest level first. -/
def readAction (verb : String) (words : List String) : Except Usage (Action × List Given) := do
  if verb = "help" then throw (helpOn top words)
  if verb = "config" then
    let (given, below) ← settingsLevel.read readSettings words
    match below with
    | some (action, givens) => return (.settings action, givens ++ [given])
    | none => throw .missingVerb
  let (given, _) ← (levelOf verb).read (α := Unit) (fun _ _ => .error .unknownVerb) words
  let action : Action :=
    match Control.Method.ofName? verb with
    | some method => .control method
    | none =>
      if verb = "daemon" then
        .daemon (given.value? "fifo") (given.value? "rules") (given.has "no-ping")
      else if verb = "check" then .check (given.value? "rules")
      else .eval (given.value? "rules") (given.value? "at") (number? given "idle")
  return (action, [given])

/-- The invocation that words say. Of a value given at several levels the lowest one counts. -/
def read (words : List String) : Except Usage Invocation := do
  let (given, below) ← top.read readAction words
  match below with
  | none => throw .missingVerb
  | some (action, givens) =>
    let givens := givens ++ [given]
    let has (name : String) : Bool := givens.any (·.has name)
    return {
      settingsFile := givens.findSome? (·.value? "config")
      json := has "json"
      noJson := has "no-json"
      quiet := has "quiet"
      action }

end Invocation

end Reveille.Command
