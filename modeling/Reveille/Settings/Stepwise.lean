import Reveille.Settings.Edit

/-!
# Editing step by step

The editing of settings with its state in the open: settings that a step assigns to, and that
keep what was assigned if a later step fails. A key is found by the parts of its name.
-/

namespace Reveille

open Reveille.Net Reveille.Text

namespace Settings

/-- Steps that assign to settings and may fail. -/
abbrev Editing := ExceptT EditFault (StateM Settings)

/-- The key of a name that was cut at its points. -/
def Key.ofParts? : List String → Option Key
  | ["rules"] => some rules
  | ["fifo"] => some fifo
  | ["socket"] => some socket
  | ["ping", "enabled"] => some pingEnabled
  | ["ping", "interval_secs"] => some pingInterval
  | ["wake", "method"] => some wakeMethod
  | ["wake", "command"] => some wakeCommand
  | ["wake", "broadcast"] => some wakeBroadcast
  | ["log", "level"] => some logLevel
  | _ => none

namespace Editing

def readFlag (value : String) : Editing Bool :=
  match ofWord? flagWords value with
  | some flag => pure flag
  | none => throw (.flag value)

def readInterval (value : String) : Editing Nat :=
  match readNat maxWord value.toList with
  | .ok interval => pure interval
  | .error cause => throw (.number value cause)

def readMethod (value : String) : Editing WakeMethod :=
  match ofWord? WakeMethod.byName value with
  | some method => pure method
  | none => throw (.method value)

/-- Only looks whether the text is an address. -/
def checkAddress (value : String) : Editing Unit :=
  match Endpoint.ofText? value.toList with
  | some _ => pure ()
  | none => throw (.address value)

def assign (value : String) : Key → Editing Unit
  | .rules => modify fun s => { s with rules := value }
  | .fifo => modify fun s => { s with fifo := value }
  | .socket => modify fun s => { s with socket := value }
  | .pingEnabled => do
    let enabled ← readFlag value
    modify fun s => { s with ping := { s.ping with enabled } }
  | .pingInterval => do
    let interval ← readInterval value
    modify fun s => { s with ping := { s.ping with interval } }
  | .wakeMethod => do
    let method ← readMethod value
    modify fun s => { s with wake := { s.wake with method } }
  | .wakeCommand => modify fun s => { s with wake := { s.wake with command := value } }
  | .wakeBroadcast => do
    checkAddress value
    modify fun s => { s with wake := { s.wake with broadcast := value } }
  | .logLevel => modify fun s => { s with log := { s.log with level := value } }

def assignNamed (name value : String) : Editing Unit :=
  match Key.ofParts? ((split '.' name.toList).map Piece.text) with
  | some key => assign value key
  | none => throw (.key name)

end Editing

/-- The settings after the steps of an edit, also if one of them fails. -/
def edit (name value : String) (s : Settings) : Settings × Except EditFault Unit :=
  let (outcome, s) := (Editing.assignNamed name value).run.run s
  (s, outcome)

end Settings

end Reveille
