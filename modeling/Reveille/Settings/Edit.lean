import Reveille.Net.Address
import Reveille.Report
import Reveille.Settings.Basic
import Reveille.Text.Likeness

/-!
# Editing of settings

A setting is named by a key and takes a value from a text.
-/

namespace Reveille

open Reveille.Net Reveille.Text

namespace Settings

inductive Key where
  | rules
  | fifo
  | socket
  | pingEnabled
  | pingInterval
  | wakeMethod
  | wakeCommand
  | wakeBroadcast
  | logLevel
deriving DecidableEq, Repr

namespace Key

def all : List Key :=
  [rules, fifo, socket, pingEnabled, pingInterval, wakeMethod, wakeCommand, wakeBroadcast, logLevel]

def name : Key → String
  | rules => "rules"
  | fifo => "fifo"
  | socket => "socket"
  | pingEnabled => "ping.enabled"
  | pingInterval => "ping.interval_secs"
  | wakeMethod => "wake.method"
  | wakeCommand => "wake.command"
  | wakeBroadcast => "wake.broadcast"
  | logLevel => "log.level"

def ofName? (name : String) : Option Key :=
  all.find? (·.name = name)

end Key

inductive EditFault where
  | key (name : String)
  | flag (value : String)
  | number (value : String) (cause : NumberError)
  | method (value : String)
  | address (value : String)
deriving DecidableEq, Repr

def EditFault.report : EditFault → Report
  | .key name => .plain ("Unknown config key: " ++ name ++ ". Valid keys: "
      ++ ", ".intercalate (Key.all.map Key.name))
  | .flag value => .plain ("Invalid boolean value: " ++ value
      ++ ". Use true/false, yes/no, 1/0, or on/off")
  | .number value cause => ⟨"Invalid number: " ++ value, [cause.message]⟩
  | .method value => .plain ("Invalid wake method: " ++ value ++ ". Use packet or command")
  | .address value => ⟨"Invalid address: " ++ value, [Endpoint.invalidMessage]⟩

/-- The words for yes, and those for no. -/
def flagWords : List (String × Bool) :=
  [("true", true), ("1", true), ("yes", true), ("on", true),
    ("false", false), ("0", false), ("no", false), ("off", false)]

/-- What a word stands for, in any letter case. -/
def ofWord? {α : Type} (words : List (String × α)) (value : String) : Option α :=
  (words.find? (·.1.toList = lower value.toList)).map (·.2)

def setKey (value : String) (s : Settings) : Key → Except EditFault Settings
  | .rules => .ok { s with rules := value }
  | .fifo => .ok { s with fifo := value }
  | .socket => .ok { s with socket := value }
  | .pingEnabled =>
    match ofWord? flagWords value with
    | some enabled => .ok { s with ping := { s.ping with enabled } }
    | none => .error (.flag value)
  | .pingInterval =>
    match readNat maxWord value.toList with
    | .ok interval => .ok { s with ping := { s.ping with interval } }
    | .error cause => .error (.number value cause)
  | .wakeMethod =>
    match ofWord? WakeMethod.byName value with
    | some method => .ok { s with wake := { s.wake with method } }
    | none => .error (.method value)
  | .wakeCommand => .ok { s with wake := { s.wake with command := value } }
  | .wakeBroadcast =>
    match Endpoint.ofText? value.toList with
    | some _ => .ok { s with wake := { s.wake with broadcast := value } }
    | none => .error (.address value)
  | .logLevel => .ok { s with log := { s.log with level := value } }

def set (name value : String) (s : Settings) : Except EditFault Settings :=
  match Key.ofName? name with
  | some key => s.setKey value key
  | none => .error (.key name)

end Settings

end Reveille
