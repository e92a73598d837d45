import Reveille.Json5.Reader
import Reveille.Json5.Record
import Reveille.Settings.Basic

/-!
# The format of settings

Settings are written as indented JSON, and read as JSON5, so that a file edited by hand may
have comments, trailing commas and keys without quotes.
-/

namespace Reveille

open Reveille.Json Reveille.Json5

/-! ### Writing -/

def PingSettings.toJson (s : PingSettings) : Value :=
  .object [("enabled", .bool s.enabled), ("interval_secs", .int s.interval)]

def WakeSettings.toJson (s : WakeSettings) : Value :=
  .object [("method", .string s.method.name), ("command", .string s.command),
    ("broadcast", .string s.broadcast)]

def LogSettings.toJson (s : LogSettings) : Value :=
  .object [("level", .string s.level)]

def Settings.toJson (s : Settings) : Value :=
  .object [("rules", .string s.rules), ("fifo", .string s.fifo), ("socket", .string s.socket),
    ("ping", s.ping.toJson), ("wake", s.wake.toJson), ("log", s.log.toJson)]

/-- Settings as they are written to a file. -/
def Settings.print (s : Settings) : String :=
  s.toJson.pretty

/-! ### Reading -/

def PingSettings.shape : Json5.Shape PingSettings where
  name := "struct PingSettings"
  blank := {}
  fields := [
    ⟨"enabled", fun d => (readBool d).map fun v s => { s with enabled := v }⟩,
    ⟨"interval_secs", fun d => (readWord d).map fun v s => { s with interval := v }⟩]

def WakeSettings.shape : Json5.Shape WakeSettings where
  name := "struct WakeSettings"
  blank := {}
  fields := [
    ⟨"method", fun d =>
      (readVariant WakeMethod.byName d).map fun v s => { s with method := v }⟩,
    ⟨"command", fun d => (readText d).map fun v s => { s with command := v }⟩,
    ⟨"broadcast", fun d => (readText d).map fun v s => { s with broadcast := v }⟩]

def LogSettings.shape : Json5.Shape LogSettings where
  name := "struct LogSettings"
  blank := {}
  fields := [⟨"level", fun d => (readText d).map fun v s => { s with level := v }⟩]

def Settings.shape : Json5.Shape Settings where
  name := "struct Config"
  blank := {}
  fields := [
    ⟨"rules", fun d => (readText d).map fun v s => { s with rules := v }⟩,
    ⟨"fifo", fun d => (readText d).map fun v s => { s with fifo := v }⟩,
    ⟨"socket", fun d => (readText d).map fun v s => { s with socket := v }⟩,
    ⟨"ping", fun d => (PingSettings.shape.read d).map fun v s => { s with ping := v }⟩,
    ⟨"wake", fun d => (WakeSettings.shape.read d).map fun v s => { s with wake := v }⟩,
    ⟨"log", fun d => (LogSettings.shape.read d).map fun v s => { s with log := v }⟩]

inductive SettingsFault where
  /-- The text is no JSON5 document. -/
  | malformed
  /-- The document does not say what settings are made of. -/
  | meaning (fault : Json5.Fault)
deriving DecidableEq, Repr

/-- The wording of each fault. Where a text is malformed, a report of the place would stand. -/
def SettingsFault.message : SettingsFault → String
  | .malformed => "<syntax>"
  | .meaning f => f.message

def Settings.read (text : List Char) : Except SettingsFault Settings :=
  match Document.read? text with
  | none => .error .malformed
  | some d => (Settings.shape.read d).mapError .meaning

end Reveille
