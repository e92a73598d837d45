import Reveille.Calendar.Rfc3339
import Reveille.Engine.Basic
import Reveille.Json.Printer
import Reveille.RuleText.File

/-!
# Output

Results and failures as people and programs read them. For programs each is one line of JSON, in
the form of a response to a request without an id.
-/

namespace Reveille.Command

open Reveille.Calendar Reveille.Json Reveille.Net Reveille.RuleText

inductive Mode where
  | text
  | json
  /-- Nothing unless it fails. -/
  | quiet
deriving DecidableEq, Repr

/-- What is asked for counts in the order quiet, JSON, text. Where nothing is asked for, a
terminal gets text. -/
def Mode.ofFlags (terminal json noJson quiet : Bool) : Mode :=
  if quiet then .quiet
  else if json then .json
  else if noJson then .text
  else if terminal then .text
  else .json

/-- How the program ends. -/
inductive Exit where
  | success
  | failure
  | notRunning
  | rules
  | arguments
  | settings
deriving DecidableEq, Repr

def Exit.code : Exit → Nat
  | .success => 0
  | .failure => 1
  | .notRunning => 2
  | .rules => 3
  | .arguments => 4
  | .settings => 5

/-- The code of a failure among those that are left to applications. -/
def errorCode (exitCode : Int) : Int :=
  -32000 - exitCode

def resultText (v : Value) : String :=
  (Value.object [("jsonrpc", .string "2.0"), ("result", v), ("id", .null)]).compact

/-- What else is known of a failure. -/
structure Details where
  line : Option Nat
  details : Option String
deriving DecidableEq, Repr

def Details.toJson (d : Details) : Value :=
  .object ((d.line.map fun n => ("line", .int n)).toList
    ++ (d.details.map fun s => ("details", .string s)).toList)

/-- What is known of a fault of a rule text. -/
def Details.ofParseError (e : ParseError) : Details :=
  ⟨e.line, e.causes.head?⟩

/-- A failure as JSON. -/
def errorText (exitCode : Int) (message : String) (details : Option Details) : String :=
  let error := [("code", Value.int (errorCode exitCode)), ("message", .string message)]
    ++ (details.map fun d => ("data", d.toJson)).toList
  (Value.object [("jsonrpc", .string "2.0"), ("error", .object error), ("id", .null)]).compact

/-! ### Rules -/

structure RuleSummary where
  mac : String
  address : Option String
  holdOff : Nat
  conditions : String
deriving DecidableEq, Repr

def RuleSummary.ofRule (r : Rule) : RuleSummary where
  mac := r.host.mac.text
  address := r.host.address.map (·.text)
  holdOff := r.holdOff
  conditions := String.ofList (r.conditions.chars BoundCondition.chars)

def RuleSummary.toJson (r : RuleSummary) : Value :=
  .object ([("mac", .string r.mac)]
    ++ (r.address.map fun a => ("address", .string a)).toList
    ++ [("hold_off", .int r.holdOff), ("when", .string r.conditions)])

def RuleSummary.text (r : RuleSummary) : String :=
  let address := match r.address with
    | some a => " " ++ a
    | none => ""
  "wake " ++ r.mac ++ address ++ s!" (hold off {r.holdOff}s)\n    " ++ r.conditions ++ "\n"

/-- The rules of a file. -/
structure Inspection where
  path : String
  rules : List RuleSummary
deriving DecidableEq, Repr

def Inspection.toJson (i : Inspection) : Value :=
  .object [("path", .string i.path), ("rules", .array (i.rules.map RuleSummary.toJson))]

def Inspection.text (i : Inspection) : String :=
  String.join (i.rules.map RuleSummary.text) ++ s!"✓ {i.rules.length} rule(s) in " ++ i.path ++ "\n"

/-! ### Forecasts -/

/-- What a motion would do. -/
structure Forecast where
  moment : String
  previousMotion : Option String
  wake : List String
deriving DecidableEq, Repr

/-- The second that lies so many seconds back, kept within 64 bits. -/
def secondsBefore (epoch : Int) (seconds : Nat) : Int :=
  max minSeconds (epoch - clampSeconds seconds)

/-- What a motion would do now, so many seconds after the motion before it. -/
def Forecast.make (rules : List Rule) (now : Instant) (idle : Option Nat) : Forecast :=
  let previous := idle.map (secondsBefore now.epoch)
  let dated := (previous.filter Instant.isDated).map fun p => (⟨p, 0, now.offset⟩ : Instant)
  { moment := Timestamp.text now
    previousMotion := dated.map Timestamp.text
    wake := ((Engine.new (.addAll .empty rules)).dryRun now previous).map Host.text }

def Forecast.toJson (f : Forecast) : Value :=
  .object ([("at", .string f.moment)]
    ++ (f.previousMotion.map fun p => ("previous_motion", .string p)).toList
    ++ [("wake", .array (f.wake.map .string))])

def Forecast.text (f : Forecast) : String :=
  if f.wake = [] then "no hosts would be woken at " ++ f.moment ++ "\n"
  else "at " ++ f.moment ++ " would wake:\n" ++ String.join (f.wake.map fun h => "  " ++ h ++ "\n")

end Reveille.Command
