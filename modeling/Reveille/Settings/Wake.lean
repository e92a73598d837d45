import Reveille.Json.Fault
import Reveille.Settings.Basic

/-!
# Wake settings as JSON values

Wake settings may also be given as a JSON value, with the same fields: an object, or an array of
the fields in order.
-/

namespace Reveille

open Reveille.Json

namespace WakeSettings

inductive ValueFault where
  | wrongType (found : Found) (expected : String)
  | unknownMethod (name : String)
  | notOneKey
  | tooLong (length : Nat)
deriving DecidableEq, Repr

def ValueFault.message : ValueFault → String
  | .wrongType found expected => "invalid type: " ++ found.message ++ ", expected " ++ expected
  | .unknownMethod name => "unknown variant `" ++ name ++ "`, expected "
      ++ " or ".intercalate (WakeMethod.all.map fun m => "`" ++ m.name ++ "`")
  | .notOneKey => "invalid value: map, expected map with a single key"
  | .tooLong n => s!"invalid length {n}, expected fewer elements in array"

def methodOf (name : String) : Except ValueFault WakeMethod :=
  match WakeMethod.all.find? (·.name = name) with
  | some m => .ok m
  | none => .error (.unknownMethod name)

/-- A method: its name, or an object of its name and null. -/
def readMethod : Value → Except ValueFault WakeMethod
  | .string name => methodOf name
  | .object [(name, v)] => do
    let m ← methodOf name
    match v with
    | .null => return m
    | v => throw (.wrongType v.found "unit")
  | .object _ => .error .notOneKey
  | v => .error (.wrongType v.found "string or map")

def readString : Value → Except ValueFault String
  | .string s => .ok s
  | v => .error (.wrongType v.found "a string")

/-- The fields by their names, each with what puts its value into settings. -/
def fields : List (String × (WakeSettings → Value → Except ValueFault WakeSettings)) :=
  [("method", fun s v => (readMethod v).map fun method => { s with method }),
    ("command", fun s v => (readString v).map fun command => { s with command }),
    ("broadcast", fun s v => (readString v).map fun broadcast => { s with broadcast })]

def ofValue : Value → Except ValueFault WakeSettings
  | .object members => members.foldlM (fun s (k, v) =>
      match fields.find? (·.1 = k) with
      | some (_, set) => set s v
      | none => .ok s) {}
  | .array items => do
    let s ← (fields.zip items).foldlM (fun s ((_, set), v) => set s v) {}
    if fields.length < items.length then throw (.tooLong items.length)
    return s
  | v => .error (.wrongType v.found "struct WakeSettings")

end WakeSettings

end Reveille
