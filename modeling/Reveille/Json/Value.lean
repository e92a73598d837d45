import Reveille.Number.Notation

/-!
# JSON values

Objects keep their members in the order in which they are written out. An object that was read
has them in the order of their keys, each key once.
-/

namespace Reveille.Json

open Reveille.Number

inductive Value where
  | null
  | bool (value : Bool)
  | int (value : Int)
  | float (value : Binary64)
  | string (value : String)
  | array (items : List Value)
  | object (members : List (String × Value))
deriving Repr

namespace Value

/-- Puts a member into its place among members in the order of their keys, instead of any
member of the same key. -/
def put (key : String) (value : Value) : List (String × Value) → List (String × Value)
  | [] => [(key, value)]
  | (k, v) :: rest =>
    if key < k then (key, value) :: (k, v) :: rest
    else if key = k then (key, value) :: rest
    else (k, v) :: put key value rest

/-- The object of these members, the last one of a key counting. -/
def ofMembers (members : List (String × Value)) : Value :=
  .object (members.foldl (fun ms m => put m.1 m.2 ms) [])

def get? (key : String) : Value → Option Value
  | .object members => (members.find? (·.1 = key)).map (·.2)
  | _ => none

/-- The member of a key, null where there is none. -/
def get (key : String) (v : Value) : Value :=
  (v.get? key).getD .null

def string? : Value → Option String
  | .string s => some s
  | _ => none

def array? : Value → Option (List Value)
  | .array items => some items
  | _ => none

/-- An absent value is null. -/
def ofOption : Option Value → Value
  | some v => v
  | none => .null

end Value

/-- Floating-point numbers are laid out by place from `1e-5` up to below `1e16`. -/
def numberLayout : Layout :=
  ⟨fun place => -5 ≤ place && place ≤ 15⟩

end Reveille.Json
