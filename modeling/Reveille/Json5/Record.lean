import Reveille.Json5.Fault

/-!
# Records in JSON5 documents

A record is read from an object or from an array of its fields in order. Fields that are absent
keep what they have in the record to start with; what is no field is checked and left out.
-/

namespace Reveille.Json5

/-- A field of records: what it is called, and how its value is put into a record. -/
structure Field (α : Type) where
  name : String
  read : Document → Except Fault (α → α)

/-- What the records of a type are called, their fields, and the record to start with. -/
structure Shape (α : Type) where
  name : String
  fields : List (Field α)
  blank : α

namespace Shape

variable {α : Type}

def readItems : List (Field α) → List Document → α → Except Fault α
  | f :: fs, d :: ds, a => do readItems fs ds ((← f.read d) a)
  | _, _, a => .ok a

/-- Reads members, given the fields that were there. -/
def readMembers (shape : Shape α) :
    List String → List (List Fragment × Document) → α → Except Fault α
  | _, [], a => .ok a
  | seen, (k, d) :: ms, a => do
    let key ← text k
    match shape.fields.find? (·.name = key) with
    | some f =>
      if key ∈ seen then throw (.duplicateField key)
      readMembers shape (key :: seen) ms ((← f.read d) a)
    | none =>
      d.check
      readMembers shape seen ms a

def read (shape : Shape α) : Document → Except Fault α
  | .array items => readItems shape.fields items shape.blank
  | .object members => shape.readMembers [] members shape.blank
  | d => .error (d.unexpected shape.name)

end Shape

def readText : Document → Except Fault String
  | .string fragments => text fragments
  | d => .error (d.unexpected "a string")

def readBool : Document → Except Fault Bool
  | .bool b => .ok b
  | d => .error (d.unexpected "a boolean")

/-- A number of 64 bits without a sign, the whole part of what is written. -/
def readWord : Document → Except Fault Nat
  | .number sign numeral => (floating sign numeral).map Extended.toWord
  | _ => .error .number

/-- One of the given names, alone or as the first key of an object, whatever else is in it. -/
def readVariant {α : Type} (known : List (String × α)) (d : Document) : Except Fault α := do
  let k ← match d with
    | .string k => .ok k
    | .object ((k, _) :: _) => .ok k
    | .object [] => .error .emptyVariant
    | _ => .error .notVariant
  let key ← text k
  match known.find? (·.1 = key) with
  | none => throw (.unknownVariant key (known.map (·.1)))
  | some (_, a) => return a

end Reveille.Json5
