import Reveille.Json.Skip

/-!
# Records in JSON texts

A record is read from an object, whatever the order of its members, or from an array of its
fields in order. A field may be absent unless it is required. Members that are no field are
skipped; a field that is there twice is a fault.
-/

namespace Reveille.Json

/-- A field of records: what it is called, and how its value is read and put into the record. -/
structure Field (α : Type) where
  name : String
  required : Bool
  read : Nat → Reader (α → α)

/-- What the records of a type are called, their fields, and the record without any field. -/
structure Shape (α : Type) where
  name : String
  fields : List (Field α)
  blank : α

/-- The fault of finding a value of another kind than expected, or of finding no value. -/
def unexpected (expected : String) (s : Source) : Fault :=
  match s.peek? with
  | some '[' => s.here (.wrongType .array expected)
  | some '\x7b' => s.here (.wrongType .object expected)
  | _ =>
    match readScalar s with
    | .error f => f
    | .ok (v, s) => s.here (.wrongType v.found expected)

def string : Reader String := fun s =>
  let s := s.skipBlanks
  if s.peek? = some '"' then readString s else .error (unexpected "a string" s)

/-- A whole number of 32 bits. -/
def int32 : Reader Int := fun s =>
  let s := s.skipBlanks
  match readScalar s with
  | .error _ => .error (unexpected "i32" s)
  | .ok (.int n, after) =>
    if -(Nat.pow 2 31 : Int) ≤ n ∧ n < Nat.pow 2 31 then .ok (n, after)
    else .error (after.here (.wrongValue (.int n) "i32"))
  | .ok _ => .error (unexpected "i32" s)

/-- A value that may be null. -/
def optional {α : Type} (read : Reader α) : Reader (Option α) := fun s =>
  let s := s.skipBlanks
  if s.peek? = some 'n' then (readWord "null".toList s).map fun s => (none, s)
  else (read s).map fun (a, s) => (some a, s)

namespace Shape

variable {α : Type}

/-- The name of the type, with the number of its fields. -/
def lengthName (shape : Shape α) : String :=
  s!"{shape.name} with {shape.fields.length} elements"

/-- Reads the fields that are left from the items that are left of an array. -/
def readItemFields (shape : Shape α) (depth : Nat) :
    Nat → Bool → List (Field α) → α → Source → Except Fault (α × Source)
  | _, _, [], a, s => .ok (a, s)
  | i, first, f :: fs, a, s => do
    let (more, s) ← readItemStart first s
    if more then
      let (set, s) ← f.read depth s
      readItemFields shape depth (i + 1) false fs (set a) s
    else if f.required then throw (s.advance.here (.wrongLength i shape.lengthName))
    else readItemFields shape depth (i + 1) first fs a s

/-- Goes past the end of an array, which must come next. -/
def readArrayEnd (s : Source) : Except Fault Source :=
  let s := s.skipBlanks
  match s.peek? with
  | none => .error (s.here .endInArray)
  | some ']' => .ok s.advance
  | some ',' =>
    let s := s.advance.skipBlanks
    if s.peek? = some ']' then .error (s.next .trailingComma)
    else .error (s.next .trailingCharacters)
  | some _ => .error (s.next .trailingCharacters)

/-- A fault of the record as a whole is placed after its end if that comes next. -/
def atEnd (cause : Cause) (s : Source) : Fault :=
  let s := s.skipBlanks
  (if s.peek? = some '\x7d' then s.advance else s).here cause

/-- Reads the members of an object that are left into a record, given the fields that were
there. -/
def readMemberFields (shape : Shape α) (depth : Nat) :
    Nat → Bool → List String → α → Source → Except Fault (α × Source)
  | 0, _, _, _, s => .error (s.here .endInObject)
  | n + 1, first, seen, a, s => do
    let (key?, s) ← readKey first s
    match key? with
    | none =>
      match shape.fields.find? fun f => f.required && !seen.contains f.name with
      | some f => throw (atEnd (.missingField f.name) s)
      | none => return (a, s.advance)
    | some key =>
      match shape.fields.find? (·.name = key) with
      | some f =>
        if key ∈ seen then throw (atEnd (.duplicateField key) s)
        let (set, s) ← f.read depth (← readColon s)
        readMemberFields shape depth n false (key :: seen) (set a) s
      | none =>
        let (_, s) ← skip (← readColon s)
        readMemberFields shape depth n false seen a s

def read (shape : Shape α) (depth : Nat) : Reader α := fun s =>
  let s := s.skipBlanks
  match s.peek? with
  | some '[' =>
    if depth ≤ 1 then .error (s.next .tooDeep)
    else do
      let (a, s) ← shape.readItemFields (depth - 1) 0 true shape.fields shape.blank s.advance
      return (a, ← readArrayEnd s)
  | some '\x7b' =>
    if depth ≤ 1 then .error (s.next .tooDeep)
    else shape.readMemberFields (depth - 1) s.steps true [] shape.blank s.advance
  | _ => .error (unexpected shape.name s)

end Shape

end Reveille.Json
