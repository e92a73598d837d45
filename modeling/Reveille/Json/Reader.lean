import Reveille.Json.Lexeme

/-!
# Reading JSON values

`Value.read` reads a whole text. Arrays and objects nest at most 127 deep.
-/

namespace Reveille.Json

/-- One more than the number of levels that arrays and objects may nest. -/
def maxDepth : Nat := 128

/-- Whether another item follows in an array. The source then stands at it, or else at the
bracket that ends the array. -/
def readItemStart (first : Bool) (s : Source) : Except Fault (Bool × Source) :=
  let s := s.skipBlanks
  match s.rest with
  | [] => .error (s.here .endInArray)
  | c :: _ =>
    if c = ']' then .ok (false, s)
    else if first then .ok (true, s)
    else if c = ',' then
      let s := s.advance.skipBlanks
      match s.rest with
      | [] => .error (s.here .endInValue)
      | d :: _ => if d = ']' then .error (s.next .trailingComma) else .ok (true, s)
    else .error (s.next .expectedCommaInArray)

/-- The key of the member that follows in an object, if one does. The source stands after the
key, or else at the brace that ends the object. -/
def readKey (first : Bool) (s : Source) : Except Fault (Option String × Source) :=
  let s := s.skipBlanks
  match s.rest with
  | [] => .error (s.here .endInObject)
  | c :: _ =>
    if c = '\x7d' then .ok (none, s)
    else if first then
      if c = '"' then (readString s).map fun (k, s) => (some k, s)
      else .error (s.next .keyMustBeString)
    else if c = ',' then
      let s := s.advance.skipBlanks
      match s.rest with
      | [] => .error (s.here .endInValue)
      | d :: _ =>
        if d = '"' then (readString s).map fun (k, s) => (some k, s)
        else if d = '\x7d' then .error (s.next .trailingComma)
        else .error (s.next .keyMustBeString)
    else .error (s.next .expectedCommaInObject)

/-- Goes past the colon after a key. -/
def readColon (s : Source) : Except Fault Source :=
  let s := s.skipBlanks
  match s.rest with
  | [] => .error (s.here .endInObject)
  | c :: _ => if c = ':' then .ok s.advance else .error (s.next .expectedColon)

/-- A value that holds no other values, the source standing at its first character. -/
def readScalar (s : Source) : Except Fault (Value × Source) :=
  match s.rest with
  | [] => .error (s.here .endInValue)
  | c :: _ =>
    if c = 'n' then (readWord "null".toList s).map fun s => (.null, s)
    else if c = 't' then (readWord "true".toList s).map fun s => (.bool true, s)
    else if c = 'f' then (readWord "false".toList s).map fun s => (.bool false, s)
    else if c = '-' ∨ c.isDigit then readNumber s
    else if c = '"' then (readString s).map fun (t, s) => (.string t, s)
    else .error (s.next .expectedValue)

mutual

/-- A value, at most `depth - 1` levels deep. -/
def readValue : Nat → Nat → Source → Except Fault (Value × Source)
  | 0, _, s => .error (s.here .endInValue)
  | n + 1, depth, s =>
    let s := s.skipBlanks
    match s.peek? with
    | some '[' =>
      if depth ≤ 1 then .error (s.next .tooDeep)
      else (readItems n (depth - 1) true s.advance).map fun (vs, s) => (.array vs, s)
    | some '\x7b' =>
      if depth ≤ 1 then .error (s.next .tooDeep)
      else (readMembers n (depth - 1) true s.advance).map fun (ms, s) => (.ofMembers ms, s)
    | _ => readScalar s

/-- The items of an array that are left, and the bracket that ends it. -/
def readItems : Nat → Nat → Bool → Source → Except Fault (List Value × Source)
  | 0, _, _, s => .error (s.here .endInArray)
  | n + 1, depth, first, s => do
    let (more, s) ← readItemStart first s
    if more then
      let (v, s) ← readValue n depth s
      let (vs, s) ← readItems n depth false s
      return (v :: vs, s)
    else return ([], s.advance)

/-- The members of an object that are left, and the brace that ends it. -/
def readMembers : Nat → Nat → Bool → Source → Except Fault (List (String × Value) × Source)
  | 0, _, _, s => .error (s.here .endInObject)
  | n + 1, depth, first, s => do
    let (key?, s) ← readKey first s
    match key? with
    | none => return ([], s.advance)
    | some key =>
      let s ← readColon s
      let (v, s) ← readValue n depth s
      let (ms, s) ← readMembers n depth false s
      return ((key, v) :: ms, s)

end

/-- Enough steps to read any value off the source. -/
def Source.steps (s : Source) : Nat :=
  2 * s.rest.length + 2

/-- A value, at most `depth - 1` levels deep. -/
def Value.reader (depth : Nat) : Reader Value := fun s =>
  readValue s.steps depth s

/-- A text that holds what `read` reads, and nothing more but blanks. -/
def readWhole? {α : Type} (read : Reader α) (text : List Char) : Except Fault α := do
  let (a, s) ← read (Source.ofText text)
  let s := s.skipBlanks
  if s.rest = [] then return a else throw (s.next .trailingCharacters)

def Value.read (text : List Char) : Except Fault Value :=
  readWhole? (Value.reader maxDepth) text

end Reveille.Json
