import Reveille.Json.Reader

/-!
# Skipping JSON values

A value that nobody asked for is skipped. It may nest to any depth, its numbers may have any
size and its escapes need not pair up, but its shape is checked.
-/

namespace Reveille.Json

/-- Goes past the exponent of a number, if it has one. -/
def skipExponent (s : Source) : Except Fault Source :=
  if s.peek? = some 'e' ∨ s.peek? = some 'E' then
    let s := s.advance
    let s := if s.peek? = some '+' ∨ s.peek? = some '-' then s.advance else s
    if (s.peek?.map Char.isDigit).getD false then .ok (s.skipWhile Char.isDigit)
    else .error (s.next .invalidNumber)
  else .ok s

/-- Goes past a number. -/
def skipNumber (s : Source) : Except Fault Source := do
  let s := if s.peek? = some '-' then s.advance else s
  match s.rest.takeWhile Char.isDigit with
  | [] => throw (s.next .invalidNumber)
  | '0' :: _ :: _ => throw (s.advance.next .invalidNumber)
  | _ =>
    let s := s.skipWhile Char.isDigit
    if s.peek? = some '.' then
      let s := s.advance
      if (s.peek?.map Char.isDigit).getD false then skipExponent (s.skipWhile Char.isDigit)
      else throw (s.next .invalidNumber)
    else skipExponent s

/-- Goes past the rest of an escape. -/
def skipEscape (s : Source) : Except Fault Source :=
  match s.rest with
  | [] => .error (s.here .endInString)
  | c :: _ =>
    if c = 'u' then (readHex s.advance).map (·.2)
    else if (escapeLetter? c).isSome then .ok s.advance
    else .error (s.next .invalidEscape)

/-- Goes past the rest of a string, at most `n` characters and the quote. -/
def skipQuoted : Nat → Source → Except Fault Source
  | 0, s => .error (s.here .endInString)
  | n + 1, s =>
    match s.rest with
    | [] => .error (s.here .endInString)
    | '"' :: _ => .ok s.advance
    | '\\' :: _ => do skipQuoted n (← skipEscape s.advance)
    | c :: _ =>
      if c.toNat < 0x20 then .error (s.here .controlCharacter) else skipQuoted n s.advance

/-- Goes past a string, the source standing at its first quote. -/
def skipString (s : Source) : Except Fault Source :=
  skipQuoted s.rest.length s.advance

/-- Goes past a key and its colon. -/
def skipKey (s : Source) : Except Fault Source := do
  let s := s.skipBlanks
  match s.peek? with
  | none => throw (s.here .endInObject)
  | some '"' => readColon (← skipString s)
  | some _ => throw (s.next .keyMustBeString)

mutual

/-- Goes past a value. -/
def skipValue : Nat → Source → Except Fault Source
  | 0, s => .error (s.here .endInValue)
  | n + 1, s =>
    let s := s.skipBlanks
    match s.peek? with
    | some '[' =>
      let s := s.advance.skipBlanks
      match s.peek? with
      | none => .error (s.here .endInArray)
      | some ']' => .ok s.advance
      | some _ => skipItems n s
    | some '\x7b' =>
      let s := s.advance.skipBlanks
      match s.peek? with
      | none => .error (s.here .endInObject)
      | some '\x7d' => .ok s.advance
      | some _ => skipMembers n s
    | some '-' => skipNumber s
    | some '"' => skipString s
    | some c => if c.isDigit then skipNumber s else (readScalar s).map (·.2)
    | none => .error (s.here .endInValue)

/-- Goes past the items of an array from the next one on, and past its end. -/
def skipItems : Nat → Source → Except Fault Source
  | 0, s => .error (s.here .endInArray)
  | n + 1, s => do
    let s := (← skipValue n s).skipBlanks
    match s.peek? with
    | none => throw (s.here .endInArray)
    | some ',' => skipItems n s.advance
    | some ']' => return s.advance
    | some _ => throw (s.next .expectedCommaInArray)

/-- Goes past the members of an object from the next one on, and past its end. -/
def skipMembers : Nat → Source → Except Fault Source
  | 0, s => .error (s.here .endInObject)
  | n + 1, s => do
    let s := (← skipValue n (← skipKey s)).skipBlanks
    match s.peek? with
    | none => throw (s.here .endInObject)
    | some ',' => skipMembers n s.advance
    | some '\x7d' => return s.advance
    | some _ => throw (s.next .expectedCommaInObject)

end

/-- Goes past a value of any depth. -/
def skip : Reader Unit := fun s =>
  (skipValue s.steps s).map fun s => ((), s)

end Reveille.Json
