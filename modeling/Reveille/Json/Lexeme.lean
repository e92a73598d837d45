import Reveille.Json.Source

/-!
# Words, numbers and strings

Readers for the parts of a JSON text that hold no other parts.
-/

namespace Reveille.Json

open Reveille.Number Reveille.Text

/-- Goes past the given characters. -/
def readWord (word : List Char) (s : Source) : Except Fault Source :=
  match word with
  | [] => .ok s
  | w :: ws =>
    match s.rest with
    | [] => .error (s.here .endInValue)
    | c :: _ => if c = w then readWord ws s.advance else .error (s.next .expectedWord)

/-- Takes in digits as long as the value stays within the limit. The second part of the answer
is how many digits were taken in. -/
def takeDigits (limit value : Nat) : List Char → Nat × Nat
  | [] => (value, 0)
  | c :: cs =>
    let next := 10 * value + decimalValue c
    if next ≤ limit then
      let (value, taken) := takeDigits limit next cs
      (value, taken + 1)
    else (value, 0)

/-- Multiplies a number by a power of ten: by one that is itself rounded, and in more steps the
closer it is to zero. The first argument limits the steps. -/
def scale? : Nat → Magnitude → Int → Option Magnitude
  | 0, m, _ => some m
  | steps + 1, m, e =>
    if 0 ≤ e ∧ e ≤ 308 then (Magnitude.ofTen? e.toNat).bind m.mul?
    else if e < 0 ∧ -308 ≤ e then (Magnitude.ofTen? (-e).toNat).bind m.div?
    else if m.isZero then some m
    else if 0 < e then none
    else ((Magnitude.ofTen? 308).bind m.div?).bind fun m => scale? steps m (e + 308)

/-- The floating-point number `significand * 10 ^ exponent`, which ends where the source
stands. -/
def floatOf (negative : Bool) (significand : Nat) (exponent : Int) (s : Source) :
    Except Fault (Value × Source) :=
  match (Magnitude.ofQuotient? significand 1).bind fun m => scale? 4 m exponent with
  | some m => .ok (.float ⟨negative, m⟩, s)
  | none => .error (s.here .numberOutOfRange)

/-- The greatest number of 31 bits: no exponent is greater. -/
def maxExponent : Nat := Nat.pow 2 31 - 1

/-- The end of a number from its exponent on, if it has one. -/
def readExponent (negative : Bool) (significand : Nat) (exponent : Int) (s : Source) :
    Except Fault (Value × Source) :=
  if s.peek? = some 'e' ∨ s.peek? = some 'E' then
    let s := s.advance
    let down := s.peek? = some '-'
    let s := if down ∨ s.peek? = some '+' then s.advance else s
    let digits := s.rest.takeWhile Char.isDigit
    let after := s.skipWhile Char.isDigit
    if s.rest = [] then .error (s.here .endInValue)
    else if digits = [] then .error (s.next .invalidNumber)
    else
      let (e, taken) := takeDigits maxExponent 0 digits
      if taken < digits.length then
        if significand ≠ 0 ∧ ¬down then
          .error ((s.skipBytes (taken + 1)).here .numberOutOfRange)
        else .ok (.float ⟨negative, .zero⟩, after)
      else floatOf negative significand (if down then exponent - e else exponent + e) after
  else floatOf negative significand exponent s

/-- The digits before the point: none may follow a leading zero. -/
def readWhole (s : Source) : Except Fault (List Char × Source) :=
  match s.rest.takeWhile Char.isDigit with
  | [] => .error (s.next (if s.rest = [] then .endInValue else .invalidNumber))
  | '0' :: _ :: _ => .error (s.advance.next .invalidNumber)
  | digits => .ok (digits, s.skipWhile Char.isDigit)

/-- A number. Whole numbers of 64 bits stay whole, all others are floating-point numbers. Of
their digits those are taken in that fit into 64 bits. -/
def readNumber (s : Source) : Except Fault (Value × Source) := do
  let negative := s.peek? = some '-'
  let (digits, s) ← readWhole (if negative then s.advance else s)
  let (significand, taken) := takeDigits maxWord 0 digits
  let exponent : Int := digits.length - taken
  if s.peek? = some '.' then
    let s := s.advance
    let fraction := s.rest.takeWhile Char.isDigit
    if fraction = [] then
      throw (s.next (if s.rest = [] then .endInValue else .invalidNumber))
    let (significand, taken) := takeDigits maxWord significand fraction
    readExponent negative significand (exponent - taken) (s.skipWhile Char.isDigit)
  else if exponent ≠ 0 ∨ s.peek? = some 'e' ∨ s.peek? = some 'E' then
    readExponent negative significand exponent s
  else if ¬negative then return (.int significand, s)
  else if significand = 0 ∨ Nat.pow 2 63 < significand then floatOf true significand 0 s
  else return (.int (-significand), s)

/-- The number of four hexadecimal digits. -/
def readHex (s : Source) : Except Fault (Nat × Source) :=
  if byteLength (s.rest.take 4) < 4 then
    .error ((s.skipWhile fun _ => true).here .endInString)
  else
    match (s.rest.take 4).mapM hexValue? with
    | some [a, b, c, d] => .ok (((16 * a + b) * 16 + c) * 16 + d, s.skipBytes 4)
    | _ => .error ((s.skipBytes 4).here .invalidEscape)

/-- The first half of a pair. -/
def isLead (n : Nat) : Bool := 0xD800 ≤ n && n ≤ 0xDBFF

/-- The second half of a pair. -/
def isTrail (n : Nat) : Bool := 0xDC00 ≤ n && n ≤ 0xDFFF

/-- The character that the two halves of a pair stand for. -/
def pairChar (lead trail : Nat) : Char :=
  Char.ofNat (0x10000 + (lead - 0xD800) * 0x400 + (trail - 0xDC00))

/-- Goes past a character that must come next within an escape. -/
def readInEscape (c : Char) (s : Source) : Except Fault Source :=
  match s.rest with
  | [] => .error (s.here .endInString)
  | d :: _ => if d = c then .ok s.advance else .error (s.next .endInEscape)

/-- The rest of an escape by number. -/
def readNumbered (s : Source) : Except Fault (Char × Source) := do
  let (n, s) ← readHex s
  if isTrail n then throw (s.here .loneSurrogate)
  if ¬isLead n then return (Char.ofNat n, s)
  let s ← readInEscape '\\' s
  let s ← readInEscape 'u' s
  let (m, s) ← readHex s
  if ¬isTrail m then throw (s.here .loneSurrogate)
  return (pairChar n m, s)

def escapeLetter? : Char → Option Char
  | '"' => some '"'
  | '\\' => some '\\'
  | '/' => some '/'
  | 'b' => some '\x08'
  | 'f' => some '\x0c'
  | 'n' => some '\n'
  | 'r' => some '\r'
  | 't' => some '\t'
  | _ => none

def readEscape (s : Source) : Except Fault (Char × Source) :=
  match s.rest with
  | [] => .error (s.here .endInString)
  | c :: _ =>
    if c = 'u' then readNumbered s.advance
    else
      match escapeLetter? c with
      | some d => .ok (d, s.advance)
      | none => .error (s.next .invalidEscape)

/-- The rest of a string, at most `n` characters and the quote. -/
def readQuoted : Nat → Source → Except Fault (List Char × Source)
  | 0, s => .error (s.here .endInString)
  | n + 1, s =>
    match s.rest with
    | [] => .error (s.here .endInString)
    | '"' :: _ => .ok ([], s.advance)
    | '\\' :: _ => do
      let (c, s) ← readEscape s.advance
      let (cs, s) ← readQuoted n s
      return (c :: cs, s)
    | c :: _ =>
      if c.toNat < 0x20 then .error (s.next .controlCharacter)
      else do
        let (cs, s) ← readQuoted n s.advance
        return (c :: cs, s)

/-- A string, the source standing at its first quote. -/
def readString (s : Source) : Except Fault (String × Source) := do
  let (cs, s) ← readQuoted s.rest.length s.advance
  return (String.ofList cs, s)

end Reveille.Json
