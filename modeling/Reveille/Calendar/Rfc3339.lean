import Reveille.Calendar.Instant

/-!
# RFC 3339 timestamps

`read` takes `yyyy-mm-ddThh:mm:ss[.fraction](Z|±hh:mm)` apart from left to right and says which
fault it met first; `Instant.text` writes one. A blank may stand for the `T`, and second 60
is a leap second.
-/

namespace Reveille.Calendar

open Reveille.Text

inductive TimestampError where
  | tooShort
  | invalid
  | outOfRange
  | trailing
deriving DecidableEq, Repr

def TimestampError.message : TimestampError → String
  | .tooShort => "premature end of input"
  | .invalid => "input contains invalid characters"
  | .outOfRange => "input is out of range"
  | .trailing => "trailing input"

namespace Timestamp

/-- The digit a text starts with, and the rest of the text. -/
def readDigit : List Char → Except TimestampError (Nat × List Char)
  | [] => .error .tooShort
  | c :: cs => if c.isDigit then .ok (decimalValue c, cs) else .error .invalid

def readDigits : Nat → Nat → List Char → Except TimestampError (Nat × List Char)
  | 0, value, cs => .ok (value, cs)
  | n + 1, value, cs => do
    let (d, cs) ← readDigit cs
    readDigits n (10 * value + d) cs

/-- One of these characters. -/
def readMark (marks : List Char) : List Char → Except TimestampError (List Char)
  | [] => .error .tooShort
  | c :: cs => if c ∈ marks then .ok cs else .error .invalid

/-- The digits after a point, at least one. -/
def readFraction (s : List Char) : Except TimestampError (Nat × List Char) := do
  let _ ← readDigit s
  let digits := s.takeWhile Char.isDigit
  return (TimeOfDay.nanosOfFraction digits, s.dropWhile Char.isDigit)

/-- Hours and minutes east of UTC, in seconds. A minus sign is `-` or U+2212. -/
def readOffset : List Char → Except TimestampError (Int × List Char)
  | [] => .error .tooShort
  | c :: cs =>
    if c = 'Z' ∨ c = 'z' then .ok (0, cs)
    else if c = '+' ∨ c = '-' ∨ c = '\u2212' then
      match twoBytes cs with
      | .error e => .error e
      | .ok (h, cs) =>
        match readMark [':'] cs with
        | .error e => .error e
        | .ok cs =>
          match twoBytes cs with
          | .error e => .error e
          | .ok (m, cs) =>
            if 60 ≤ m then .error .outOfRange
            else
              let seconds : Int := 3600 * h + 60 * m
              .ok (if c = '+' then seconds else -seconds, cs)
    else .error .invalid
where
  /-- Two digits; a text of less than two bytes is too short, whatever it holds. -/
  twoBytes (cs : List Char) : Except TimestampError (Nat × List Char) :=
    if byteLength cs < 2 then .error .tooShort else readDigits 2 0 cs

/-- Offsets go up to this many seconds either way. -/
def maxOffset : Int := (23 * 60 + 59) * 60

/-- A timestamp, and nothing after it. -/
def read (s : List Char) : Except TimestampError Instant := do
  if byteLength s < 19 then throw .tooShort
  let (year, s) ← readDigits 4 0 s
  let s ← readMark ['-'] s
  let (month, s) ← readDigits 2 0 s
  let s ← readMark ['-'] s
  let (day, s) ← readDigits 2 0 s
  let some date := Date.ofFields? year month day | throw .outOfRange
  let s ← readMark ['t', 'T', ' '] s
  let (hour, s) ← readDigits 2 0 s
  let s ← readMark [':'] s
  let (minute, s) ← readDigits 2 0 s
  let s ← readMark [':'] s
  let (second, s) ← readDigits 2 0 s
  let (nanos, s) ←
    match s with
    | '.' :: s => readFraction s
    | s => .ok (0, s)
  let (second, nanos) := if second = 60 then (59, nanosPerSecond + nanos) else (second, nanos)
  let some time := TimeOfDay.ofFields? hour minute second nanos | throw .outOfRange
  let (offset, s) ← readOffset s
  if maxOffset < offset.natAbs then throw .outOfRange
  if s ≠ [] then throw .trailing
  let clock : LocalTime := ⟨date.toDays, time⟩
  return ⟨clock.toSeconds - offset, nanos, offset⟩

/-- `±hh:mm`, with `:ss` only where the offset is not on a whole minute. -/
def offsetText (offset : Int) : String :=
  let n := offset.natAbs
  let sign := if offset < 0 then "-" else "+"
  let seconds := if n % 60 = 0 then "" else ":" ++ padded 2 (n % 60)
  sign ++ padded 2 (n / 3600) ++ ":" ++ padded 2 (n / 60 % 60) ++ seconds

/-- The local date and time with its offset. -/
def text (t : Instant) : String :=
  t.toLocal.textWith "T" ++ offsetText t.offset

end Timestamp

end Reveille.Calendar
