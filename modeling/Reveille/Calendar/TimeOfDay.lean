import Reveille.Text.Blank
import Reveille.Text.Digits

/-!
# Times of day

A time of day is a second of the day and the nanoseconds after it. Within a leap second the
nanoseconds run on from one to two thousand million, so that it follows the second before it
and precedes the next.
-/

namespace Reveille.Calendar

open Reveille.Text

def nanosPerSecond : Nat := 1000000000

structure TimeOfDay where
  second : Nat
  nanos : Nat
deriving DecidableEq, Repr

namespace TimeOfDay

/-- The time of these fields, if they are in range; only the last second of a minute may hold
a leap second. -/
def ofFields? (hour minute second nanos : Nat) : Option TimeOfDay :=
  if hour < 24 ∧ minute < 60 ∧ second < 60 ∧
      (nanos < nanosPerSecond ∨ second = 59 ∧ nanos < 2 * nanosPerSecond) then
    some ⟨3600 * hour + 60 * minute + second, nanos⟩
  else none

/-- Strictly earlier on the same day. -/
def before (a b : TimeOfDay) : Bool :=
  a.second < b.second || (a.second == b.second && a.nanos < b.nanos)

def hour (t : TimeOfDay) : Nat := t.second / 3600
def minute (t : TimeOfDay) : Nat := t.second / 60 % 60

/-- The second of the minute, 60 or above within a leap second. -/
def secondOfMinute (t : TimeOfDay) : Nat :=
  t.second % 60 + t.nanos / nanosPerSecond

/-- The fraction of a second: none, or 3, 6 or 9 digits, as few as show it. -/
def fractionText (t : TimeOfDay) : String :=
  let n := t.nanos % nanosPerSecond
  if n = 0 then ""
  else if n % 1000000 = 0 then "." ++ padded 3 (n / 1000000)
  else if n % 1000 = 0 then "." ++ padded 6 (n / 1000)
  else "." ++ padded 9 n

/-- `hh:mm:ss`, without the fraction. -/
def clockText (t : TimeOfDay) : String :=
  padded 2 t.hour ++ ":" ++ padded 2 t.minute ++ ":" ++ padded 2 t.secondOfMinute

/-- `hh:mm:ss` and the fraction. -/
def text (t : TimeOfDay) : String :=
  t.clockText ++ t.fractionText

def twoDigits? : List Char → Option Nat
  | [a, b] =>
    if a.isDigit && b.isDigit then some (10 * decimalValue a + decimalValue b) else none
  | _ => none

/-- The whole second a literal `hh[:mm[:ss]]` names. -/
def ofLiteral? (s : List Char) : Option TimeOfDay :=
  match ((split ':' s).map Piece.chars).mapM twoDigits? with
  | some [h] => ofFields? h 0 0 0
  | some [h, m] => ofFields? h m 0 0
  | some [h, m, s] => ofFields? h m s 0
  | _ => none

/-- Nanoseconds of the digits of a fraction, of which the first nine count. -/
def nanosOfFraction (digits : List Char) : Nat :=
  let ds := digits.take 9
  ofDigits ds * Nat.pow 10 (9 - ds.length)

/-- The time `hh:mm:ss[.fraction]`. Second 60 is a leap second. -/
def ofText? (s : List Char) : Option TimeOfDay :=
  let clock := s.takeWhile (· ≠ '.')
  let nanos := nanosOfFraction (s.drop (clock.length + 1))
  match ((split ':' clock).map Piece.chars).mapM twoDigits? with
  | some [h, m, 60] => ofFields? h m 59 (nanosPerSecond + nanos)
  | some [h, m, s] => ofFields? h m s nanos
  | _ => none

end TimeOfDay

end Reveille.Calendar
