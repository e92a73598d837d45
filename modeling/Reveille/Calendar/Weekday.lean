import Reveille.Text.Likeness

/-!
# Weekdays

The seven weekdays with the two names each goes by.
-/

namespace Reveille.Calendar

inductive Weekday where
  | mon | tue | wed | thu | fri | sat | sun
deriving DecidableEq, Repr

namespace Weekday

/-- The weekdays, Monday first. -/
def all : List Weekday :=
  [mon, tue, wed, thu, fri, sat, sun]

/-- The name written out. -/
def fullName : Weekday → String
  | mon => "Monday"
  | tue => "Tuesday"
  | wed => "Wednesday"
  | thu => "Thursday"
  | fri => "Friday"
  | sat => "Saturday"
  | sun => "Sunday"

/-- The name of three letters. -/
def shortName : Weekday → String
  | mon => "Mon"
  | tue => "Tue"
  | wed => "Wed"
  | thu => "Thu"
  | fri => "Fri"
  | sat => "Sat"
  | sun => "Sun"

/-- The weekday of this full or short name, letter case included. -/
def ofName? (name : List Char) : Option Weekday :=
  all.find? fun d => d.fullName.toList = name || d.shortName.toList = name

/-- The weekday name a misspelled one may have meant. -/
def nearestName? (name : List Char) : Option String :=
  Text.closest? name (all.flatMap fun d => [d.fullName, d.shortName])

/-- The weekday `n` days after a Monday. -/
def ofNumber (n : Nat) : Weekday :=
  match n % 7 with
  | 0 => mon
  | 1 => tue
  | 2 => wed
  | 3 => thu
  | 4 => fri
  | 5 => sat
  | _ => sun

end Weekday

end Reveille.Calendar
