import Reveille.Json.Fault

/-!
# JSON5 documents

What a JSON5 text says, before its strings and numbers are given a meaning. A text may be well
formed and still hold a string or a number that means nothing, which matters only to who asks
for it.
-/

namespace Reveille.Json5

open Reveille.Number

/-- A part of a string. -/
inductive Fragment where
  /-- A character that stands for itself. -/
  | char (c : Char)
  /-- A character after a backslash. -/
  | escaped (c : Char)
  /-- A character named by the eight bits of its number. -/
  | byte (bits : Nat)
  /-- Sixteen bits, which name a character or half of one. -/
  | unit (bits : Nat)
deriving DecidableEq, Repr

/-- The sign that a number is written with. -/
inductive Sign where
  | none
  | plus
  | minus
deriving DecidableEq, Repr

/-- A number without its sign. Digits are in the order in which they are written. -/
inductive Numeral where
  | hex (digits : List Char)
  /-- The digits before the point, those after it if there is a point, and the exponent. -/
  | decimal (whole : List Char) (fraction : Option (List Char)) (exponent : Option Int)
  | infinity
  | nan
deriving DecidableEq, Repr

inductive Document where
  | null
  | bool (value : Bool)
  | number (sign : Sign) (numeral : Numeral)
  | string (fragments : List Fragment)
  | array (items : List Document)
  | object (members : List (List Fragment × Document))
deriving Repr

end Reveille.Json5
