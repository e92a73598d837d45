import Reveille.Number.Shortest
import Reveille.Text.Digits

/-!
# Notation of numbers

How the digits of a number are laid out. Positional notation always shows a digit on both sides
of the point; scientific notation has an exponent with a sign.
-/

namespace Reveille.Number

open Reveille.Text

/-- Which numbers are laid out by place, told by the power of ten of the highest digit. -/
structure Layout where
  positional : Int → Bool

/-- Every number is laid out by place. -/
def Layout.plain : Layout := ⟨fun _ => true⟩

namespace Decimal

/-- The power of ten of the highest digit. -/
def highestPlace (d : Decimal) : Int :=
  (decimal d.digits).length - 1 + d.exponent

/-- The digits with the point in its place. -/
def positionalChars (d : Decimal) : List Char :=
  let ds := decimal d.digits
  let point := ds.length + d.exponent
  if 0 ≤ d.exponent then ds ++ List.replicate d.exponent.toNat '0' ++ ['.', '0']
  else if 0 < point then ds.take point.toNat ++ '.' :: ds.drop point.toNat
  else '0' :: '.' :: List.replicate (-point).toNat '0' ++ ds

/-- One digit before the point, if a point is needed, and the exponent. -/
def scientificChars (d : Decimal) : List Char :=
  let e := d.highestPlace
  let sign := if e < 0 then '-' else '+'
  let mantissa := match decimal d.digits with
    | c :: c' :: cs => c :: '.' :: c' :: cs
    | cs => cs
  mantissa ++ 'e' :: sign :: decimal e.natAbs

def chars (layout : Layout) (d : Decimal) : List Char :=
  if layout.positional d.highestPlace then d.positionalChars else d.scientificChars

end Decimal

/-- The shortest digits of a number under a layout. -/
def Binary64.chars (layout : Layout) (x : Binary64) : List Char :=
  (if x.negative then ['-'] else []) ++ x.magnitude.shortest.chars layout

end Reveille.Number
