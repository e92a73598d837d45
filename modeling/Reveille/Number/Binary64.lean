/-!
# Numbers of the format binary64

A finite number is a sign, a significand below `2 ^ 53` and a power of two. Every operation is
carried out exactly and then rounded once, to the nearest number of the format; of two that are
equally near, the one with the even significand is taken.
-/

namespace Reveille.Number

/-- A number that is not negative: `significand * 2 ^ exponent`. The exponent is -1074, or as
small as it can be with a significand of 53 bits. -/
structure Magnitude where
  significand : Nat
  exponent : Int
deriving DecidableEq, Repr

structure Binary64 where
  negative : Bool
  magnitude : Magnitude
deriving DecidableEq, Repr

/-- The quotient rounded to a whole number, a half to the even one. -/
def roundQuotient (num den : Nat) : Nat :=
  let q := num / den
  let r := num % den
  if den < 2 * r ∨ (den = 2 * r ∧ q % 2 = 1) then q + 1 else q

/-- `num / den * 2 ^ (-shift)` as a quotient of whole numbers. -/
def shifted (num den : Nat) (shift : Int) : Nat × Nat :=
  if 0 ≤ shift then (num, den * Nat.pow 2 shift.toNat) else (num * Nat.pow 2 (-shift).toNat, den)

namespace Magnitude

def minExponent : Int := -1074

def maxExponent : Int := 971

/-- The least significand of 53 bits. -/
def leastFull : Nat := Nat.pow 2 52

def zero : Magnitude := ⟨0, minExponent⟩

def isZero (m : Magnitude) : Bool := m.significand == 0

/-- The exponent at which the quotient has a significand of 53 bits, or the least one. -/
def fittingExponent (num den : Nat) : Int :=
  let guess : Int := max ((num.log2 : Int) - den.log2 - 52) minExponent
  let (n, d) := shifted num den guess
  if n < d * leastFull then max (guess - 1) minExponent else guess

/-- The number nearest to a quotient, unless the quotient is too large for the format. -/
def ofQuotient? (num den : Nat) : Option Magnitude :=
  if num = 0 then some zero
  else
    let e := fittingExponent num den
    let (n, d) := shifted num den e
    let s := roundQuotient n d
    let m : Magnitude := if s = 2 * leastFull then ⟨leastFull, e + 1⟩ else ⟨s, e⟩
    if maxExponent < m.exponent then none else some m

def toQuotient (m : Magnitude) : Nat × Nat :=
  if 0 ≤ m.exponent then (m.significand * Nat.pow 2 m.exponent.toNat, 1)
  else (m.significand, Nat.pow 2 (-m.exponent).toNat)

def mul? (a b : Magnitude) : Option Magnitude :=
  let (an, ad) := a.toQuotient
  let (bn, bd) := b.toQuotient
  ofQuotient? (an * bn) (ad * bd)

def div? (a b : Magnitude) : Option Magnitude :=
  let (an, ad) := a.toQuotient
  let (bn, bd) := b.toQuotient
  ofQuotient? (an * bd) (ad * bn)

def ofTen? (n : Nat) : Option Magnitude :=
  ofQuotient? (Nat.pow 10 n) 1

/-- The number nearest to `digits * 10 ^ exponent`, unless that is too large. A value whose
highest digit stands so far right of the point that it rounds to zero is not written out. -/
def ofDecimal? (digits : Nat) (exponent : Int) : Option Magnitude :=
  let highest := (Nat.toDigits 10 digits).length + exponent
  if digits = 0 ∨ highest < -400 then some zero
  else if 400 < highest then none
  else if 0 ≤ exponent then ofQuotient? (digits * Nat.pow 10 exponent.toNat) 1
  else ofQuotient? digits (Nat.pow 10 (-exponent).toNat)

/-- The whole part of the number. -/
def floor (m : Magnitude) : Nat :=
  let (n, d) := m.toQuotient
  n / d

def isWhole (m : Magnitude) : Bool :=
  let (n, d) := m.toQuotient
  n % d == 0

end Magnitude

namespace Binary64

def zero : Binary64 := ⟨false, .zero⟩

end Binary64

end Reveille.Number
