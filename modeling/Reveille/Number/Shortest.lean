import Reveille.Number.Binary64

/-!
# Shortest decimals

The decimal that stands for a number is the one with the fewest digits that still reads back as
the number; of several, the one nearest to it. The grids of 1, 2, … 17 digits are tried in turn:
if any decimal of a grid reads back, so does one of the two next to the number.
-/

namespace Reveille.Number

/-- The number `digits * 10 ^ exponent`. -/
structure Decimal where
  digits : Nat
  exponent : Int
deriving DecidableEq, Repr

namespace Magnitude

/-- Whether a decimal reads back as the number, reckoned in quarters of the last place of its
significand. The limits are halfway to the neighbours, of which the lower one is twice as near
under a power of two; a limit itself reads back only if the significand is even. -/
def readsBack (m : Magnitude) (d : Decimal) : Bool :=
  let low := 4 * m.significand -
    (if m.significand = leastFull ∧ minExponent < m.exponent then 1 else 2)
  let high := 4 * m.significand + 2
  let (dn, dd) := if 0 ≤ d.exponent then (d.digits * Nat.pow 10 d.exponent.toNat, 1)
    else (d.digits, Nat.pow 10 (-d.exponent).toNat)
  let (n, k) := shifted dn dd (m.exponent - 2)
  if m.significand % 2 = 0 then low * k ≤ n && n ≤ high * k
  else low * k < n && n < high * k

/-- The power of ten of the highest digit of a number other than zero. -/
def highestPlace (m : Magnitude) : Int :=
  let guess := (m.significand.log2 + m.exponent) * 30103 / 100000
  let (n, d) := m.toQuotient
  let reaches (place : Int) : Bool :=
    if 0 ≤ place then d * Nat.pow 10 place.toNat ≤ n else d ≤ n * Nat.pow 10 (-place).toNat
  if reaches (guess + 1) then guess + 1 else if reaches guess then guess else guess - 1

/-- The two decimals next to the number on the grid of multiples of `10 ^ place`, the nearer
one first; of two equally near, the even one. -/
def neighbours (m : Magnitude) (place : Int) : List Decimal :=
  let (n, d) := m.toQuotient
  let (n, d) :=
    if 0 ≤ place then (n, d * Nat.pow 10 place.toNat) else (n * Nat.pow 10 (-place).toNat, d)
  let below := n / d
  let nearest := roundQuotient n d
  [⟨nearest, place⟩, ⟨if nearest = below then below + 1 else below, place⟩]

/-- Tries the grids of more and more digits, the highest at `top`. -/
def shortestFrom (m : Magnitude) (top : Int) : Nat → Nat → Decimal
  | 0, digits => (m.neighbours (top - digits)).headD ⟨0, 0⟩
  | fuel + 1, digits =>
    match (m.neighbours (top - digits)).find? m.readsBack with
    | some d => d
    | none => shortestFrom m top fuel (digits + 1)

/-- Without the zeros a decimal ends in, of which there are at most as many as `fuel`. -/
def stripZeros : Nat → Decimal → Decimal
  | 0, d => d
  | fuel + 1, d =>
    if d.digits ≠ 0 ∧ d.digits % 10 = 0 then stripZeros fuel ⟨d.digits / 10, d.exponent + 1⟩ else d

def shortest (m : Magnitude) : Decimal :=
  if m.isZero then ⟨0, 0⟩ else stripZeros 17 (shortestFrom m m.highestPlace 16 0)

end Magnitude

end Reveille.Number
