import Mathlib.Tactic.Ring
import Reveille.Number.Binary64
import Reveille.Text.Digits

/-!
# Whole numbers in binary64

A whole number of at most 53 bits is a number of the format. Above that the numbers of the format
lie apart by a power of two, and a whole number becomes the nearest of them.
-/

namespace Reveille.Number

open Reveille.Text

/-- How far the numbers of the format around a whole number lie apart, one at least. -/
def wholeStep (n : Nat) : Nat :=
  2 ^ (n.log2 - 52)

/-- The number of the format that is nearest to a whole number. -/
def nearestWhole (n : Nat) : Nat :=
  roundQuotient n (wholeStep n) * wholeStep n

/-! ### Rounding of quotients -/

theorem roundQuotient_of_mod_eq_zero {num den : Nat} (pos : 0 < den) (whole : num % den = 0) :
    roundQuotient num den = num / den := by
  unfold roundQuotient
  rw [whole]
  exact if_neg (by omega)

@[simp] theorem roundQuotient_one (n : Nat) : roundQuotient n 1 = n := by
  rw [roundQuotient_of_mod_eq_zero Nat.one_pos (Nat.mod_one n), Nat.div_one]

/-! ### The step -/

theorem wholeStep_pos (n : Nat) : 0 < wholeStep n :=
  Nat.two_pow_pos _

theorem wholeStep_of_log2_le {n : Nat} (small : n.log2 ≤ 52) : wholeStep n = 1 := by
  rw [wholeStep, Nat.sub_eq_zero_of_le small, Nat.pow_zero]

theorem nearestWhole_eq_iff {n : Nat} : nearestWhole n = n ↔ wholeStep n ∣ n := by
  constructor
  · exact fun same => ⟨roundQuotient n (wholeStep n), by rw [Nat.mul_comm]; exact same.symm⟩
  · intro fits
    rw [nearestWhole, roundQuotient_of_mod_eq_zero (wholeStep_pos n) (Nat.mod_eq_zero_of_dvd fits)]
    exact Nat.div_mul_cancel fits

/-! ### Shifts -/

theorem shifted_natCast (num den k : Nat) : shifted num den k = (num, den * 2 ^ k) := by
  rw [shifted, if_pos (Int.natCast_nonneg k)]
  rfl

theorem shifted_neg {k : Nat} (pos : 0 < k) (num den : Nat) :
    shifted num den (-(k : Int)) = (num * 2 ^ k, den) := by
  rw [shifted, if_neg (by omega), Int.neg_neg]
  rfl

namespace Magnitude

theorem leastFull_eq : leastFull = 2 ^ 52 := rfl

theorem floor_natCast (s k : Nat) : floor ⟨s, k⟩ = s * 2 ^ k := by
  rw [floor, toQuotient, if_pos (Int.natCast_nonneg k)]
  exact Nat.div_one _

theorem floor_neg {k : Nat} (pos : 0 < k) (s : Nat) : floor ⟨s, -(k : Int)⟩ = s / 2 ^ k := by
  rw [floor, toQuotient, if_neg (by simp only; omega)]
  simp only [Int.neg_neg]
  rfl

theorem floor_of_significand {m : Magnitude} (none : m.significand = 0) : m.floor = 0 := by
  unfold floor toQuotient
  rw [none, Nat.zero_mul]
  by_cases up : 0 ≤ m.exponent
  · rw [if_pos up]
  · rw [if_neg up]
    exact Nat.zero_div _

/-- A rounded significand with its exponent. One that was rounded up to 54 bits moves to the next
exponent. -/
def settled (s : Nat) (e : Int) : Magnitude :=
  if s = 2 * leastFull then ⟨leastFull, e + 1⟩ else ⟨s, e⟩

theorem floor_settled_natCast (s k : Nat) : (settled s k).floor = s * 2 ^ k := by
  unfold settled
  by_cases carry : s = 2 * leastFull
  · have next : (k : Int) + 1 = ((k + 1 : Nat) : Int) := by omega
    rw [if_pos carry, next, floor_natCast, carry, Nat.pow_succ]
    ring
  · rw [if_neg carry, floor_natCast]

theorem floor_settled_neg {s k : Nat} (pos : 0 < k) (short : s ≠ 2 * leastFull) :
    (settled s (-(k : Int))).floor = s / 2 ^ k := by
  rw [settled, if_neg short, floor_neg pos]

theorem ofQuotient?_eq {num den n d : Nat} {e : Int} (some : num ≠ 0)
    (fits : fittingExponent num den = e) (quotient : shifted num den e = (n, d))
    (room : e < maxExponent) :
    ofQuotient? num den = Option.some (settled (roundQuotient n d) e) := by
  have kept : ∀ {m : Magnitude}, m.exponent ≤ maxExponent →
      (if maxExponent < m.exponent then none else Option.some m) = Option.some m :=
    fun below => if_neg (by omega)
  unfold ofQuotient?
  rw [if_neg some, fits]
  extract_lets e'
  subst e'
  rw [quotient]
  have below : (settled (roundQuotient n d) e).exponent ≤ maxExponent := by
    unfold settled
    split
    · exact room
    · exact Int.le_of_lt room
  exact kept below

/-! ### Reading of whole numbers -/

/-- The significand of a whole number has 53 bits if its exponent is 52 below its highest bit. -/
theorem fittingExponent_one {n : Nat} (some : n ≠ 0) :
    fittingExponent n 1 = (n.log2 : Int) - 52 := by
  have guess : max ((n.log2 : Int) - (Nat.log2 1 : Nat) - 52) minExponent = (n.log2 : Int) - 52 := by
    have one : Nat.log2 1 = 0 := by decide
    rw [one, minExponent]
    omega
  have reached := Nat.log2_self_le some
  unfold fittingExponent
  dsimp only
  rw [guess]
  by_cases small : n.log2 < 52
  · have full : (2 : Nat) ^ n.log2 * 2 ^ (52 - n.log2) = leastFull := by
      rw [← Nat.pow_add, leastFull_eq, show n.log2 + (52 - n.log2) = 52 by omega]
    have down : (n.log2 : Int) - 52 = -((52 - n.log2 : Nat) : Int) := by omega
    rw [down, shifted_neg (by omega)]
    refine if_neg ?_
    rw [Nat.one_mul, ← full]
    exact Nat.not_lt.mpr (Nat.mul_le_mul_right _ reached)
  · have full : (2 : Nat) ^ (n.log2 - 52) * leastFull = 2 ^ n.log2 := by
      rw [leastFull_eq, ← Nat.pow_add, show n.log2 - 52 + 52 = n.log2 by omega]
    have up : (n.log2 : Int) - 52 = ((n.log2 - 52 : Nat) : Int) := by omega
    rw [up, shifted_natCast]
    refine if_neg ?_
    rw [Nat.one_mul, full]
    exact Nat.not_lt.mpr reached

theorem ofQuotient?_one {n : Nat} (bits : n.log2 < 1000) :
    ∃ m, ofQuotient? n 1 = some m ∧ m.floor = nearestWhole n := by
  by_cases none : n = 0
  · subst none
    exact ⟨zero, if_pos rfl, (floor_of_significand rfl).trans (Nat.zero_mul _).symm⟩
  have fits := fittingExponent_one none
  have room : (n.log2 : Int) - 52 < maxExponent := by
    rw [maxExponent]
    omega
  by_cases small : n.log2 < 52
  · have down : (n.log2 : Int) - 52 = -((52 - n.log2 : Nat) : Int) := by omega
    rw [down] at fits room
    have short : n * 2 ^ (52 - n.log2) ≠ 2 * leastFull := by
      have full : 2 * leastFull = (2 : Nat) ^ (n.log2 + 1) * 2 ^ (52 - n.log2) := by
        rw [leastFull_eq, ← Nat.pow_succ', ← Nat.pow_add,
          show n.log2 + 1 + (52 - n.log2) = 52 + 1 by omega]
      rw [full]
      exact Nat.ne_of_lt (Nat.mul_lt_mul_of_pos_right Nat.lt_log2_self (Nat.two_pow_pos _))
    refine ⟨_, ofQuotient?_eq none fits (shifted_neg (by omega) n 1) room, ?_⟩
    rw [roundQuotient_one, floor_settled_neg (by omega) short,
      Nat.mul_div_cancel _ (Nat.two_pow_pos _), nearestWhole, wholeStep_of_log2_le (by omega),
      roundQuotient_one, Nat.mul_one]
  · have up : (n.log2 : Int) - 52 = ((n.log2 - 52 : Nat) : Int) := by omega
    rw [up] at fits room
    refine ⟨_, ofQuotient?_eq none fits (shifted_natCast n 1 _) room, ?_⟩
    rw [floor_settled_natCast, Nat.one_mul, nearestWhole, wholeStep]

end Magnitude

/-! ### Words -/

theorem log2_lt_of_le_maxWord {n : Nat} (word : n ≤ maxWord) : n.log2 < 64 := by
  have bound : n < 2 ^ 64 := Nat.lt_of_le_of_lt word (by decide)
  by_cases none : n = 0
  · rw [none]
    decide
  · exact (Nat.log2_lt none).mpr bound

theorem Magnitude.ofDecimal?_word {n : Nat} (word : n ≤ maxWord) :
    ∃ m, ofDecimal? n 0 = some m ∧ m.floor = nearestWhole n := by
  have short : (Nat.toDigits 10 n).length ≤ 20 :=
    (Nat.length_toDigits_le_iff (by decide) (by decide)).mpr
      (Nat.lt_of_le_of_lt word (by decide))
  by_cases none : n = 0
  · subst none
    refine ⟨zero, ?_, (floor_of_significand rfl).trans (Nat.zero_mul _).symm⟩
    unfold ofDecimal?
    exact if_pos (.inl rfl)
  · have written : ofDecimal? n 0 = ofQuotient? n 1 := by
      unfold ofDecimal?
      rw [if_neg (by omega), if_neg (by omega), if_pos (Int.le_refl 0)]
      exact congrArg (ofQuotient? · 1) (Nat.mul_one n)
    rw [written]
    exact ofQuotient?_one (Nat.lt_of_lt_of_le (log2_lt_of_le_maxWord word) (by decide))

theorem nearestWhole_maxWord : min (nearestWhole maxWord) maxWord = maxWord := by
  decide

/-- A whole number of 64 bits comes back if it is a number of the format. The greatest one comes
back as well, for what it is rounded up to is cut. -/
theorem min_nearestWhole_eq_iff {n : Nat} (word : n ≤ maxWord) :
    min (nearestWhole n) maxWord = n ↔ wholeStep n ∣ n ∨ n = maxWord := by
  constructor
  · intro same
    rcases Nat.lt_or_eq_of_le word with below | greatest
    · refine .inl (nearestWhole_eq_iff.mp ?_)
      omega
    · exact .inr greatest
  · rintro (fits | rfl)
    · rw [nearestWhole_eq_iff.mpr fits]
      exact Nat.min_eq_left word
    · exact nearestWhole_maxWord

end Reveille.Number
