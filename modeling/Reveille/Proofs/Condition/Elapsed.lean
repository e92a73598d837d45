import Mathlib.Algebra.Group.Nat.Defs
import Mathlib.Data.Int.ConditionallyCompleteOrder
import Mathlib.Order.ConditionallyCompleteLattice.Basic
import Reveille.Proofs.Condition.Meaning

/-!
# Clamped seconds and exact ones

The seconds gone by and the seconds asked for are clamped to 64 bits before they are compared.
Short of the end of that range both comparisons are those of the exact numbers, and everywhere
they change in one direction only.
-/

namespace Reveille

open Reveille.Calendar

/-- A comparison of seconds with those between two times that only time going by makes true: a
later time now, an earlier time before, or fewer seconds never make it false. -/
structure TimeTells (test : Nat → Int → Int → Bool) : Prop where
  now : ∀ seconds since, Monotone fun now => test seconds since now
  since : ∀ seconds now, Antitone fun since => test seconds since now
  seconds : ∀ since now, Antitone fun seconds => test seconds since now

theorem timeTells_of_imp {test : Nat → Int → Int → Bool}
    (kept : ∀ {seconds seconds' since since' now now'}, seconds' ≤ seconds → since' ≤ since →
      now ≤ now' → test seconds since now = true → test seconds' since' now' = true) :
    TimeTells test where
  now _ _ _ _ later := Bool.le_iff_imp.mpr (kept (Nat.le_refl _) (Int.le_refl _) later)
  since _ _ _ _ earlier := Bool.le_iff_imp.mpr (kept (Nat.le_refl _) earlier (Int.le_refl _))
  seconds _ _ _ _ fewer := Bool.le_iff_imp.mpr (kept fewer (Int.le_refl _) (Int.le_refl _))

theorem timeTells_inactiveFor :
    TimeTells fun seconds since now => inactiveFor seconds (some since) now := by
  apply timeTells_of_imp
  intro seconds seconds' since since' now now' fewer earlier later quiet
  obtain ⟨gone, short⟩ := inactiveFor_iff.mp quiet
  exact inactiveFor_iff.mpr ⟨by omega, by omega⟩

theorem timeTells_holdOffElapsed :
    TimeTells fun seconds last now => holdOffElapsed seconds (some last) now := by
  apply timeTells_of_imp
  intro seconds seconds' last last' now now' fewer earlier later elapsed
  apply holdOffElapsed_iff.mpr
  rcases holdOffElapsed_iff.mp elapsed with gone | far
  · left
    omega
  · right
    omega

/-- Short of the end of the range, clamped seconds compare as exact ones do. Two seconds that have
dates are always short of it. On the whole range, time tells. -/
theorem elapsed_exact_and_monotone :
    (∀ (seconds : Nat) (previous now : Int), now - previous < 2 ^ 63 - 1 →
      (inactiveFor seconds (some previous) now = true ↔ now - previous > (seconds : Int)) ∧
      (holdOffElapsed seconds (some previous) now = true ↔ now - previous ≥ (seconds : Int))) ∧
    (∀ previous now : Int, Instant.isDated previous = true → Instant.isDated now = true →
      now - previous < 2 ^ 63 - 1) ∧
    TimeTells (fun seconds previous now => inactiveFor seconds (some previous) now) ∧
    TimeTells fun seconds previous now => holdOffElapsed seconds (some previous) now := by
  have bound : (2 : Int) ^ 63 - 1 = maxSeconds := rfl
  rw [bound]
  refine ⟨?_, ?_, timeTells_inactiveFor, timeTells_holdOffElapsed⟩
  · intro seconds previous now near
    exact ⟨inactiveFor_some_iff near, holdOffElapsed_some_iff near⟩
  · intro previous now dated datedNow
    exact sub_lt_maxSeconds dated datedNow

/-- The greatest number of seconds there is, from the last time to the first one, and the last
second short of the end of the range. -/
theorem elapsed_exact_and_monotone_extremes :
    inactiveFor (2 ^ 64 - 1) (some (2 ^ 63 - 1)) (-2 ^ 63) = false ∧
    inactiveFor (2 ^ 63 - 3) (some 1) (2 ^ 63 - 1) = true ∧
    holdOffElapsed (2 ^ 63 - 2) (some 1) (2 ^ 63 - 1) = true ∧
    holdOffElapsed (2 ^ 63 - 1) (some 1) (2 ^ 63 - 1) = false := by
  obtain ⟨exact, -⟩ := elapsed_exact_and_monotone
  have back := (exact (2 ^ 64 - 1) (2 ^ 63 - 1) (-2 ^ 63) (by decide)).1
  have near : (2 : Int) ^ 63 - 1 - 1 < 2 ^ 63 - 1 := by decide
  refine ⟨?_, ?_, ?_, ?_⟩
  · exact Bool.eq_false_iff.mpr fun quiet => absurd (back.mp quiet) (by decide)
  · exact (exact (2 ^ 63 - 3) 1 (2 ^ 63 - 1) near).1.mpr (by decide)
  · exact (exact (2 ^ 63 - 2) 1 (2 ^ 63 - 1) near).2.mpr (by decide)
  · exact Bool.eq_false_iff.mpr fun elapsed =>
      absurd ((exact (2 ^ 63 - 1) 1 (2 ^ 63 - 1) near).2.mp elapsed) (by decide)

end Reveille
