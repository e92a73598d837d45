import Reveille.Command.Output
import Reveille.Proofs.Condition.Elapsed
import Reveille.Proofs.Engine.History

/-!
# Forecasts after a quiet time

A forecast is told how long ago the motion before was, and turns that into a time and back again.
Both ways are clamped, and yet they cancel: only a length of time near the end of the range, on
both sides of the comparison, could tell the difference. So a forecast wakes whom a motion wakes
in a run whose only motion before it was so long ago and woke no one.
-/

namespace Reveille.Command

open Reveille.Calendar Reveille.Engine Reveille.Engine.History Reveille.Net

/-- What the rules of a forecast are checked against. -/
def Forecast.context (now : Instant) (idle : Nat) : Context :=
  .ofInstant now (some (secondsBefore now.epoch idle)) .empty

theorem inactiveFor_secondsBefore_iff {now : Int} {idle seconds : Nat} :
    inactiveFor seconds (some (secondsBefore now idle)) now = true ↔
      seconds < idle ∧ (seconds : Int) < maxSeconds ∧ (seconds : Int) < now - minSeconds := by
  rw [inactiveFor_iff, secondsBefore, clampSeconds, minSeconds_eq, maxSeconds_eq]
  omega

theorem check_inactiveFor {b : BoundCondition} {seconds : Nat}
    (asks : b.condition = .inactiveFor seconds) (ctx : Context) :
    b.check ctx = inactiveFor seconds ctx.previousMotion ctx.epoch := by
  rw [BoundCondition.check, asks]

/-- The two lengths of time are not both near the end of the range. -/
def Comparable (idle seconds : Nat) : Prop :=
  idle ≤ 2 ^ 62 ∨ seconds ≤ 2 ^ 62

theorem inactive_iff_lt_idle {now : Instant} {idle seconds : Nat} {b : BoundCondition}
    (dated : Instant.isDated now.epoch = true) (asks : b.condition = .inactiveFor seconds)
    (comparable : Comparable idle seconds) :
    b.check (Forecast.context now idle) = true ↔ seconds < idle := by
  rw [check_inactiveFor asks]
  refine inactiveFor_secondsBefore_iff.trans (and_iff_left_of_imp fun longer => ?_)
  rw [Instant.isDated_iff] at dated
  have small : seconds ≤ 2 ^ 62 := by
    rcases comparable with idle | seconds
    · omega
    · exact seconds
  rw [minSeconds_eq, maxSeconds_eq]
  omega

theorem monotone_inactive {seconds : Nat} {b : BoundCondition} (now : Instant)
    (asks : b.condition = .inactiveFor seconds) :
    Monotone fun idle => b.check (Forecast.context now idle) := by
  intro idle idle' longer
  apply Bool.le_iff_imp.mpr
  show b.check _ = true → b.check _ = true
  rw [check_inactiveFor asks, check_inactiveFor asks]
  intro quiet
  obtain ⟨less, inRange⟩ := inactiveFor_secondsBefore_iff.mp quiet
  exact inactiveFor_secondsBefore_iff.mpr ⟨Nat.lt_of_lt_of_le less longer, inRange⟩

/-! ### The run that a forecast stands for -/

/-- A motion so many seconds before, which woke no one. -/
def quietFor (now : Instant) (idle : Nat) : History :=
  [(.motion ⟨now.epoch - idle, now.nanos, now.offset⟩, .woken [])]

theorem quiet_quietFor (now : Instant) (idle seconds : Nat) :
    Quiet (quietFor now idle) now seconds ↔ seconds < idle := by
  have last : latest? motionTime? (quietFor now idle) = some (now.epoch - idle) := rfl
  rw [Quiet, last]
  simp only [Option.mem_some_iff, exists_eq_left']
  omega

theorem due_quietFor (now : Instant) (idle : Nat) (host : Host) (seconds : Nat) :
    Due (quietFor now idle) now host seconds := by
  have none : latest? (wakeTime? host) (quietFor now idle) = none := rfl
  rw [Due, none]
  exact fun last found => by cases found

theorem check_context_iff {now : Instant} {idle : Nat} {c : Condition} (host : Host)
    (dated : Instant.isDated now.epoch = true)
    (comparable : ∀ seconds, c = .inactiveFor seconds → Comparable idle seconds) :
    (BoundCondition.ofCondition host c).check (Forecast.context now idle) = true ↔
      Means (quietFor now idle) now host c := by
  cases c with
  | dayOfWeek days => exact List.contains_iff_mem
  | timeBetween start stop => exact Bool.and_eq_true_iff
  | inactiveFor seconds =>
    rw [inactive_iff_lt_idle dated rfl (comparable seconds rfl)]
    exact (quiet_quietFor now idle seconds).symm
  | holdOff seconds => exact iff_of_true rfl (due_quietFor now idle host seconds)

theorem holds_context_iff {now : Instant} {idle : Nat} {r : Rule}
    (dated : Instant.isDated now.epoch = true) (own : r.AsksOwnHost)
    (comparable : ∀ b ∈ r.conditions.leaves, ∀ seconds, b.condition = .inactiveFor seconds →
      Comparable idle seconds) :
    (r.enabled && r.holds (Forecast.context now idle)) = true ↔ Fires (quietFor now idle) now r := by
  have conditions : r.conditions.holds (Forecast.context now idle) = true ↔
      r.conditions.Sat fun b => Means (quietFor now idle) now r.host b.condition := by
    refine When.eval_iff_sat fun b mem => ?_
    obtain ⟨c, rfl⟩ := own b mem
    exact check_context_iff r.host dated (comparable _ mem)
  have elapsed : r.holds (Forecast.context now idle) =
      r.conditions.holds (Forecast.context now idle) := Bool.true_and _
  rw [Bool.and_eq_true, elapsed, conditions, Fires]
  exact and_congr_right' (iff_and_self.mpr fun _ => due_quietFor now idle r.host r.holdOff)

/-- In the context of a forecast a condition on the quiet time says that it was longer, unless
both lengths of time are near the end of the range; and never does a longer one make it false. So
the forecast shows the hosts of the rules that have to fire after a motion so long ago. -/
theorem forecast_of_idle :
    (∀ (rules : List Rule) (now : Instant) (idle : Nat),
      (Forecast.make rules now (some idle)).wake =
        (Registry.wakes (Forecast.context now idle) ⟨rules⟩).map Host.text) ∧
    (∀ (now : Instant) (idle seconds : Nat) (b : BoundCondition),
      Instant.isDated now.epoch = true → b.condition = .inactiveFor seconds →
      idle ≤ 2 ^ 62 ∨ seconds ≤ 2 ^ 62 →
      (b.check (Forecast.context now idle) = true ↔ idle > seconds)) ∧
    (∀ (now : Instant) (seconds : Nat) (b : BoundCondition),
      b.condition = .inactiveFor seconds →
      Monotone fun idle => b.check (Forecast.context now idle)) ∧
    ∀ (rules : List Rule) (now : Instant) (idle : Nat), (∀ r ∈ rules, r.Built) →
      Instant.isDated now.epoch = true →
      (∀ r ∈ rules, ∀ b ∈ r.conditions.leaves, ∀ seconds, b.condition = .inactiveFor seconds →
        idle ≤ 2 ^ 62 ∨ seconds ≤ 2 ^ 62) →
      (Forecast.make rules now (some idle)).wake =
        (rules.filter fun r => Fires (quietFor now idle) now r).map fun r => r.host.text := by
  refine ⟨fun _ _ _ => rfl, fun now idle seconds b dated asks comparable =>
    inactive_iff_lt_idle dated asks comparable,
    fun now seconds b asks => monotone_inactive now asks, ?_⟩
  intro rules now idle built dated comparable
  have shown : (Forecast.make rules now (some idle)).wake =
      (Registry.wakes (Forecast.context now idle) ⟨rules⟩).map Host.text := rfl
  have same : ∀ r ∈ rules, (r.enabled && r.holds (Forecast.context now idle)) =
      decide (Fires (quietFor now idle) now r) := by
    intro r mem
    rw [Bool.eq_iff_iff, decide_eq_true_iff]
    exact holds_context_iff dated (built r mem).asksOwnHost (comparable r mem)
  rw [shown, Registry.wakes, List.filter_congr same, List.map_map]
  rfl

/-- The desk after the longest time that is always told apart, the printer unless it was quiet. -/
def hallway : List Rule :=
  [Rule.make desk 0 ⟨[.leaf (.inactiveFor (2 ^ 62))]⟩,
    Rule.make printer 60 ⟨[.not (.leaf (.inactiveFor 600))]⟩]

/-- At the first second that has a date. -/
theorem forecast_of_idle_first :
    let now := Instant.ofEpoch Instant.firstEpoch
    let quiet (seconds : Nat) := BoundCondition.ofCondition desk (.inactiveFor seconds)
    Instant.isDated now.epoch = true ∧
    (quiet 5).check (Forecast.context now (2 ^ 64 - 1)) = true ∧
    (quiet (2 ^ 64 - 1)).check (Forecast.context now (2 ^ 62)) = false ∧
    (Forecast.make hallway now (some (2 ^ 64 - 1))).wake = [desk.text] := by
  intro now quiet
  obtain ⟨-, exact, -, whole⟩ := forecast_of_idle
  have long := exact now (2 ^ 64 - 1) 5 (quiet 5) rfl rfl (.inr (by decide))
  have short := exact now (2 ^ 62) (2 ^ 64 - 1) (quiet (2 ^ 64 - 1)) rfl rfl (.inl (Nat.le_refl _))
  have built : ∀ r ∈ hallway, r.Built := by
    intro r mem
    simp only [hallway, List.mem_cons, List.not_mem_nil, or_false] at mem
    rcases mem with rfl | rfl <;> exact .make _ _ _
  have comparable : ∀ r ∈ hallway, ∀ b ∈ r.conditions.leaves, ∀ seconds,
      b.condition = .inactiveFor seconds → 2 ^ 64 - 1 ≤ 2 ^ 62 ∨ seconds ≤ 2 ^ 62 := by
    intro r among b mem seconds asks
    simp only [hallway, List.mem_cons, List.not_mem_nil, or_false] at among
    rcases among with rfl | rfl <;> obtain rfl := List.mem_singleton.mp mem <;> cases asks <;>
      exact .inr (by decide)
  refine ⟨rfl, long.mpr (by decide), ?_, ?_⟩
  · exact Bool.eq_false_iff.mpr fun shorter => absurd (short.mp shorter) (by decide)
  · exact (whole hallway now (2 ^ 64 - 1) built rfl comparable).trans (by decide)

end Reveille.Command
