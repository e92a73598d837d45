import Reveille.Command.Output
import Reveille.Proofs.Engine.History

/-!
# Dry runs foretell motions

A dry run that is told of the motion before gives the hosts that a motion wakes. A forecast knows
of that motion only how long ago it was, and not whom it woke: it is right about all other hosts.
-/

namespace Reveille

open Reveille.Calendar Reveille.Command Reveille.Net

/-- Which of the chosen hosts are to be woken is settled by the wakes of theirs on record. -/
theorem Registry.filter_wakes_congr {reg : Registry} {ctx : Context} {wakes : HostLog}
    {chosen : Host → Bool} (own : ∀ r ∈ reg.rules, r.AsksOwnHost)
    (same : ∀ host, chosen host = true → wakes.get? host = ctx.wakes.get? host) :
    (reg.wakes { ctx with wakes }).filter chosen = (reg.wakes ctx).filter chosen := by
  rw [Registry.wakes, Registry.wakes, List.filter_map, List.filter_map, List.filter_filter,
    List.filter_filter]
  refine congrArg (List.map Rule.host) (List.filter_congr fun r mem => ?_)
  by_cases among : chosen r.host = true
  · rw [Rule.holds_congr (own r mem) (same r.host among)]
  · simp [among]

/-- Between seconds that have dates nothing is clamped. -/
theorem secondsBefore_of_dated {epoch : Int} {seconds : Nat}
    (dated : Instant.isDated epoch = true) (before : Instant.isDated (epoch - seconds) = true) :
    secondsBefore epoch seconds = epoch - seconds := by
  rw [Instant.isDated_iff] at dated before
  rw [secondsBefore, clampSeconds, minSeconds_eq, maxSeconds_eq]
  omega

namespace Engine

open History

/-- A motion right after another one wakes the hosts that a dry run before both of them gives, but
for those that the first one woke. -/
theorem onMotion_after_onMotion {e : Engine} (own : ∀ r ∈ e.registry.rules, r.AsksOwnHost)
    (earlier now : Instant) :
    ((e.onMotion earlier).1.onMotion now).2.filter (· ∉ (e.onMotion earlier).2) =
      (e.dryRun now (some earlier.epoch)).filter (· ∉ (e.onMotion earlier).2) := by
  have second : ((e.onMotion earlier).1.onMotion now).2 =
      e.registry.wakes { Context.ofInstant now (some earlier.epoch) e.wakes with
        wakes := (e.step (.motion earlier)).1.wakes } := rfl
  rw [second, dryRun]
  refine Registry.filter_wakes_congr own fun host spared => ?_
  rw [get?_wakes_motion]
  exact if_neg (of_decide_eq_true spared)

/-- At any point of a run, a motion wakes the hosts that a dry run gives that is told of the last
motion of the run, or of itself if there was none. Of a motion and another one after it, the
second wakes the hosts that a dry run in place of both gives, in order, but for those that the
first one woke; and that dry run is what a forecast shows. -/
theorem motion_foretold :
    (∀ (reg : Registry) (ops : List Op) (now : Instant),
      ((new reg).after ops).motion.last = latest? motionTime? ((new reg).trace ops) ∧
      (((new reg).after ops).onMotion now).2 = ((new reg).after ops).dryRun now
        (some (((new reg).after ops).motion.last.getD now.epoch))) ∧
    ∀ (rules : List Rule) (earlier now : Instant), (∀ r ∈ rules, r.Built) →
      (((new ⟨rules⟩).onMotion earlier).1.onMotion now).2.filter
          (· ∉ ((new ⟨rules⟩).onMotion earlier).2) =
        ((new ⟨rules⟩).dryRun now (some earlier.epoch)).filter
          (· ∉ ((new ⟨rules⟩).onMotion earlier).2) ∧
      ∀ idle : Nat, Instant.isDated now.epoch = true → Instant.isDated earlier.epoch = true →
        earlier.epoch = now.epoch - idle →
        (Forecast.make rules now (some idle)).wake =
          ((new ⟨rules⟩).dryRun now (some earlier.epoch)).map Host.text := by
  refine ⟨fun reg ops now => ⟨((records_new reg).run ops).motion, rfl⟩,
    fun rules earlier now built => ⟨?_, fun idle dated before ago => ?_⟩⟩
  · exact onMotion_after_onMotion (fun r mem => (built r mem).asksOwnHost) earlier now
  · rw [ago] at before ⊢
    rw [← secondsBefore_of_dated dated before]
    rfl

/-- The printer is held off after its first wake, which a forecast cannot know. -/
def lobby : List Rule :=
  [Rule.make printer 1000 ⟨[]⟩, Rule.make desk 0 ⟨[.leaf (.inactiveFor 600)]⟩]

theorem motion_foretold_lobby : (∀ r ∈ lobby, r.Built) ∧
    Instant.isDated 1700000700 = true ∧ Instant.isDated 1700000000 = true ∧
    (1700000000 : Int) = 1700000700 - (700 : Nat) ∧
    (((new ⟨lobby⟩).onMotion (.ofEpoch 1700000000)).1.onMotion (.ofEpoch 1700000700)).2.filter
      (· ∉ ((new ⟨lobby⟩).onMotion (.ofEpoch 1700000000)).2) = [desk] ∧
    (Forecast.make lobby (.ofEpoch 1700000700) (some 700)).wake = [printer.text, desk.text] := by
  have built : ∀ r ∈ lobby, r.Built := by
    simp only [lobby, List.mem_cons, List.not_mem_nil, or_false, forall_eq_or_imp, forall_eq]
    exact ⟨.make _ _ _, .make _ _ _⟩
  obtain ⟨others, forecast⟩ :=
    motion_foretold.2 lobby (.ofEpoch 1700000000) (.ofEpoch 1700000700) built
  exact ⟨built, rfl, rfl, rfl, others.trans (by decide), forecast 700 rfl rfl rfl⟩

end Engine

end Reveille
