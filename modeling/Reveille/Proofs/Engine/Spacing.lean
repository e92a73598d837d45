import Reveille.Proofs.Engine.Run

/-!
# The time between two wakes

A rule is held against the last wake on record only. Wakes on record never get earlier, also if
the clock does, so the rule keeps its distance to every wake before.
-/

namespace Reveille

open Reveille.Calendar Reveille.Net

/-- The hold-off has gone by at a time, no matter how the clock got there. -/
theorem le_of_holdOffElapsed {seconds : Nat} {last now : Int}
    (elapsed : holdOffElapsed seconds (some last) now = true) : last ≤ now := by
  rw [holdOffElapsed_iff, maxSeconds_eq] at elapsed
  omega

namespace Engine

variable {e : Engine} {ops : List Op} {now : Instant} {host : Host} {r : Rule} {epoch : Int}

theorem holdOffElapsed_of_firing (fires : r ∈ e.firing now) :
    holdOffElapsed r.holdOff (e.wakes.get? r.host) now.epoch = true := by
  have holds := (List.mem_filter.mp fires).2
  rw [Bool.and_eq_true, Rule.holds, Bool.and_eq_true] at holds
  exact holds.2.1

/-- A wake of the host is on record, at this time or later. -/
def WokenSince (host : Host) (epoch : Int) (e : Engine) : Prop :=
  ∃ last, e.wakes.get? host = some last ∧ epoch ≤ last

theorem step_wokenSince (e : Engine) (op : Op) (woken : e.WokenSince host epoch) :
    (e.step op).1.WokenSince host epoch := by
  obtain ⟨last, found, since⟩ := woken
  cases op with
  | motion now =>
    unfold WokenSince
    rw [get?_wakes_motion]
    split
    · next wakes =>
      obtain ⟨r, fires, rfl⟩ := List.mem_map.mp wakes
      have elapsed := holdOffElapsed_of_firing fires
      rw [found] at elapsed
      exact ⟨now.epoch, rfl, Int.le_trans since (le_of_holdOffElapsed elapsed)⟩
    · exact ⟨last, found, since⟩
  | _ => exact ⟨last, found, since⟩

theorem after_wokenSince (woken : e.WokenSince host epoch) (ops : List Op) :
    (e.after ops).WokenSince host epoch :=
  after_of_step step_wokenSince woken ops

theorem wokenSince_of_le {i j : Nat} (order : i ≤ j)
    (woken : (e.after (ops.take i)).WokenSince host epoch) :
    (e.after (ops.take j)).WokenSince host epoch := by
  have cut := List.take_append_drop i (ops.take j)
  rw [List.take_take, Nat.min_eq_left order] at cut
  rw [← cut, after_append]
  exact after_wokenSince woken _

theorem wokenSince_of_motion (wakes : host ∈ (e.firing now).map Rule.host) :
    (e.step (.motion now)).1.WokenSince host now.epoch :=
  ⟨now.epoch, by rw [get?_wakes_motion, if_pos wakes], Int.le_refl _⟩

/-- A rule that fires keeps its hold-off to every earlier wake of its host in the run, by
whichever rule, and the wakes on record never get earlier. -/
theorem spacing_of_wakes (e : Engine) (ops : List Op)
    (dated : ∀ now, .motion now ∈ ops → Instant.isDated now.epoch = true) :
    (∀ (i j : Nat) (earlier now : Instant) (hosts : List Host) (r : Rule), i < j →
      (e.trace ops)[i]? = some (.motion earlier, .woken hosts) → r.host ∈ hosts →
      ops[j]? = some (.motion now) → r ∈ (e.after (ops.take j)).firing now →
      (r.holdOff : Int) ≤ now.epoch - earlier.epoch) ∧
    ∀ (i j : Nat) (host : Host) (last : Int), i ≤ j →
      (e.after (ops.take i)).wakes.get? host = some last →
      ∃ last', (e.after (ops.take j)).wakes.get? host = some last' ∧ last ≤ last' := by
  refine ⟨fun i j earlier now hosts r order first wakes event fires => ?_,
    fun i j host last order found => wokenSince_of_le order ⟨last, found, Int.le_refl last⟩⟩
  obtain ⟨asked, answer⟩ := motion_of_getElem?_trace first
  obtain rfl := Reply.woken.inj answer
  have woken : (e.after (ops.take (i + 1))).WokenSince r.host earlier.epoch := by
    rw [after_take_succ e asked]
    exact wokenSince_of_motion wakes
  obtain ⟨last, found, since⟩ := wokenSince_of_le order woken
  have elapsed := holdOffElapsed_of_firing fires
  rw [found] at elapsed
  have near : now.epoch - earlier.epoch < maxSeconds :=
    sub_lt_maxSeconds (dated _ (List.mem_of_getElem? asked)) (dated _ (List.mem_of_getElem? event))
  have spaced := (holdOffElapsed_some_iff (by omega)).mp elapsed
  omega

theorem spacing_of_wakes_morning :
    (∀ now, .motion now ∈ morning → Instant.isDated now.epoch = true) ∧
    ((new office).trace morning)[0]? =
      some (.motion (.ofEpoch 1700000000), .woken [desk, printer]) ∧
    Rule.make desk 60 ⟨[]⟩ ∈ ((new office).after (morning.take 6)).firing (.ofEpoch 1700000700) ∧
    (60 : Int) ≤ 1700000700 - 1700000000 := by
  have first : ((new office).trace morning)[0]? =
      some (.motion (.ofEpoch 1700000000), .woken [desk, printer]) := by decide
  have fires : Rule.make desk 60 ⟨[]⟩ ∈
      ((new office).after (morning.take 6)).firing (.ofEpoch 1700000700) := by decide
  exact ⟨morning_dated, first, fires, (spacing_of_wakes (new office) morning morning_dated).1
    0 6 _ _ _ _ (by decide) first List.mem_cons_self rfl fires⟩

end Engine

end Reveille
