import Reveille.Proofs.Engine.History

/-!
# Rules without a hold-off

A rule without a hold-off holds when its conditions do, unless a later wake of its host is on
record. On a clock that goes forward none is. After the clock has been set back there can be one,
and then the rule waits until the clock has caught up with it.
-/

namespace Reveille

open Reveille.Calendar Reveille.Net Reveille.RuleText Reveille.RuleText.Grammar

namespace Rule

/-- Rules that were put together without a hold-off, or read from a block that names none. -/
inductive WithoutHoldOff : Rule → Prop where
  | ofParts {parts : List RulePart} {r : Rule} (made : Rule.ofParts parts = .ok r)
      (absent : ∀ n, .holdOff n ∉ parts) : WithoutHoldOff r
  | parsed {text : List Char} {trees : List RuleTree} {tree : RuleTree}
      (derived : Rules (significantLines text) trees)
      (read : parseRules text = .ok (trees.map RuleTree.rule)) (mem : tree ∈ trees)
      (absent : tree.holdOffs = []) : WithoutHoldOff tree.rule
  | setEnabled {r : Rule} (enabled : Bool) (without : WithoutHoldOff r) :
      WithoutHoldOff (r.setEnabled enabled)

theorem WithoutHoldOff.holdOff_eq_zero {r : Rule} (without : r.WithoutHoldOff) :
    r.holdOff = 0 := by
  induction without with
  | @ofParts parts r made absent =>
    have none : parts.filterMap RulePart.holdOff? = [] := by
      apply List.filterMap_eq_nil_iff.mpr
      intro part mem
      cases part with
      | holdOff n => exact absurd mem (absent n)
      | _ => rfl
    obtain ⟨host, -, made⟩ := bind_eq_ok_iff.mp made
    obtain ⟨conditions, -, made⟩ := bind_eq_ok_iff.mp made
    rw [none] at made
    cases made
    rfl
  | parsed _ _ _ absent =>
    show List.headD _ 0 = 0
    rw [absent, List.headD_nil]
  | setEnabled _ _ ih => exact ih

theorem WithoutHoldOff.holds_iff {r : Rule} (without : r.WithoutHoldOff) (ctx : Context) :
    r.holds ctx = true ↔
      r.conditions.holds ctx = true ∧ ∀ last ∈ ctx.wakes.get? r.host, last ≤ ctx.epoch := by
  rw [holds, Bool.and_eq_true, without.holdOff_eq_zero, and_comm]
  apply and_congr_right'
  cases ctx.wakes.get? r.host with
  | none => simp [holdOffElapsed]
  | some last =>
    rw [holdOffElapsed_iff, maxSeconds_eq]
    simp only [Option.mem_some_iff, forall_eq']
    omega

end Rule

namespace Engine

open History

variable {reg : Registry} {ops : List Op} {host : Host} {last : Int}

/-- What is on record as a wake is the time of a motion of the run. -/
theorem motion_of_wake (found : ((new reg).after ops).wakes.get? host = some last) :
    ∃ now, .motion now ∈ ops ∧ now.epoch = last := by
  have recorded := ((records_new reg).run ops).wakes host
  rw [found] at recorded
  obtain ⟨⟨op, reply⟩, mem, read⟩ := mem_of_latest? recorded.symm
  have asked : op ∈ ops := by
    rw [← map_fst_trace (new reg) ops]
    exact List.mem_map_of_mem mem
  unfold wakeTime? at read
  split at read
  · next now hosts same =>
    obtain ⟨rfl, -⟩ := Prod.mk.inj same
    split at read
    · exact ⟨now, asked, Option.some.inj read⟩
    · cases read
  · cases read

/-- A rule without a hold-off holds if and only if its conditions do and no later wake of its host
is on record. At a motion none is, unless the run had a motion at a later time. -/
theorem undelayed_unless_set_back (r : Rule) (without : r.WithoutHoldOff) :
    (∀ ctx : Context, r.holds ctx = true ↔
      r.conditions.holds ctx = true ∧ ∀ last ∈ ctx.wakes.get? r.host, last ≤ ctx.epoch) ∧
    ∀ (reg : Registry) (ops : List Op) (now : Instant),
      (∀ earlier, .motion earlier ∈ ops → earlier.epoch ≤ now.epoch) →
      r.holds (((new reg).after ops).contextAt now) =
        r.conditions.holds (((new reg).after ops).contextAt now) := by
  refine ⟨without.holds_iff, ?_⟩
  intro reg ops now forward
  rw [Bool.eq_iff_iff, without.holds_iff]
  apply and_iff_left
  intro last found
  obtain ⟨earlier, asked, rfl⟩ := motion_of_wake found
  exact forward earlier asked

/-- `wake 00:11:22:33:44:55:` on any day but Sunday. -/
def notSundays : Rule :=
  Rule.make desk 0 ⟨[.not (.leaf (.dayOfWeek [.sun]))]⟩

theorem notSundays_withoutHoldOff : notSundays.WithoutHoldOff := by
  have made : Rule.ofParts [.conditions ⟨[.not (.leaf (.dayOfWeek [.sun]))]⟩, .host desk] =
      .ok notSundays := rfl
  exact .ofParts made (by simp)

/-- A Monday at nine. -/
def mondayNine : Instant := .ofEpoch 1717405200

theorem undelayed_unless_set_back_monday :
    notSundays.WithoutHoldOff ∧
    (∀ earlier, .motion earlier ∈ [Op.motion mondayNine] → earlier.epoch ≤ mondayNine.epoch) ∧
    notSundays.holds (((new ⟨[notSundays]⟩).after [.motion mondayNine]).contextAt mondayNine) =
      true := by
  have forward : ∀ earlier, .motion earlier ∈ [Op.motion mondayNine] →
      earlier.epoch ≤ mondayNine.epoch := by
    intro earlier mem
    cases List.mem_singleton.mp mem
    exact Int.le_refl _
  obtain ⟨-, undelayed⟩ := undelayed_unless_set_back notSundays notSundays_withoutHoldOff
  exact ⟨notSundays_withoutHoldOff, forward,
    (undelayed ⟨[notSundays]⟩ [.motion mondayNine] mondayNine forward).trans (by decide)⟩

/-- After a motion at nine the clock is set back by an hour. At the next motion the conditions of
the rule hold, but the rule does not, and its host is not woken. -/
theorem delayed_after_clock_set_back :
    parseRules "wake 00:11:22:33:44:55:\n  now not Sun\n".toList = .ok [notSundays] ∧
    notSundays.WithoutHoldOff ∧
    ((new ⟨[notSundays]⟩).onMotion mondayNine).2 = [desk] ∧
    let e := ((new ⟨[notSundays]⟩).onMotion mondayNine).1
    let eight := Instant.ofEpoch (mondayNine.epoch - 3600)
    notSundays.conditions.holds (e.contextAt eight) = true ∧
      notSundays.holds (e.contextAt eight) = false ∧ (e.onMotion eight).2 = [] :=
  ⟨by decide +kernel, notSundays_withoutHoldOff, by decide, by decide, by decide, by decide⟩

end Engine

end Reveille
