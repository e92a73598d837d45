import Reveille.Proofs.Condition.Meaning
import Reveille.Proofs.RuleText.Parsing

/-!
# How rules come about

A rule is made of a host, a hold-off and conditions, put together from parts, or read from a
text; after that it is only switched on and off. However it came about, its conditions are asked
of its own host.
-/

namespace Reveille

open Reveille.Net Reveille.RuleText Reveille.RuleText.Grammar

namespace Rule

/-- Rules that can come about. -/
inductive Built : Rule → Prop where
  | make (host : Host) (holdOff : Nat) (conditions : When Condition) :
      Built (make host holdOff conditions)
  | ofParts {parts : List RulePart} {r : Rule} (made : Rule.ofParts parts = .ok r) : Built r
  | parsed {text : List Char} {rules : List Rule} {r : Rule} (read : parseRules text = .ok rules)
      (mem : r ∈ rules) : Built r
  | setEnabled {r : Rule} (enabled : Bool) (built : Built r) : Built (r.setEnabled enabled)

/-- Every condition of the rule that takes a host takes the host of the rule. -/
def AsksOwnHost (r : Rule) : Prop :=
  ∀ b ∈ r.conditions.leaves, ∃ c, BoundCondition.ofCondition r.host c = b

theorem make_asksOwnHost (host : Host) (holdOff : Nat) (conditions : When Condition) :
    (make host holdOff conditions).AsksOwnHost := by
  intro b mem
  have leaf : b ∈ conditions.leaves.map (BoundCondition.ofCondition host) := by
    rw [← When.leaves_map]
    exact mem
  obtain ⟨c, -, bound⟩ := List.mem_map.mp leaf
  exact ⟨c, bound⟩

theorem ofParts_asksOwnHost {parts : List RulePart} {r : Rule}
    (made : Rule.ofParts parts = .ok r) : r.AsksOwnHost := by
  obtain ⟨host, -, made⟩ := bind_eq_ok_iff.mp made
  obtain ⟨conditions, -, made⟩ := bind_eq_ok_iff.mp made
  obtain ⟨holdOff, -, made⟩ := bind_eq_ok_iff.mp made
  cases made
  exact make_asksOwnHost host holdOff conditions

theorem parsed_asksOwnHost {text : List Char} {rules : List Rule} {r : Rule}
    (read : parseRules text = .ok rules) (mem : r ∈ rules) : r.AsksOwnHost := by
  obtain ⟨lines, -, read⟩ := bind_eq_ok_iff.mp read
  obtain ⟨trees, -, rfl⟩ := rules_of_rulesUpTo (Nat.le_refl _) read
  obtain ⟨tree, -, rfl⟩ := List.mem_map.mp mem
  exact make_asksOwnHost _ _ _

theorem Built.asksOwnHost {r : Rule} (built : r.Built) : r.AsksOwnHost := by
  induction built with
  | make host holdOff conditions => exact make_asksOwnHost host holdOff conditions
  | ofParts made => exact ofParts_asksOwnHost made
  | parsed read mem => exact parsed_asksOwnHost read mem
  | setEnabled enabled _ ih => exact ih

@[simp] theorem holds_setEnabled (ctx : Context) (r : Rule) (enabled : Bool) :
    (r.setEnabled enabled).holds ctx = r.holds ctx := rfl

end Rule

theorem BoundCondition.check_congr {ctx : Context} {wakes : HostLog} {host : Host} {c : Condition}
    (same : wakes.get? host = ctx.wakes.get? host) :
    (ofCondition host c).check { ctx with wakes } = (ofCondition host c).check ctx := by
  cases c with
  | holdOff n => simp only [ofCondition, check, Condition.needsHost, if_true, same]
  | _ => rfl

/-- Of the wakes on record, a rule looks at that of its host only. -/
theorem Rule.holds_congr {ctx : Context} {wakes : HostLog} {r : Rule} (own : r.AsksOwnHost)
    (same : wakes.get? r.host = ctx.wakes.get? r.host) :
    r.holds { ctx with wakes } = r.holds ctx := by
  have conditions : r.conditions.holds { ctx with wakes } = r.conditions.holds ctx := by
    refine When.eval_congr fun b mem => ?_
    obtain ⟨c, rfl⟩ := own b mem
    exact BoundCondition.check_congr same
  rw [holds, holds, conditions, same]

end Reveille
