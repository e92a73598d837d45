import Reveille.Proofs.Outcomes
import Reveille.Rule.Parts

/-!
# Parts in any order

What becomes of parts depends on how many there are of each kind, and not on their order. Parts
that are missing or too many are complained of kind by kind: hosts, conditions, hold-offs.
-/

namespace Reveille

open Reveille.Net

namespace RulePart

inductive Kind where
  | host
  | conditions
  | holdOff
deriving DecidableEq

def kind : RulePart → Kind
  | .host _ => .host
  | .conditions _ => .conditions
  | .holdOff _ => .holdOff

def count (kind : Kind) (parts : List RulePart) : Nat :=
  parts.countP (·.kind = kind)

/-- The rule that parts make, whatever their order. -/
inductive Makes (parts : List RulePart) : Rule → Prop where
  | undelayed {host : Host} {w : When Condition} (these : parts.Perm [.host host, .conditions w]) :
      Makes parts (Rule.make host 0 w)
  | delayed {host : Host} {w : When Condition} {n : Nat}
      (these : parts.Perm [.host host, .conditions w, .holdOff n]) :
      Makes parts (Rule.make host n w)

/-- What parts that make no rule are refused for. -/
inductive Refused (parts : List RulePart) : PartsError → Prop where
  | missingHost (none : count .host parts = 0) : Refused parts .missingHost
  | duplicateHost (several : 2 ≤ count .host parts) :
      Refused parts (.duplicateHost (count .host parts))
  | missingConditions (host : count .host parts = 1) (none : count .conditions parts = 0) :
      Refused parts .missingConditions
  | duplicateConditions (host : count .host parts = 1) (several : 2 ≤ count .conditions parts) :
      Refused parts (.duplicateConditions (count .conditions parts))
  | duplicateHoldOff (host : count .host parts = 1) (conditions : count .conditions parts = 1)
      (several : 2 ≤ count .holdOff parts) :
      Refused parts (.duplicateHoldOff (count .holdOff parts))

variable {parts parts' : List RulePart} {e : PartsError} {r : Rule}

theorem count_perm (order : parts.Perm parts') (kind : Kind) :
    count kind parts = count kind parts' :=
  order.countP_eq _

theorem Makes.perm (order : parts.Perm parts') (makes : Makes parts r) : Makes parts' r := by
  cases makes with
  | undelayed these => exact .undelayed (order.symm.trans these)
  | delayed these => exact .delayed (order.symm.trans these)

theorem Makes.counts (makes : Makes parts r) :
    count .host parts = 1 ∧ count .conditions parts = 1 ∧ count .holdOff parts ≤ 1 := by
  cases makes with
  | undelayed these =>
    simp only [count_perm these]
    exact ⟨rfl, rfl, Nat.zero_le 1⟩
  | delayed these =>
    simp only [count_perm these]
    exact ⟨rfl, rfl, Nat.le_refl 1⟩

theorem Refused.perm (order : parts.Perm parts') (refused : Refused parts e) :
    Refused parts' e := by
  have counts := count_perm order
  cases refused with
  | missingHost none =>
    rw [counts] at none
    exact .missingHost none
  | duplicateHost several =>
    rw [counts] at several ⊢
    exact .duplicateHost several
  | missingConditions host none =>
    rw [counts] at host none
    exact .missingConditions host none
  | duplicateConditions host several =>
    rw [counts] at host several ⊢
    exact .duplicateConditions host several
  | duplicateHoldOff host conditions several =>
    rw [counts] at host conditions several ⊢
    exact .duplicateHoldOff host conditions several

/-- There is one complaint at most: the kinds are gone through in order. -/
theorem Refused.unique {e' : PartsError} (refused : Refused parts e) (refused' : Refused parts e') :
    e = e' := by
  cases refused <;> cases refused' <;> first | rfl | omega

theorem Refused.not_makes (refused : Refused parts e) : ¬ Makes parts r := by
  intro makes
  obtain ⟨host, conditions, holdOff⟩ := makes.counts
  cases refused <;> omega

/-! ### Kinds of parts, one by one -/

theorem count_eq_length {α : Type} {k : Kind} {part? : RulePart → Option α}
    (reads : ∀ part, (part? part).isSome = decide (part.kind = k)) (parts : List RulePart) :
    count k parts = (parts.filterMap part?).length := by
  rw [List.length_filterMap_eq_countP, count]
  apply List.countP_congr
  intro part _
  rw [reads]

theorem count_host (parts : List RulePart) :
    count .host parts = (parts.filterMap host?).length :=
  count_eq_length (fun part => by cases part <;> rfl) parts

theorem count_conditions (parts : List RulePart) :
    count .conditions parts = (parts.filterMap conditions?).length :=
  count_eq_length (fun part => by cases part <;> rfl) parts

theorem count_holdOff (parts : List RulePart) :
    count .holdOff parts = (parts.filterMap holdOff?).length :=
  count_eq_length (fun part => by cases part <;> rfl) parts

/-- Parts are those of each kind, one kind after the other, in another order. -/
theorem perm_by_kind (parts : List RulePart) :
    parts.Perm ((parts.filterMap host?).map .host ++
      ((parts.filterMap conditions?).map .conditions ++
        (parts.filterMap holdOff?).map .holdOff)) := by
  induction parts with
  | nil => exact .nil
  | cons part parts ih =>
    cases part with
    | host h => exact ih.cons _
    | conditions w => exact (ih.cons _).trans List.perm_middle.symm
    | holdOff n =>
      have last := (ih.cons (.holdOff n)).trans List.perm_middle.symm
      exact last.trans (List.perm_middle.symm.append_left _)

theorem only_eq_ok_iff {α : Type} {missing : PartsError} {duplicate : Nat → PartsError}
    {as : List α} {a : α} : only missing duplicate as = .ok a ↔ as = [a] := by
  match as with
  | [] => simp [only]
  | [b] => simp [only]
  | _ :: _ :: _ => simp [only]

theorem only_eq_error_iff {α : Type} {missing : PartsError} {duplicate : Nat → PartsError}
    {as : List α} : only missing duplicate as = .error e ↔
      as.length = 0 ∧ missing = e ∨ 2 ≤ as.length ∧ duplicate as.length = e := by
  match as with
  | [] => simp [only]
  | [b] => simp [only]
  | _ :: _ :: _ => simp [only]

theorem holdOffOf_eq_ok_iff {ns : List Nat} {n : Nat} :
    holdOffOf ns = .ok n ↔ ns = [] ∧ n = 0 ∨ ns = [n] := by
  match ns with
  | [] => simp [holdOffOf, eq_comm]
  | [m] => simp [holdOffOf]
  | _ :: _ :: _ => simp [holdOffOf]

theorem holdOffOf_eq_error_iff {ns : List Nat} :
    holdOffOf ns = .error e ↔ 2 ≤ ns.length ∧ .duplicateHoldOff ns.length = e := by
  match ns with
  | [] => simp [holdOffOf]
  | [m] => simp [holdOffOf]
  | _ :: _ :: _ => simp [holdOffOf]

/-! ### Rules of parts -/

theorem ofParts_eq_ok_iff : Rule.ofParts parts = .ok r ↔ Makes parts r := by
  constructor
  · intro made
    obtain ⟨host, hosts, made⟩ := bind_eq_ok_iff.mp made
    obtain ⟨w, conditions, made⟩ := bind_eq_ok_iff.mp made
    obtain ⟨n, holdOffs, made⟩ := bind_eq_ok_iff.mp made
    cases made
    have sorted := perm_by_kind parts
    rw [only_eq_ok_iff.mp hosts, only_eq_ok_iff.mp conditions] at sorted
    rcases holdOffOf_eq_ok_iff.mp holdOffs with ⟨none, rfl⟩ | one
    · rw [none] at sorted
      exact .undelayed sorted
    · rw [one] at sorted
      exact .delayed sorted
  · intro makes
    cases makes with
    | undelayed these =>
      have hosts := List.perm_singleton.mp (these.filterMap host?)
      have conditions := List.perm_singleton.mp (these.filterMap conditions?)
      have holdOffs := List.perm_nil.mp (these.filterMap holdOff?)
      rw [Rule.ofParts, hosts, conditions, holdOffs]
      rfl
    | delayed these =>
      have hosts := List.perm_singleton.mp (these.filterMap host?)
      have conditions := List.perm_singleton.mp (these.filterMap conditions?)
      have holdOffs := List.perm_singleton.mp (these.filterMap holdOff?)
      rw [Rule.ofParts, hosts, conditions, holdOffs]
      rfl

theorem refused_of_ofParts (failed : Rule.ofParts parts = .error e) : Refused parts e := by
  have counted {α : Type} {missing : PartsError} {duplicate : Nat → PartsError} {as : List α}
      {a : α} (one : only missing duplicate as = .ok a) : as.length = 1 := by
    rw [only_eq_ok_iff.mp one]
    rfl
  rcases bind_eq_error_iff.mp failed with hosts | ⟨h, one, failed⟩
  · rcases only_eq_error_iff.mp hosts with ⟨none, rfl⟩ | ⟨several, rfl⟩
    · exact .missingHost ((count_host parts).trans none)
    · rw [← count_host] at several ⊢
      exact .duplicateHost several
  have host := (count_host parts).trans (counted one)
  rcases bind_eq_error_iff.mp failed with conditions | ⟨w, one, failed⟩
  · rcases only_eq_error_iff.mp conditions with ⟨none, rfl⟩ | ⟨several, rfl⟩
    · exact .missingConditions host ((count_conditions parts).trans none)
    · rw [← count_conditions] at several ⊢
      exact .duplicateConditions host several
  have conditions := (count_conditions parts).trans (counted one)
  rcases bind_eq_error_iff.mp failed with holdOffs | ⟨n, -, failed⟩
  · obtain ⟨several, rfl⟩ := holdOffOf_eq_error_iff.mp holdOffs
    rw [← count_holdOff] at several ⊢
    exact .duplicateHoldOff host conditions several
  · cases failed

theorem ofParts_eq_error_iff : Rule.ofParts parts = .error e ↔ Refused parts e := by
  constructor
  · exact refused_of_ofParts
  · intro refused
    cases made : Rule.ofParts parts with
    | ok r => exact absurd (ofParts_eq_ok_iff.mp made) refused.not_makes
    | error e' => rw [refused.unique (refused_of_ofParts made)]

theorem exists_ofParts_eq_ok_iff : (∃ r, Rule.ofParts parts = .ok r) ↔
    count .host parts = 1 ∧ count .conditions parts = 1 ∧ count .holdOff parts ≤ 1 := by
  constructor
  · rintro ⟨r, made⟩
    exact (ofParts_eq_ok_iff.mp made).counts
  · rintro ⟨host, conditions, holdOff⟩
    cases made : Rule.ofParts parts with
    | ok r => exact ⟨r, rfl⟩
    | error e =>
      exfalso
      cases refused_of_ofParts made <;> omega

/-- Parts in another order give the same rule, or the same complaint. A rule comes of one host, one
block of conditions and at most one hold-off, and of nothing else. -/
theorem ofParts_in_any_order :
    (∀ parts parts' : List RulePart, parts.Perm parts' →
      Rule.ofParts parts = Rule.ofParts parts') ∧
    (∀ (parts : List RulePart) (r : Rule), Rule.ofParts parts = .ok r ↔ Makes parts r) ∧
    (∀ parts : List RulePart, (∃ r, Rule.ofParts parts = .ok r) ↔
      count .host parts = 1 ∧ count .conditions parts = 1 ∧ count .holdOff parts ≤ 1) ∧
    ∀ (parts : List RulePart) (e : PartsError),
      Rule.ofParts parts = .error e ↔ Refused parts e := by
  refine ⟨?_, fun _ _ => ofParts_eq_ok_iff, fun _ => exists_ofParts_eq_ok_iff,
    fun _ _ => ofParts_eq_error_iff⟩
  intro parts parts' order
  cases made : Rule.ofParts parts with
  | ok r => exact (ofParts_eq_ok_iff.mpr ((ofParts_eq_ok_iff.mp made).perm order)).symm
  | error e => exact (ofParts_eq_error_iff.mpr ((refused_of_ofParts made).perm order)).symm

/-- A hold-off in front of everything else, and three hosts between two hold-offs. -/
theorem ofParts_in_any_order_lab :
    let lab : Host := ⟨none, ⟨0, 17, 34, 51, 68, 85⟩⟩
    let other : Host := ⟨none, ⟨0, 17, 34, 51, 68, 86⟩⟩
    let w : When Condition := ⟨[.leaf (.inactiveFor 60), .leaf (.holdOff 5)]⟩
    [.holdOff 300, .conditions w, .host lab].Perm
      [RulePart.host lab, .conditions w, .holdOff 300] ∧
    Rule.ofParts [.holdOff 300, .conditions w, .host lab] =
      Rule.ofParts [.host lab, .conditions w, .holdOff 300] ∧
    Rule.ofParts [.holdOff 300, .conditions w, .host lab] = .ok (Rule.make lab 300 w) ∧
    Rule.ofParts [.holdOff 1, .host lab, .host other, .host lab, .holdOff 2] =
      .error (.duplicateHost 3) := by
  intro lab other w
  obtain ⟨same, made, -, refused⟩ := ofParts_in_any_order
  have order : [.holdOff 300, .conditions w, .host lab].Perm
      [RulePart.host lab, .conditions w, .holdOff 300] := by decide
  exact ⟨order, same _ _ order, (made _ _).mpr (.delayed order),
    (refused _ _).mpr (.duplicateHost (by decide))⟩

end RulePart

end Reveille
