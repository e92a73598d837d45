import Reveille.Proofs.Engine.Run

/-!
# Dry runs with no motion before

A dry run that is told of no motion before it takes the start of 1970 for one. So a condition on
the quiet time is true as long as it asks for less than the time since then. Only if all of them
do is the dry run the same as if no such condition were asked.
-/

namespace Reveille

open Reveille.Calendar Reveille.Net Reveille.RuleText

namespace Node

variable {α β : Type}

/-- A tree without leaves that is true or false. -/
def constant (truth : Bool) : Node α :=
  if truth then .all [] else .any []

theorem eval_constant (check : α → Bool) (truth : Bool) :
    (constant truth).eval check = truth := by
  cases truth <;> rfl

mutual

/-- Puts a tree in place of each leaf. -/
def graft (f : α → Node β) : Node α → Node β
  | .leaf a => f a
  | .all cs => .all (graftList f cs)
  | .any cs => .any (graftList f cs)
  | .not c => .not (graft f c)

def graftList (f : α → Node β) : List (Node α) → List (Node β)
  | [] => []
  | c :: cs => graft f c :: graftList f cs

end

mutual

theorem eval_graft (f : α → Node β) (check : β → Bool) : ∀ n : Node α,
    (n.graft f).eval check = n.eval fun a => (f a).eval check
  | .leaf _ => rfl
  | .all cs => by
    rw [graft, eval_all, eval_all, all_graftList f check cs]
  | .any cs => by
    rw [graft, eval_any, eval_any, any_graftList f check cs]
  | .not c => by
    rw [graft, eval_not, eval_not, eval_graft f check c]

theorem all_graftList (f : α → Node β) (check : β → Bool) : ∀ cs : List (Node α),
    (graftList f cs).all (eval check) = cs.all (eval fun a => (f a).eval check)
  | [] => rfl
  | c :: cs => by
    rw [graftList, List.all_cons, List.all_cons, eval_graft f check c, all_graftList f check cs]

theorem any_graftList (f : α → Node β) (check : β → Bool) : ∀ cs : List (Node α),
    (graftList f cs).any (eval check) = cs.any (eval fun a => (f a).eval check)
  | [] => rfl
  | c :: cs => by
    rw [graftList, List.any_cons, List.any_cons, eval_graft f check c, any_graftList f check cs]

end

end Node

def When.graft {α β : Type} (f : α → Node β) (w : When α) : When β :=
  ⟨Node.graftList f w.children⟩

theorem When.eval_graft {α β : Type} (f : α → Node β) (check : β → Bool) (w : When α) :
    (w.graft f).eval check = w.eval fun a => (f a).eval check := by
  rw [eval_eq_all, eval_eq_all]
  exact Node.all_graftList f check w.children

/-! ### Settled quiet times -/

/-- The condition, or in place of one on the quiet time what is settled for its seconds. -/
def BoundCondition.settle (truth : Nat → Bool) (b : BoundCondition) : Node BoundCondition :=
  match b.condition with
  | .inactiveFor seconds => .constant (truth seconds)
  | _ => .leaf b

theorem BoundCondition.eval_settle {truth : Nat → Bool} {ctx : Context} {b : BoundCondition}
    (agrees : ∀ seconds, b.condition = .inactiveFor seconds →
      inactiveFor seconds ctx.previousMotion ctx.epoch = truth seconds) :
    (b.settle truth).eval (check ctx) = b.check ctx := by
  obtain ⟨condition, host⟩ := b
  cases condition with
  | inactiveFor seconds =>
    exact (Node.eval_constant _ _).trans (agrees seconds rfl).symm
  | _ => rfl

namespace Rule

def settle (truth : Nat → Bool) (r : Rule) : Rule :=
  { r with conditions := r.conditions.graft (BoundCondition.settle truth) }

/-- Somewhere in its tree the rule asks for more than so many quiet seconds. -/
def AsksQuiet (seconds : Nat) (r : Rule) : Prop :=
  ∃ b ∈ r.conditions.leaves, b.condition = .inactiveFor seconds

theorem holds_settle {truth : Nat → Bool} {ctx : Context} {r : Rule}
    (agrees : ∀ seconds, r.AsksQuiet seconds →
      inactiveFor seconds ctx.previousMotion ctx.epoch = truth seconds) :
    (r.settle truth).holds ctx = r.holds ctx := by
  have conditions : (r.settle truth).conditions.holds ctx = r.conditions.holds ctx := by
    refine (When.eval_graft _ _ r.conditions).trans (When.eval_congr ?_)
    intro b mem
    apply BoundCondition.eval_settle
    intro seconds asks
    exact agrees seconds ⟨b, mem, asks⟩
  rw [holds, holds, conditions]
  rfl

end Rule

namespace Engine

/-- Of all that the engine keeps, only the trees of its rules change. -/
def settle (truth : Nat → Bool) (e : Engine) : Engine :=
  { e with registry := ⟨e.registry.rules.map (Rule.settle truth)⟩ }

def AsksQuiet (seconds : Nat) (e : Engine) : Prop :=
  ∃ r ∈ e.registry.rules, r.AsksQuiet seconds

theorem dryRun_settle {truth : Nat → Bool} {e : Engine} {now : Instant}
    {previousMotion : Option Int} (agrees : ∀ seconds, e.AsksQuiet seconds →
      inactiveFor seconds previousMotion now.epoch = truth seconds) :
    (e.settle truth).dryRun now previousMotion = e.dryRun now previousMotion := by
  have holds : ∀ r ∈ e.registry.rules,
      (r.settle truth).holds (.ofInstant now previousMotion e.wakes) =
        r.holds (.ofInstant now previousMotion e.wakes) := by
    intro r mem
    apply Rule.holds_settle
    intro seconds asks
    exact agrees seconds ⟨r, mem, asks⟩
  have same : ∀ r ∈ e.registry.rules,
      ((r.settle truth).enabled && (r.settle truth).holds (.ofInstant now previousMotion e.wakes)) =
        (r.enabled && r.holds (.ofInstant now previousMotion e.wakes)) := by
    intro r mem
    rw [holds r mem]
    rfl
  rw [dryRun, dryRun, Registry.wakes, Registry.wakes, settle, List.filter_map, List.map_map]
  exact congrArg (List.map Rule.host) (List.filter_congr same)

theorem inactiveFor_none_iff {seconds : Nat} {now : Int} (dated : Instant.isDated now = true) :
    inactiveFor seconds none now = true ↔ (seconds : Int) < now := by
  have start : Instant.isDated 0 = true := by decide
  have exact : inactiveFor seconds (some 0) now = true ↔ (seconds : Int) < now - 0 :=
    inactiveFor_some_iff (sub_lt_maxSeconds start dated)
  rw [Int.sub_zero] at exact
  exact exact

/-- A rule that asks for quiet time only. -/
def quietDesk (seconds : Nat) : Rule :=
  Rule.make desk 0 ⟨[.leaf (.inactiveFor seconds)]⟩

theorem lt_of_desk_mem_dryRun {seconds : Nat} {now : Instant}
    (dated : Instant.isDated now.epoch = true)
    (woken : desk ∈ (new ⟨[quietDesk seconds]⟩).dryRun now none) : (seconds : Int) < now.epoch := by
  obtain ⟨r, fires, -⟩ := List.mem_map.mp woken
  obtain ⟨among, fires⟩ := List.mem_filter.mp fires
  obtain rfl := List.mem_singleton.mp among
  rw [Bool.and_eq_true, Rule.holds, Bool.and_eq_true] at fires
  obtain ⟨-, -, conditions⟩ := fires
  rw [When.holds, When.eval_eq_all, List.all_eq_true] at conditions
  have quiet : inactiveFor seconds none now.epoch = true := conditions _ List.mem_cons_self
  exact (inactiveFor_none_iff dated).mp quiet

/-- With no motion before it, a dry run takes conditions on the quiet time for true if they ask for
less than the time since 1970 and for false if not. So it is right about rules that ask for less,
and about all rules up to a limit only if the limit is less. -/
theorem dryRun_without_motion (now : Instant) (dated : Instant.isDated now.epoch = true) :
    (∀ e : Engine, e.dryRun now none =
      (e.settle fun seconds => decide ((seconds : Int) < now.epoch)).dryRun now none) ∧
    (∀ e : Engine, (∀ seconds, e.AsksQuiet seconds → (seconds : Int) < now.epoch) →
      e.dryRun now none = (e.settle fun _ => true).dryRun now none) ∧
    ∀ limit : Nat, (∀ e : Engine, (∀ seconds, e.AsksQuiet seconds → seconds ≤ limit) →
      e.dryRun now none = (e.settle fun _ => true).dryRun now none) ↔ (limit : Int) < now.epoch := by
  have less : ∀ e : Engine, (∀ seconds, e.AsksQuiet seconds → (seconds : Int) < now.epoch) →
      e.dryRun now none = (e.settle fun _ => true).dryRun now none := by
    intro e asks
    refine (dryRun_settle ?_).symm
    intro seconds asked
    exact (inactiveFor_none_iff dated).mpr (asks seconds asked)
  refine ⟨?_, less, ?_⟩
  · intro e
    refine (dryRun_settle ?_).symm
    intro seconds _
    rw [Bool.eq_iff_iff, inactiveFor_none_iff dated, decide_eq_true_iff]
  · intro limit
    constructor
    · intro right
      -- One rule that asks for the limit itself settles it.
      have asks : ∀ seconds, (new ⟨[quietDesk limit]⟩).AsksQuiet seconds → seconds ≤ limit := by
        rintro seconds ⟨r, among, b, mem, asked⟩
        obtain rfl := List.mem_singleton.mp among
        obtain rfl := List.mem_singleton.mp mem
        cases asked
        exact Nat.le_refl _
      apply lt_of_desk_mem_dryRun dated
      rw [right _ asks]
      exact List.mem_singleton_self desk
    · intro below e asks
      apply less e
      intro seconds asked
      have := asks seconds asked
      omega

/-- In the second after the longest quiet time that the office asks for, and an hour after 1970
began for a rule that asks for this hour. -/
theorem dryRun_without_motion_office :
    Instant.isDated 601 = true ∧
    (∀ seconds, (new office).AsksQuiet seconds → (seconds : Int) < 601) ∧
    (new office).dryRun (.ofEpoch 601) none = [desk, desk] ∧
    ((new office).settle fun _ => true).dryRun (.ofEpoch 601) none = [desk, desk] ∧
    Instant.isDated 3600 = true ∧
    ¬ ∀ e : Engine, (∀ seconds, e.AsksQuiet seconds → seconds ≤ 3600) →
      e.dryRun (.ofEpoch 3600) none = (e.settle fun _ => true).dryRun (.ofEpoch 3600) none := by
  have asks : ∀ seconds, (new office).AsksQuiet seconds → (seconds : Int) < 601 := by
    rintro seconds ⟨r, among, b, mem, asked⟩
    simp only [new, office, List.mem_cons, List.not_mem_nil, or_false] at among
    rcases among with rfl | rfl | rfl
    · cases mem
    · obtain rfl := List.mem_singleton.mp mem
      cases asked
      decide
    · obtain rfl := List.mem_singleton.mp mem
      cases asked
      decide
  obtain ⟨-, right, -⟩ := dryRun_without_motion (.ofEpoch 601) rfl
  obtain ⟨-, -, sharp⟩ := dryRun_without_motion (.ofEpoch 3600) rfl
  have woken : ((new office).settle fun _ => true).dryRun (.ofEpoch 601) none = [desk, desk] := by
    decide
  refine ⟨rfl, asks, (right (new office) asks).trans woken, woken, rfl, ?_⟩
  intro all
  exact absurd ((sharp 3600).mp all) (by decide)

/-! ### A quiet time longer than that since 1970 -/

def decades : List Char :=
  ("wake 00:11:22:33:44:55:\n  inactivity 500000 hour\n" ++
    "wake 00:11:22:33:44:56:\n  not:\n    inactivity 500000 hour\n").toList

def decadesRules : List Rule :=
  [quietDesk 1800000000, Rule.make printer 0 ⟨[.not (.leaf (.inactiveFor 1800000000))]⟩]

/-- On a day in June 2024 a dry run wakes the printer. It would wake the desk instead if the
conditions on the quiet time were true. -/
theorem not_dryRun_as_if_quiet :
    parseRules decades = .ok decadesRules ∧ Instant.isDated 1717934400 = true ∧
    (new ⟨decadesRules⟩).dryRun (.ofEpoch 1717934400) none = [printer] ∧
    ((new ⟨decadesRules⟩).settle fun _ => true).dryRun (.ofEpoch 1717934400) none = [desk] :=
  ⟨by decide +kernel, rfl, by decide, by decide⟩

end Engine

end Reveille
