import Reveille.Proofs.Condition.Meaning
import Reveille.Proofs.Condition.Traversal

/-!
# Evaluation up to the decision

Leaves are checked from left to right, and only as far as they decide the result. What is skipped
cannot matter: neither the result nor the leaves that are checked depend on it.
-/

namespace Reveille

def noting {α : Type} (check : α → Bool) (a : α) : StateM (List α) Bool := do
  modify (· ++ [a])
  return check a

namespace Node

variable {α β : Type} {check check' : α → Bool}

/-- The result of an evaluation, and the leaves that it checks, in order. -/
def trace (check : α → Bool) (n : Node α) : Bool × List α :=
  (n.evalM (noting check)).run []

/-- Some child decides the group: it does not hold, of a group of which all are to hold, or it
does, of one of which some are to. -/
def isDecided (check : α → Bool) (verdict : Bool) (cs : List (Node α)) : Bool :=
  cs.any (eval check · == verdict)

theorem isDecided_cons (check : α → Bool) (verdict : Bool) (c : Node α) (cs : List (Node α)) :
    isDecided check verdict (c :: cs) = (c.eval check == verdict || isDecided check verdict cs) :=
  rfl

theorem eval_all_eq_isDecided (check : α → Bool) (cs : List (Node α)) :
    (all cs).eval check = !isDecided check false cs := by
  rw [eval_all, List.all_eq_not_any_not, isDecided]
  simp only [beq_false]

theorem eval_any_eq_isDecided (check : α → Bool) (cs : List (Node α)) :
    (any cs).eval check = isDecided check true cs := by
  rw [eval_any, isDecided]
  simp only [beq_true]

mutual

/-- The leaves that are checked, by the results of the nodes before them. -/
def checked (check : α → Bool) : Node α → List α
  | .leaf a => [a]
  | .all cs => checkedUntil check false cs
  | .any cs => checkedUntil check true cs
  | .not c => checked check c

/-- Children are gone through until one of them decides. -/
def checkedUntil (check : α → Bool) (verdict : Bool) : List (Node α) → List α
  | [] => []
  | c :: cs => checked check c ++
      if c.eval check = verdict then [] else checkedUntil check verdict cs

end

-- What has been noted down before stays in front, so the induction is for any such list.
mutual

theorem run_evalM (check : α → Bool) : ∀ (n : Node α) (noted : List α),
    (n.evalM (noting check)).run noted = (n.eval check, noted ++ checked check n)
  | .leaf _, _ => rfl
  | .all cs, noted => by
    rw [eval_all_eq_isDecided]
    exact run_allM_noting check cs noted
  | .any cs, noted => by
    rw [eval_any_eq_isDecided]
    exact run_anyM_noting check cs noted
  | .not c, noted => by
    rw [evalM, StateT.run_bind, run_evalM check c noted, eval_not]
    rfl

theorem run_allM_noting (check : α → Bool) : ∀ (cs : List (Node α)) (noted : List α),
    (allM (noting check) cs).run noted =
      (!isDecided check false cs, noted ++ checkedUntil check false cs)
  | [], noted => by
    rw [checkedUntil, List.append_nil]
    rfl
  | c :: cs, noted => by
    have later := run_allM_noting check cs (noted ++ checked check c)
    rw [allM, StateT.run_bind, run_evalM check c noted, isDecided_cons, checkedUntil,
      ← List.append_assoc]
    cases c.eval check with
    | true => exact later
    | false => simp; rfl

theorem run_anyM_noting (check : α → Bool) : ∀ (cs : List (Node α)) (noted : List α),
    (anyM (noting check) cs).run noted =
      (isDecided check true cs, noted ++ checkedUntil check true cs)
  | [], noted => by
    rw [checkedUntil, List.append_nil]
    rfl
  | c :: cs, noted => by
    have later := run_anyM_noting check cs (noted ++ checked check c)
    rw [anyM, StateT.run_bind, run_evalM check c noted, isDecided_cons, checkedUntil,
      ← List.append_assoc]
    cases c.eval check with
    | true => simp; rfl
    | false => exact later

end

theorem trace_eq (check : α → Bool) (n : Node α) :
    n.trace check = (n.eval check, checked check n) :=
  run_evalM check n []

mutual

theorem checked_sublist (check : α → Bool) : ∀ n : Node α, (checked check n).Sublist n.leaves
  | .leaf a => .refl [a]
  | .all cs => checkedUntil_sublist check false cs
  | .any cs => checkedUntil_sublist check true cs
  | .not c => checked_sublist check c

theorem checkedUntil_sublist (check : α → Bool) (verdict : Bool) : ∀ cs : List (Node α),
    (checkedUntil check verdict cs).Sublist (leavesList cs)
  | [] => .refl []
  | c :: cs => by
    refine (checked_sublist check c).append ?_
    split
    · exact List.nil_sublist _
    · exact checkedUntil_sublist check verdict cs

end

mutual

/-- Other results for leaves that are not checked change nothing. -/
theorem checked_congr : ∀ n : Node α, (∀ a ∈ checked check n, check' a = check a) →
    n.eval check' = n.eval check ∧ checked check' n = checked check n
  | .leaf a, same => ⟨same a (List.mem_singleton_self a), rfl⟩
  | .all cs, same => by
    obtain ⟨decided, leaves⟩ := checkedUntil_congr false cs same
    rw [eval_all_eq_isDecided, eval_all_eq_isDecided, decided]
    exact ⟨rfl, leaves⟩
  | .any cs, same => by
    rw [eval_any_eq_isDecided, eval_any_eq_isDecided]
    exact checkedUntil_congr true cs same
  | .not c, same => by
    obtain ⟨value, leaves⟩ := checked_congr c same
    rw [eval_not, eval_not, value]
    exact ⟨rfl, leaves⟩

theorem checkedUntil_congr (verdict : Bool) : ∀ cs : List (Node α),
    (∀ a ∈ checkedUntil check verdict cs, check' a = check a) →
    isDecided check' verdict cs = isDecided check verdict cs ∧
      checkedUntil check' verdict cs = checkedUntil check verdict cs
  | [], _ => ⟨rfl, rfl⟩
  | c :: cs, same => by
    rw [checkedUntil, List.forall_mem_append] at same
    obtain ⟨value, leaves⟩ := checked_congr c same.1
    rw [isDecided_cons, isDecided_cons, checkedUntil, checkedUntil, value, leaves]
    by_cases decides : c.eval check = verdict
    -- The later children are not reached, and nothing is known of the results of their leaves.
    · simp [decides]
    · rw [if_neg decides] at same
      obtain ⟨decided, later⟩ := checkedUntil_congr verdict cs same.2
      rw [if_neg decides, if_neg decides, decided, later]
      exact ⟨rfl, rfl⟩

end

mutual

theorem eval_checked_map (g : β → α) : ∀ n : Node β,
    (n.map g).eval check = n.eval (check ∘ g) ∧
      checked check (n.map g) = (checked (check ∘ g) n).map g
  | .leaf _ => ⟨rfl, rfl⟩
  | .all cs => by
    obtain ⟨decided, leaves⟩ := isDecided_checkedUntil_map g false cs
    rw [map_all, eval_all_eq_isDecided, eval_all_eq_isDecided, decided]
    exact ⟨rfl, leaves⟩
  | .any cs => by
    rw [map_any, eval_any_eq_isDecided, eval_any_eq_isDecided]
    exact isDecided_checkedUntil_map g true cs
  | .not c => by
    obtain ⟨value, leaves⟩ := eval_checked_map g c
    rw [map_not, eval_not, eval_not, value]
    exact ⟨rfl, leaves⟩

theorem isDecided_checkedUntil_map (g : β → α) (verdict : Bool) : ∀ cs : List (Node β),
    isDecided check verdict (cs.map (map g)) = isDecided (check ∘ g) verdict cs ∧
      checkedUntil check verdict (cs.map (map g)) = (checkedUntil (check ∘ g) verdict cs).map g
  | [] => ⟨rfl, rfl⟩
  | c :: cs => by
    obtain ⟨value, leaves⟩ := eval_checked_map g c
    obtain ⟨decided, later⟩ := isDecided_checkedUntil_map g verdict cs
    rw [List.map_cons, isDecided_cons, isDecided_cons, checkedUntil, checkedUntil, value, leaves,
      decided, later, List.map_append]
    exact ⟨rfl, by split <;> rfl⟩

end

theorem trace_map (g : β → α) (n : Node β) :
    (n.map g).trace check = Prod.map id (List.map g) (n.trace (check ∘ g)) := by
  obtain ⟨value, leaves⟩ := @eval_checked_map α β check g n
  rw [trace_eq, trace_eq, value, leaves]
  rfl

end Node

def When.trace {α : Type} (check : α → Bool) (w : When α) : Bool × List α :=
  (w.evalM (noting check)).run []

/-! ### Evaluations -/

/-- How a tree is evaluated, given what each leaf evaluates to. -/
structure Evaluation (α : Type) where
  leaves : List α
  /-- What the tree says, given what its leaves say. -/
  formula : (α → Prop) → Prop
  eval : (α → Bool) → Bool
  /-- The leaves up to the decision. -/
  reached : (α → Bool) → List α
  trace : (α → Bool) → Bool × List α

def Node.evaluation {α : Type} (n : Node α) : Evaluation α :=
  ⟨n.leaves, (n.Sat ·), (n.eval ·), (checked · n), (n.trace ·)⟩

def When.evaluation {α : Type} (w : When α) : Evaluation α :=
  ⟨w.leaves, (w.Sat ·), (w.eval ·), (Node.checkedUntil · false w.children), (w.trace ·)⟩

namespace Evaluation

variable {α : Type} {e : Evaluation α} {placed : Evaluation (α × Nat)}

structure ShortCircuits (e : Evaluation α) : Prop where
  /-- The result is what the formula says. -/
  value : ∀ check, e.eval check = true ↔ e.formula (check · = true)
  noted : ∀ check, e.trace check = (e.eval check, e.reached check)
  /-- The leaves that are checked are some of the leaves, in their order, none more often. -/
  ordered : ∀ check, (e.trace check).2.Sublist e.leaves
  /-- The leaves that are not checked may evaluate to anything. -/
  inert : ∀ check check', (∀ a ∈ (e.trace check).2, check' a = check a) →
    e.trace check' = e.trace check

/-- The same of a tree whose leaves are told apart by their places, so that each evaluates to
something of its own. -/
structure ShortCircuitsByPlace (e : Evaluation α) (placed : Evaluation (α × Nat)) : Prop where
  plain : e.ShortCircuits
  byPlace : placed.ShortCircuits
  leaves : placed.leaves = e.leaves.zipIdx
  /-- No place is checked twice, and none before one to the left of it. -/
  increasing : ∀ check, ((placed.trace check).2.map Prod.snd).Pairwise (· < ·)
  trace : ∀ check, e.trace check =
    Prod.map id (List.map Prod.fst) (placed.trace fun leaf => check leaf.1)

theorem increasing_of_sublist_zipIdx {leaves : List α} {places : List (α × Nat)}
    (some : places.Sublist leaves.zipIdx) : (places.map Prod.snd).Pairwise (· < ·) := by
  have all : (leaves.zipIdx.map Prod.snd).Pairwise (· < ·) := by
    rw [List.zipIdx_map_snd]
    exact List.pairwise_lt_range'
  exact all.sublist (some.map Prod.snd)

end Evaluation

theorem Node.shortCircuits_evaluation {α : Type} (n : Node α) : n.evaluation.ShortCircuits where
  value check := eval_iff_sat n fun _ _ => Iff.rfl
  noted check := trace_eq check n
  ordered check := by
    have leaves := congrArg Prod.snd (trace_eq check n)
    exact leaves ▸ checked_sublist check n
  inert check check' same := by
    have leaves := congrArg Prod.snd (trace_eq check n)
    obtain ⟨value, checked⟩ := checked_congr n (leaves ▸ same)
    refine (trace_eq check' n).trans ?_
    rw [value, checked]
    exact (trace_eq check n).symm

theorem Node.shortCircuitsByPlace {α : Type} (n : Node α) :
    n.evaluation.ShortCircuitsByPlace n.placed.evaluation where
  plain := n.shortCircuits_evaluation
  byPlace := n.placed.shortCircuits_evaluation
  leaves := n.leaves_placed
  increasing check := by
    have ordered := n.placed.shortCircuits_evaluation.ordered check
    rw [show n.placed.evaluation.leaves = n.leaves.zipIdx from n.leaves_placed] at ordered
    exact Evaluation.increasing_of_sublist_zipIdx ordered
  trace check := by
    have same := @Node.trace_map α (α × Nat) check Prod.fst n.placed
    rw [n.map_placed] at same
    exact same

/-- Evaluation gives the plain meaning of a tree and checks only leaves that matter, each place at
most once and from left to right. -/
theorem evaluation_shortCircuits {α : Type} :
    (∀ n : Node α, n.placed.map Prod.fst = n ∧
      n.evaluation.ShortCircuitsByPlace n.placed.evaluation) ∧
    ∀ w : When α, w.placed.map Prod.fst = w ∧
      w.evaluation.ShortCircuitsByPlace w.placed.evaluation := by
  refine ⟨fun n => ⟨n.map_placed, n.shortCircuitsByPlace⟩, fun w => ⟨w.map_placed, ?_⟩⟩
  -- The conditions of a rule are evaluated as one group of them all.
  exact (Node.all w.children).shortCircuitsByPlace

end Reveille
