import Reveille.Condition.Context
import Reveille.Condition.TreeLemmas

/-!
# What conditions mean

A tree means a proposition, once each of its leaves does. Evaluation decides it wherever the
checks decide the leaves. Seconds are compared exactly as long as no difference is clamped.
-/

namespace Reveille

namespace Node

variable {α β : Type}

mutual

/-- What a node says, `p` being what its leaves say. -/
def Sat (p : α → Prop) : Node α → Prop
  | .leaf a => p a
  | .all cs => AllSat p cs
  | .any cs => AnySat p cs
  | .not c => ¬ Sat p c

def AllSat (p : α → Prop) : List (Node α) → Prop
  | [] => True
  | c :: cs => Sat p c ∧ AllSat p cs

def AnySat (p : α → Prop) : List (Node α) → Prop
  | [] => False
  | c :: cs => Sat p c ∨ AnySat p cs

end

variable {check : α → Bool} {p : α → Prop}

mutual

theorem eval_iff_sat : ∀ n : Node α, (∀ a ∈ n.leaves, (check a = true ↔ p a)) →
    (n.eval check = true ↔ n.Sat p)
  | .leaf a, decides => decides a (List.mem_singleton_self a)
  | .all cs, decides => by
    rw [eval_all, Sat]
    exact all_eval_iff_allSat cs decides
  | .any cs, decides => by
    rw [eval_any, Sat]
    exact any_eval_iff_anySat cs decides
  | .not c, decides => by
    rw [eval_not, Sat, ← eval_iff_sat c decides, Bool.not_eq_true', Bool.not_eq_true]

theorem all_eval_iff_allSat : ∀ cs : List (Node α),
    (∀ a ∈ leavesList cs, (check a = true ↔ p a)) → (cs.all (eval check) = true ↔ AllSat p cs)
  | [], _ => by simp [AllSat]
  | c :: cs, decides => by
    rw [List.all_cons, Bool.and_eq_true, AllSat,
      eval_iff_sat c fun a mem => decides a (List.mem_append_left _ mem),
      all_eval_iff_allSat cs fun a mem => decides a (List.mem_append_right _ mem)]

theorem any_eval_iff_anySat : ∀ cs : List (Node α),
    (∀ a ∈ leavesList cs, (check a = true ↔ p a)) → (cs.any (eval check) = true ↔ AnySat p cs)
  | [], _ => by simp [AnySat]
  | c :: cs, decides => by
    rw [List.any_cons, Bool.or_eq_true, AnySat,
      eval_iff_sat c fun a mem => decides a (List.mem_append_left _ mem),
      any_eval_iff_anySat cs fun a mem => decides a (List.mem_append_right _ mem)]

end

mutual

theorem leaves_map (f : α → β) : ∀ n : Node α, (n.map f).leaves = n.leaves.map f
  | .leaf _ => rfl
  | .all cs => by rw [map_all, leaves, leaves, leavesList_map f cs]
  | .any cs => by rw [map_any, leaves, leaves, leavesList_map f cs]
  | .not c => by rw [map_not, leaves, leaves, leaves_map f c]

theorem leavesList_map (f : α → β) : ∀ cs : List (Node α),
    leavesList (cs.map (map f)) = (leavesList cs).map f
  | [] => rfl
  | c :: cs => by
    rw [List.map_cons, leavesList, leavesList, leaves_map f c, leavesList_map f cs,
      List.map_append]

end

end Node

namespace When

variable {α β : Type} {check : α → Bool} {p : α → Prop}

/-- What the conditions of a rule say. -/
def Sat (p : α → Prop) (w : When α) : Prop :=
  Node.AllSat p w.children

theorem eval_iff_sat {w : When α} (decides : ∀ a ∈ w.leaves, (check a = true ↔ p a)) :
    w.eval check = true ↔ w.Sat p := by
  rw [eval_eq_all]
  exact Node.all_eval_iff_allSat w.children decides

instance [DecidablePred p] (w : When α) : Decidable (w.Sat p) :=
  decidable_of_iff (w.eval (fun a => decide (p a)) = true)
    (eval_iff_sat fun _ _ => decide_eq_true_iff)

/-- Evaluation looks at the leaves only. -/
theorem eval_congr {check' : α → Bool} {w : When α} (same : ∀ a ∈ w.leaves, check a = check' a) :
    w.eval check = w.eval check' := by
  have left : w.eval check = true ↔ w.Sat fun a => check' a = true :=
    eval_iff_sat fun a mem => by rw [same a mem]
  have right : w.eval check' = true ↔ w.Sat fun a => check' a = true :=
    eval_iff_sat fun _ _ => Iff.rfl
  exact Bool.eq_iff_iff.mpr (left.trans right.symm)

theorem leaves_map (f : α → β) (w : When α) : (w.map f).leaves = w.leaves.map f := by
  rw [leaves, children_map, Node.leavesList_map, leaves]

end When

/-! ### Seconds -/

theorem maxSeconds_eq : maxSeconds = 9223372036854775807 := rfl

theorem minSeconds_eq : minSeconds = -9223372036854775808 := rfl

/-- The clamp on the seconds lets no number of them at the end of the range be exceeded. -/
theorem inactiveFor_iff {seconds : Nat} {since now : Int} :
    inactiveFor seconds (some since) now = true ↔
      (seconds : Int) < now - since ∧ (seconds : Int) < maxSeconds := by
  have clamped : inactiveFor seconds (some since) now = true ↔
      clampSeconds seconds < secondsBetween since now := decide_eq_true_iff
  rw [clamped, clampSeconds, secondsBetween, minSeconds_eq, maxSeconds_eq]
  omega

/-- Once the seconds gone by have reached the end of the range, any number of them is reached. -/
theorem holdOffElapsed_iff {seconds : Nat} {last now : Int} :
    holdOffElapsed seconds (some last) now = true ↔
      (seconds : Int) ≤ now - last ∨ maxSeconds ≤ now - last := by
  have clamped : holdOffElapsed seconds (some last) now = true ↔
      clampSeconds seconds ≤ secondsBetween last now := decide_eq_true_iff
  rw [clamped, clampSeconds, secondsBetween, minSeconds_eq, maxSeconds_eq]
  omega

theorem inactiveFor_some_iff {seconds : Nat} {since now : Int} (near : now - since < maxSeconds) :
    inactiveFor seconds (some since) now = true ↔ (seconds : Int) < now - since := by
  rw [inactiveFor_iff]
  omega

theorem holdOffElapsed_some_iff {seconds : Nat} {last now : Int} (near : now - last < maxSeconds) :
    holdOffElapsed seconds (some last) now = true ↔ (seconds : Int) ≤ now - last := by
  rw [holdOffElapsed_iff]
  omega

/-- What a longer hold-off allows, a shorter one does. -/
theorem holdOffElapsed_of_le {shorter longer : Nat} {last : Option Int} {now : Int}
    (order : shorter ≤ longer) (elapsed : holdOffElapsed longer last now = true) :
    holdOffElapsed shorter last now = true := by
  cases last with
  | none => rfl
  | some last =>
    rw [holdOffElapsed_iff] at elapsed ⊢
    omega

open Reveille.Calendar in
/-- Seconds that have dates are far closer than the range of the clamp. -/
theorem sub_lt_maxSeconds {since now : Int} (dated : Instant.isDated since = true)
    (datedNow : Instant.isDated now = true) : now - since < maxSeconds := by
  rw [Instant.isDated_iff] at dated datedNow
  rw [maxSeconds_eq]
  omega

end Reveille
