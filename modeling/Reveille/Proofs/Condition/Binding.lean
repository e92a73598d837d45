import Reveille.Proofs.Condition.Traversal
import Reveille.Proofs.Rule.Built

/-!
# Binding conditions to a host

Whatever is done at the leaves of a tree, each of them is visited once, from left to right, and
the tree keeps its form. So binding reaches every leaf, at whichever depth, and no rule has a
condition that lacks the host it is asked of.
-/

namespace Reveille

open Reveille.Net

/-- `f`, with a note of each leaf that it is asked for. -/
def visiting {α β σ : Type} (f : α → StateM σ β) (a : α) : StateM (σ × List α) β :=
  modifyGet fun (s, seen) => (((f a).run s).1, ((f a).run s).2, seen ++ [a])

namespace Node

variable {α β σ : Type}

/-- A tree without what its leaves hold. -/
def shape (n : Node α) : Node Unit :=
  n.map fun _ => ()

mutual

/-- A node and all nodes below it, each in front of those below it. -/
def subtrees : Node α → List (Node α)
  | .leaf a => [.leaf a]
  | .all cs => .all cs :: subtreesList cs
  | .any cs => .any cs :: subtreesList cs
  | .not c => .not c :: subtrees c

def subtreesList : List (Node α) → List (Node α)
  | [] => []
  | c :: cs => subtrees c ++ subtreesList cs

end

mutual

theorem subtrees_map (f : α → β) : ∀ n : Node α, (n.map f).subtrees = n.subtrees.map (map f)
  | .leaf _ => rfl
  | .all cs => by
    rw [map_all, subtrees, subtrees, subtreesList_map f cs, List.map_cons, map_all]
  | .any cs => by
    rw [map_any, subtrees, subtrees, subtreesList_map f cs, List.map_cons, map_any]
  | .not c => by
    rw [map_not, subtrees, subtrees, subtrees_map f c, List.map_cons, map_not]

theorem subtreesList_map (f : α → β) : ∀ cs : List (Node α),
    subtreesList (cs.map (map f)) = (subtreesList cs).map (map f)
  | [] => rfl
  | c :: cs => by
    rw [List.map_cons, subtreesList, subtreesList, subtrees_map f c, subtreesList_map f cs,
      List.map_append]

end

/-- Trees of one form have nodes of one form all over, at the same depths. -/
theorem forall₂_subtreesList {as : List (Node α)} {bs : List (Node β)}
    (alike : as.map shape = bs.map shape) :
    List.Forall₂ (fun a b => a.shape = b.shape ∧ a.depth = b.depth)
      (subtreesList as) (subtreesList bs) := by
  have shapes : (subtreesList as).map shape = (subtreesList bs).map shape := by
    have below := congrArg subtreesList alike
    unfold shape at below ⊢
    rw [subtreesList_map, subtreesList_map] at below
    exact below
  rw [← List.forall₂_eq_eq_eq, List.forall₂_map_left_iff, List.forall₂_map_right_iff] at shapes
  refine shapes.imp fun a b same => ⟨same, ?_⟩
  calc a.depth = a.shape.depth := (depth_map _ a).symm
    _ = b.shape.depth := congrArg depth same
    _ = b.depth := depth_map _ b

-- What has been seen before stays in front, so the induction is for any such list.
mutual

theorem run_mapM_visiting (f : α → StateM σ β) : ∀ (n : Node α) (s : σ) (seen : List α),
    (n.mapM (visiting f)).run (s, seen) =
      (((n.mapM f).run s).1, ((n.mapM f).run s).2, seen ++ n.leaves)
  | .leaf _, _, _ => rfl
  | .all cs, s, seen => by
    rw [mapM, StateT.run_bind, run_mapListM_visiting f cs s seen]
    rfl
  | .any cs, s, seen => by
    rw [mapM, StateT.run_bind, run_mapListM_visiting f cs s seen]
    rfl
  | .not c, s, seen => by
    rw [mapM, StateT.run_bind, run_mapM_visiting f c s seen]
    rfl

theorem run_mapListM_visiting (f : α → StateM σ β) :
    ∀ (cs : List (Node α)) (s : σ) (seen : List α),
      (mapListM (visiting f) cs).run (s, seen) =
        (((mapListM f cs).run s).1, ((mapListM f cs).run s).2, seen ++ leavesList cs)
  | [], _, seen => by
    rw [leavesList, List.append_nil]
    rfl
  | c :: cs, s, seen => by
    have later := run_mapListM_visiting f cs ((c.mapM f).run s).2 (seen ++ c.leaves)
    rw [mapListM, StateT.run_bind, run_mapM_visiting f c s seen, leavesList, ← List.append_assoc]
    show ((mapListM (visiting f) cs >>= _).run _) = _
    rw [StateT.run_bind, later]
    rfl

end

mutual

/-- If every leaf is answered, so is the tree. -/
theorem evalM_eq_some {check? : α → Option Bool} {check : α → Bool} : ∀ n : Node α,
    (∀ a ∈ n.leaves, check? a = some (check a)) → n.evalM check? = some (n.eval check)
  | .leaf a, answered => answered a (List.mem_singleton_self a)
  | .all cs, answered => by
    rw [eval_all]
    exact allM_eq_some cs answered
  | .any cs, answered => by
    rw [eval_any]
    exact anyM_eq_some cs answered
  | .not c, answered => by
    rw [evalM, evalM_eq_some c answered]
    rfl

theorem allM_eq_some {check? : α → Option Bool} {check : α → Bool} : ∀ cs : List (Node α),
    (∀ a ∈ leavesList cs, check? a = some (check a)) →
      allM check? cs = some (cs.all (eval check))
  | [], _ => rfl
  | c :: cs, answered => by
    rw [leavesList, List.forall_mem_append] at answered
    rw [allM, evalM_eq_some c answered.1, List.all_cons]
    cases c.eval check with
    | true => exact allM_eq_some cs answered.2
    | false => rfl

theorem anyM_eq_some {check? : α → Option Bool} {check : α → Bool} : ∀ cs : List (Node α),
    (∀ a ∈ leavesList cs, check? a = some (check a)) →
      anyM check? cs = some (cs.any (eval check))
  | [], _ => rfl
  | c :: cs, answered => by
    rw [leavesList, List.forall_mem_append] at answered
    rw [anyM, evalM_eq_some c answered.1, List.any_cons]
    cases c.eval check with
    | true => rfl
    | false => exact anyM_eq_some cs answered.2

end

end Node

namespace When

variable {α β σ : Type}

def subtrees (w : When α) : List (Node α) :=
  Node.subtreesList w.children

/-- Going through the leaves of `w` with `f` has led from the state `s` to `s'`, and from `w`
to `w'`. -/
structure Carried (f : α → StateM σ β) (s : σ) (w : When α) (w' : When β) (s' : σ) : Prop where
  /-- Each leaf is visited once, in the order of the leaves. -/
  visited : (w.mapM (visiting f)).run (s, []) = (w', s', w.leaves)
  /-- The new leaves are what comes of the leaves in that order. -/
  results : (w.leaves.mapM f).run s = (w'.leaves, s')
  shape : w'.children.map Node.shape = w.children.map Node.shape
  /-- So are the nodes at every depth, one by one. -/
  nodes : List.Forall₂ (fun n' n => n'.shape = n.shape ∧ n'.depth = n.depth)
    w'.subtrees w.subtrees

theorem carried (f : α → StateM σ β) (s : σ) (w : When α) :
    Carried f s w ((w.mapM f).run s).1 ((w.mapM f).run s).2 := by
  have shape : ((w.mapM f).run s).1.children.map Node.shape = w.children.map Node.shape :=
    Node.map_run_mapListM (fun _ _ => rfl) w.children s
  refine ⟨?_, ?_, shape, Node.forall₂_subtreesList shape⟩
  · rw [mapM, StateT.run_bind, Node.run_mapListM_visiting]
    rfl
  · rw [leaves, ← Node.leavesList_mapListM]
    rfl

/-- What is asked of the host: the hold-offs and nothing else. -/
structure AskedOf (host : Host) (c : Condition) (b : BoundCondition) : Prop where
  condition : b.condition = c
  holdOff : ∀ n, c = .holdOff n → b.host = some host
  other : (∀ n, c ≠ .holdOff n) → b.host = none

theorem askedOf_ofCondition (host : Host) (c : Condition) :
    AskedOf host c (.ofCondition host c) where
  condition := rfl
  holdOff n same := by
    rw [same]
    rfl
  other none := by
    cases c with
    | holdOff n => exact absurd rfl (none n)
    | _ => rfl

structure BoundTo (host : Host) (w : When Condition) (w' : When BoundCondition) : Prop where
  leaves : List.Forall₂ (AskedOf host) w.leaves w'.leaves
  shape : w'.children.map Node.shape = w.children.map Node.shape
  text : w'.chars BoundCondition.chars = w.chars Condition.chars

theorem boundTo_bind (host : Host) (w : When Condition) : BoundTo host w (w.bind host) where
  leaves := by
    rw [bind, leaves_map, List.forall₂_map_right_iff, List.forall₂_same]
    intro c _
    exact askedOf_ofCondition host c
  shape := by
    rw [bind, children_map, List.map_map]
    exact List.map_congr_left fun n _ => Node.map_map _ _ n
  text := chars_map _ _ w

end When

/-! ### Conditions that lack a host -/

/-- The check of a condition, with no answer for one that lacks the host it is asked of. -/
def BoundCondition.check? (ctx : Context) (b : BoundCondition) : Option Bool :=
  match b.condition, b.host with
  | .holdOff _, none => none
  | _, _ => some (b.check ctx)

theorem BoundCondition.check?_ofCondition (ctx : Context) (host : Host) (c : Condition) :
    (ofCondition host c).check? ctx = some ((ofCondition host c).check ctx) := by
  cases c <;> rfl

/-- Whether a rule holds, as far as its conditions are answered. Its hold-off is asked of its host
like a condition. -/
def Rule.holds? (ctx : Context) (r : Rule) : Option Bool := do
  if ← (BoundCondition.ofCondition r.host (.holdOff r.holdOff)).check? ctx then
    r.conditions.evalM (BoundCondition.check? ctx)
  else return false

theorem Rule.holds?_eq {r : Rule} (own : r.AsksOwnHost) (ctx : Context) :
    r.holds? ctx = some (r.holds ctx) := by
  have conditions : r.conditions.evalM (BoundCondition.check? ctx) =
      some (r.conditions.holds ctx) := by
    rw [When.holds, When.eval_eq_all]
    apply Node.allM_eq_some
    intro b mem
    obtain ⟨c, rfl⟩ := own b mem
    exact BoundCondition.check?_ofCondition ctx r.host c
  rw [holds?, BoundCondition.check?_ofCondition, holds, conditions]
  show (if holdOffElapsed _ _ _ then _ else _) = _
  cases holdOffElapsed r.holdOff (ctx.wakes.get? r.host) ctx.epoch <;> rfl

/-- Going through a tree visits its leaves in order and keeps its form, whatever is done at them.
Binding hands the host to the hold-offs, and to no other leaf, at every depth. The conditions of
every rule are answered in every context. -/
theorem binding_reaches_leaves :
    (∀ (α β σ : Type) (f : α → StateM σ β) (s : σ) (w : When α),
      When.Carried f s w ((w.mapM f).run s).1 ((w.mapM f).run s).2) ∧
    (∀ (host : Host) (w : When Condition), When.BoundTo host w (w.bind host)) ∧
    ∀ r : Rule, r.Built →
      (∀ b ∈ r.conditions.leaves, ∀ n, b.condition = .holdOff n → b.host = some r.host) ∧
      ∀ ctx, r.holds? ctx = some (r.holds ctx) := by
  refine ⟨fun _ _ _ => When.carried, When.boundTo_bind, fun r built => ⟨?_, ?_⟩⟩
  · intro b mem n holdOff
    obtain ⟨c, rfl⟩ := built.asksOwnHost b mem
    exact (When.askedOf_ofCondition r.host c).holdOff n holdOff
  · exact Rule.holds?_eq built.asksOwnHost

/-- Hold-offs two and three levels down, beside a condition that is asked of no host. -/
def nested : When Condition :=
  ⟨[.leaf (.inactiveFor 60), .not (.any [.leaf (.holdOff 500), .all [.leaf (.holdOff 900)]])]⟩

theorem binding_reaches_leaves_nested :
    let host : Host := ⟨none, ⟨0, 17, 34, 51, 68, 85⟩⟩
    let rule := Rule.make host 300 nested
    let ctx : Context := ⟨⟨0, ⟨0, 0⟩⟩, 1000, some 0, HostLog.empty.record host 600⟩
    rule.Built ∧ (∀ b ∈ rule.conditions.leaves, ∀ n, b.condition = .holdOff n → b.host = some host) ∧
      rule.conditions.leaves.map BoundCondition.host = [none, some host, some host] ∧
      rule.holds? ctx = some true := by
  intro host rule ctx
  obtain ⟨-, -, rules⟩ := binding_reaches_leaves
  have built : rule.Built := .make host 300 nested
  obtain ⟨bound, answered⟩ := rules rule built
  exact ⟨built, bound, rfl, (answered ctx).trans (by decide)⟩

end Reveille
