import Reveille.Condition.Tree

/-!
# Equations of condition trees

Without effects, evaluation is plain Boolean logic and `map` goes to the children: one equation
for each kind of node, and one for its text.
-/

namespace Reveille

namespace Node

variable {α β γ : Type}

theorem run_allM (check : α → Bool) (cs : List (Node α)) :
    Id.run (allM (fun a => pure (check a)) cs) = cs.all (eval check) := by
  induction cs with
  | nil => rfl
  | cons c cs ih =>
    rw [List.all_cons, ← ih, allM]
    show (if c.eval check then _ else _) = _
    cases c.eval check <;> rfl

theorem run_anyM (check : α → Bool) (cs : List (Node α)) :
    Id.run (anyM (fun a => pure (check a)) cs) = cs.any (eval check) := by
  induction cs with
  | nil => rfl
  | cons c cs ih =>
    rw [List.any_cons, ← ih, anyM]
    show (if c.eval check then _ else _) = _
    cases c.eval check <;> rfl

@[simp] theorem eval_leaf (check : α → Bool) (a : α) : (leaf a).eval check = check a := rfl

@[simp] theorem eval_all (check : α → Bool) (cs : List (Node α)) :
    (all cs).eval check = cs.all (eval check) :=
  run_allM check cs

@[simp] theorem eval_any (check : α → Bool) (cs : List (Node α)) :
    (any cs).eval check = cs.any (eval check) :=
  run_anyM check cs

@[simp] theorem eval_not (check : α → Bool) (c : Node α) :
    (Node.not c).eval check = !c.eval check := rfl

theorem run_mapListM (f : α → β) (cs : List (Node α)) :
    Id.run (mapListM (fun a => pure (f a)) cs) = cs.map (map f) := by
  induction cs with
  | nil => rfl
  | cons c cs ih => rw [List.map_cons, ← ih]; rfl

@[simp] theorem map_leaf (f : α → β) (a : α) : (leaf a).map f = leaf (f a) := rfl

@[simp] theorem map_all (f : α → β) (cs : List (Node α)) :
    (all cs).map f = all (cs.map (map f)) :=
  congrArg all (run_mapListM f cs)

@[simp] theorem map_any (f : α → β) (cs : List (Node α)) :
    (any cs).map f = any (cs.map (map f)) :=
  congrArg any (run_mapListM f cs)

@[simp] theorem map_not (f : α → β) (c : Node α) : (Node.not c).map f = .not (c.map f) := rfl

mutual

theorem map_id : ∀ n : Node α, n.map id = n
  | .leaf _ => rfl
  | .all cs => by rw [map_all, mapList_id cs]
  | .any cs => by rw [map_any, mapList_id cs]
  | .not c => by rw [map_not, map_id c]

theorem mapList_id : ∀ cs : List (Node α), cs.map (map id) = cs
  | [] => rfl
  | c :: cs => by rw [List.map_cons, map_id c, mapList_id cs]

end

mutual

theorem map_map (g : β → γ) (f : α → β) : ∀ n : Node α, (n.map f).map g = n.map (g ∘ f)
  | .leaf _ => rfl
  | .all cs => by rw [map_all, map_all, map_all, mapList_map g f cs]
  | .any cs => by rw [map_any, map_any, map_any, mapList_map g f cs]
  | .not c => by rw [map_not, map_not, map_not, map_map g f c]

theorem mapList_map (g : β → γ) (f : α → β) : ∀ cs : List (Node α),
    (cs.map (map f)).map (map g) = cs.map (map (g ∘ f))
  | [] => rfl
  | c :: cs => by
    rw [List.map_cons, List.map_cons, List.map_cons, map_map g f c, mapList_map g f cs]

end

mutual

theorem depth_map (f : α → β) : ∀ n : Node α, (n.map f).depth = n.depth
  | .leaf _ => rfl
  | .all cs => by rw [map_all, depth, depth, depthList_map f cs]
  | .any cs => by rw [map_any, depth, depth, depthList_map f cs]
  | .not c => by rw [map_not, depth, depth, depth_map f c]

theorem depthList_map (f : α → β) : ∀ cs : List (Node α),
    depthList (cs.map (map f)) = depthList cs
  | [] => rfl
  | c :: cs => by rw [List.map_cons, depthList, depthList, depth_map f c, depthList_map f cs]

end

theorem leavesList_eq_flatMap (cs : List (Node α)) : leavesList cs = cs.flatMap leaves := by
  induction cs with
  | nil => rfl
  | cons c cs ih => rw [leavesList, ih, List.flatMap_cons]

@[simp] theorem chars_leaf (leaf : α → List Char) (a : α) : (Node.leaf a).chars leaf = leaf a := rfl

@[simp] theorem chars_all (leaf : α → List Char) (cs : List (Node α)) :
    (all cs).chars leaf =
      "all(".toList ++ List.intercalate [',', ' '] (charsList leaf cs) ++ [')'] := rfl

@[simp] theorem chars_any (leaf : α → List Char) (cs : List (Node α)) :
    (any cs).chars leaf =
      "any(".toList ++ List.intercalate [',', ' '] (charsList leaf cs) ++ [')'] := rfl

@[simp] theorem chars_not (leaf : α → List Char) (c : Node α) :
    (Node.not c).chars leaf = "not(".toList ++ c.chars leaf ++ [')'] := rfl

theorem charsList_eq_map (leaf : α → List Char) (cs : List (Node α)) :
    charsList leaf cs = cs.map (chars leaf) := by
  induction cs with
  | nil => rfl
  | cons c cs ih => rw [charsList, ih, List.map_cons]

mutual

theorem chars_map (leaf : β → List Char) (f : α → β) : ∀ n : Node α,
    (n.map f).chars leaf = n.chars (leaf ∘ f)
  | .leaf _ => rfl
  | .all cs => by rw [map_all, chars_all, chars_all, charsList_map leaf f cs]
  | .any cs => by rw [map_any, chars_any, chars_any, charsList_map leaf f cs]
  | .not c => by rw [map_not, chars_not, chars_not, chars_map leaf f c]

theorem charsList_map (leaf : β → List Char) (f : α → β) : ∀ cs : List (Node α),
    charsList leaf (cs.map (map f)) = charsList (leaf ∘ f) cs
  | [] => rfl
  | c :: cs => by
    rw [List.map_cons, charsList, charsList, chars_map leaf f c, charsList_map leaf f cs]

end

end Node

namespace When

variable {α β : Type}

theorem eval_eq_all (check : α → Bool) (w : When α) :
    w.eval check = w.children.all (Node.eval check) :=
  Node.run_allM check w.children

@[simp] theorem children_map (f : α → β) (w : When α) :
    (w.map f).children = w.children.map (Node.map f) :=
  Node.run_mapListM f w.children

theorem chars_map (leaf : β → List Char) (f : α → β) (w : When α) :
    (w.map f).chars leaf = w.chars (leaf ∘ f) := by
  show "when(".toList ++ _ ++ [')'] = "when(".toList ++ _ ++ [')']
  rw [children_map, Node.charsList_map]

end When

end Reveille
