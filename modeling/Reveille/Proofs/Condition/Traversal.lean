import Reveille.Condition.TreeLemmas

/-!
# Going through the leaves of a tree

`mapM` goes through the leaves as a list of them would be gone through, whatever effects there
are. So leaves can be told apart: each gets its place in the list of leaves.
-/

namespace Reveille

namespace Node

variable {α β γ : Type}

section Effects

variable {m : Type → Type} [Monad m] [LawfulMonad m]

mutual

/-- The leaves of the new tree are what comes of the leaves, one after the other. -/
theorem leaves_mapM (f : α → m β) : ∀ n : Node α, leaves <$> n.mapM f = n.leaves.mapM f
  | .leaf a => by simp [mapM, leaves]
  | .all cs => by
    rw [mapM, leaves, ← leavesList_mapListM f cs]
    simp [leaves]
  | .any cs => by
    rw [mapM, leaves, ← leavesList_mapListM f cs]
    simp [leaves]
  | .not c => by
    rw [mapM, leaves, ← leaves_mapM f c]
    simp [leaves]

theorem leavesList_mapListM (f : α → m β) : ∀ cs : List (Node α),
    leavesList <$> mapListM f cs = (leavesList cs).mapM f
  | [] => by simp [mapListM, leavesList]
  | c :: cs => by
    rw [mapListM, leavesList, List.mapM_append, ← leaves_mapM f c, ← leavesList_mapListM f cs]
    simp [leavesList]

end

end Effects

section State

variable {σ : Type} {f : α → StateM σ β} {g : β → γ} {h : α → γ}

mutual

/-- What is seen of each new leaf as of the old one is seen of the new tree as of the old one. -/
theorem map_run_mapM (alike : ∀ a s, g ((f a).run s).1 = h a) :
    ∀ (n : Node α) (s : σ), ((n.mapM f).run s).1.map g = n.map h
  | .leaf a, s => congrArg leaf (alike a s)
  | .all cs, s => by
    rw [map_all, ← map_run_mapListM alike cs s]
    exact map_all g _
  | .any cs, s => by
    rw [map_any, ← map_run_mapListM alike cs s]
    exact map_any g _
  | .not c, s => congrArg Node.not (map_run_mapM alike c s)

theorem map_run_mapListM (alike : ∀ a s, g ((f a).run s).1 = h a) :
    ∀ (cs : List (Node α)) (s : σ), ((mapListM f cs).run s).1.map (map g) = cs.map (map h)
  | [], _ => rfl
  | c :: cs, s =>
    List.cons_eq_cons.mpr ⟨map_run_mapM alike c s, map_run_mapListM alike cs _⟩

end

end State

/-! ### Places -/

def place (a : α) : StateM Nat (α × Nat) :=
  modifyGet fun next => ((a, next), next + 1)

theorem run_mapM_place (as : List α) (next : Nat) :
    ((as.mapM place).run next).1 = as.zipIdx next := by
  induction as generalizing next with
  | nil => rfl
  | cons a as ih =>
    rw [List.mapM_cons, List.zipIdx_cons, ← ih]
    rfl

/-- Each leaf with its place in the list of leaves. -/
def placed (n : Node α) : Node (α × Nat) :=
  ((n.mapM place).run 0).1

theorem leaves_placed (n : Node α) : n.placed.leaves = n.leaves.zipIdx := by
  rw [← run_mapM_place, ← leaves_mapM]
  rfl

theorem map_placed (n : Node α) : n.placed.map Prod.fst = n :=
  (map_run_mapM (fun _ _ => rfl) n 0).trans (map_id n)

end Node

namespace When

variable {α : Type}

def placed (w : When α) : When (α × Nat) :=
  ((w.mapM Node.place).run 0).1

theorem map_placed (w : When α) : w.placed.map Prod.fst = w :=
  congrArg When.mk ((children_map Prod.fst w.placed).trans
    ((Node.map_run_mapListM (fun _ _ => rfl) w.children 0).trans (Node.mapList_id w.children)))

end When

end Reveille
