/-!
# Condition trees

Trees of `all`, `any` and `not` over leaves of any type. `evalM` checks leaves from left to
right, and only as far as they decide the result; `mapM` visits every leaf in the order in
which `leaves` lists them.
-/

namespace Reveille

inductive Node (α : Type) where
  | leaf (value : α)
  /-- Every child holds. -/
  | all (children : List (Node α))
  /-- Some child holds. -/
  | any (children : List (Node α))
  /-- The child does not hold. -/
  | not (child : Node α)
deriving Repr

/-- The conditions of a rule: all of its children hold. -/
structure When (α : Type) where
  children : List (Node α)
deriving Repr

namespace Node

variable {α β : Type} {m : Type → Type} [Monad m]

mutual

/-- Replaces every leaf by what `f` makes of it, from left to right. -/
def mapM (f : α → m β) : Node α → m (Node β)
  | .leaf a => return .leaf (← f a)
  | .all cs => return .all (← mapListM f cs)
  | .any cs => return .any (← mapListM f cs)
  | .not c => return .not (← mapM f c)

/-- `mapM` on each node of a list. -/
def mapListM (f : α → m β) : List (Node α) → m (List (Node β))
  | [] => return []
  | c :: cs => do
    let c ← mapM f c
    let cs ← mapListM f cs
    return c :: cs

end

/-- Replaces every leaf. -/
def map (f : α → β) (n : Node α) : Node β :=
  Id.run (n.mapM fun a => pure (f a))

mutual

/-- The leaves below a node, from left to right. -/
def leaves : Node α → List α
  | .leaf a => [a]
  | .all cs => leavesList cs
  | .any cs => leavesList cs
  | .not c => leaves c

def leavesList : List (Node α) → List α
  | [] => []
  | c :: cs => leaves c ++ leavesList cs

end

mutual

/-- The number of levels, a leaf being one. -/
def depth : Node α → Nat
  | .leaf _ => 1
  | .all cs => 1 + depthList cs
  | .any cs => 1 + depthList cs
  | .not c => 1 + depth c

def depthList : List (Node α) → Nat
  | [] => 0
  | c :: cs => max (depth c) (depthList cs)

end

mutual

def evalM (check : α → m Bool) : Node α → m Bool
  | .leaf a => check a
  | .all cs => allM check cs
  | .any cs => anyM check cs
  | .not c => return !(← evalM check c)

/-- Evaluates nodes up to the first that does not hold. -/
def allM (check : α → m Bool) : List (Node α) → m Bool
  | [] => return true
  | c :: cs => do
    if ← evalM check c then allM check cs else return false

/-- Evaluates nodes up to the first that holds. -/
def anyM (check : α → m Bool) : List (Node α) → m Bool
  | [] => return false
  | c :: cs => do
    if ← evalM check c then return true else anyM check cs

end

/-- Evaluates a node, given what each leaf evaluates to. -/
def eval (check : α → Bool) (n : Node α) : Bool :=
  Id.run (n.evalM fun a => pure (check a))

mutual

/-- The text of a node, given the text of each leaf. -/
def chars (leaf : α → List Char) : Node α → List Char
  | .leaf a => leaf a
  | .all cs => "all(".toList ++ List.intercalate [',', ' '] (charsList leaf cs) ++ [')']
  | .any cs => "any(".toList ++ List.intercalate [',', ' '] (charsList leaf cs) ++ [')']
  | .not c => "not(".toList ++ chars leaf c ++ [')']

def charsList (leaf : α → List Char) : List (Node α) → List (List Char)
  | [] => []
  | c :: cs => chars leaf c :: charsList leaf cs

end

mutual

/-- Equality of nodes is decidable where equality of leaves is. -/
def decEq [DecidableEq α] : (a b : Node α) → Decidable (a = b)
  | .leaf a, .leaf b => decidable_of_iff (a = b) (by simp)
  | .all as, .all bs => @decidable_of_iff _ (as = bs) (by simp) (decEqList as bs)
  | .any as, .any bs => @decidable_of_iff _ (as = bs) (by simp) (decEqList as bs)
  | .not a, .not b => @decidable_of_iff _ (a = b) (by simp) (decEq a b)
  | .leaf _, .all _ | .leaf _, .any _ | .leaf _, .not _ => isFalse (by simp)
  | .all _, .leaf _ | .all _, .any _ | .all _, .not _ => isFalse (by simp)
  | .any _, .leaf _ | .any _, .all _ | .any _, .not _ => isFalse (by simp)
  | .not _, .leaf _ | .not _, .all _ | .not _, .any _ => isFalse (by simp)

/-- `decEq` on lists of nodes. -/
def decEqList [DecidableEq α] : (as bs : List (Node α)) → Decidable (as = bs)
  | [], [] => isTrue rfl
  | [], _ :: _ => isFalse (by simp)
  | _ :: _, [] => isFalse (by simp)
  | a :: as, b :: bs =>
    match decEq a b, decEqList as bs with
    | isTrue h, isTrue t => isTrue (by rw [h, t])
    | isFalse h, _ => isFalse fun e => h (List.cons.inj e).1
    | _, isFalse t => isFalse fun e => t (List.cons.inj e).2

end

instance [DecidableEq α] : DecidableEq (Node α) := decEq

end Node

namespace When

variable {α β : Type} {m : Type → Type} [Monad m]

instance [DecidableEq α] : DecidableEq (When α) := fun a b =>
  decidable_of_iff (a.children = b.children) (by cases a; cases b; simp)

/-- Replaces every leaf by what `f` makes of it, from left to right. -/
def mapM (f : α → m β) (w : When α) : m (When β) :=
  return ⟨← Node.mapListM f w.children⟩

/-- Replaces every leaf. -/
def map (f : α → β) (w : When α) : When β :=
  Id.run (w.mapM fun a => pure (f a))

def leaves (w : When α) : List α :=
  Node.leavesList w.children

def isEmpty (w : When α) : Bool :=
  w.children.isEmpty

/-- Evaluates the children up to the first that does not hold. -/
def evalM (check : α → m Bool) (w : When α) : m Bool :=
  Node.allM check w.children

def eval (check : α → Bool) (w : When α) : Bool :=
  Id.run (w.evalM fun a => pure (check a))

def chars (leaf : α → List Char) (w : When α) : List Char :=
  "when(".toList ++ List.intercalate [',', ' '] (Node.charsList leaf w.children) ++ [')']

end When

end Reveille
