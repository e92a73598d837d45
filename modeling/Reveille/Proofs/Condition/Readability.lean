import Reveille.Proofs.Calendar.Shown
import Reveille.Proofs.RuleText.WellFormed

/-!
# Reading the text of conditions back

The text of a condition tells where it ends, whatever follows it, so commas between conditions
and commas between the days of one of them cannot be confused. So the text of a tree tells the
tree.
-/

namespace Reveille

open Reveille.Calendar Reveille.Text

/-- Whatever follows the texts of two values, the two differ, or else the values are the same and
so is what follows. -/
def Delimits {α : Type} (text : α → List Char) (a b : α) : Prop :=
  ∀ x y, text a ++ x = text b ++ y → a = b ∧ x = y

/-! ### Lists -/

section Lists

variable {α : Type} {text : α → List Char} {close : Char}

/-- Items with a comma before each, and the closing character. -/
def followingChars (close : Char) : List (List Char) → List Char
  | [] => [close]
  | item :: items => ',' :: ' ' :: (item ++ followingChars close items)

theorem intercalate_concat (close : Char) (item : List Char) (items : List (List Char)) :
    List.intercalate [',', ' '] (item :: items) ++ [close] = item ++ followingChars close items := by
  induction items generalizing item with
  | nil => rw [List.intercalate_singleton, followingChars]
  | cons next items ih =>
    rw [List.intercalate_cons_cons, List.append_assoc, ih, List.append_assoc, followingChars]
    rfl

theorem following_delimits (notComma : close ≠ ',') {as bs : List α}
    (each : ∀ a ∈ as, ∀ b ∈ bs, Delimits text a b) {x y : List Char}
    (same : followingChars close (as.map text) ++ x = followingChars close (bs.map text) ++ y) :
    as = bs ∧ x = y := by
  induction as generalizing bs with
  | nil =>
    cases bs with
    | nil => exact ⟨rfl, (List.cons.inj same).2⟩
    | cons b bs => exact absurd (List.cons.inj same).1 notComma
  | cons a as ih =>
    cases bs with
    | nil => exact absurd (List.cons.inj same).1.symm notComma
    | cons b bs =>
      simp only [List.map_cons, followingChars, List.cons_append, List.append_assoc,
        List.cons.injEq, true_and] at same
      obtain ⟨rfl, rest⟩ := each a List.mem_cons_self b List.mem_cons_self _ _ same
      obtain ⟨rfl, rfl⟩ := ih (fun a first b second =>
        each a (List.mem_cons_of_mem _ first) b (List.mem_cons_of_mem _ second)) rest
      exact ⟨rfl, rfl⟩

/-- No item may start with the character that ends the list. -/
theorem list_delimits (notComma : close ≠ ',') {as bs : List α}
    (each : ∀ a ∈ as, ∀ b ∈ bs, Delimits text a b)
    (starts : ∀ a, (text a).head? ≠ some close ∧ text a ≠ []) {x y : List Char}
    (same : List.intercalate [',', ' '] (as.map text) ++ [close] ++ x =
      List.intercalate [',', ' '] (bs.map text) ++ [close] ++ y) : as = bs ∧ x = y := by
  have filled : ∀ (a : α) (s : List Char), (text a ++ s).head? ≠ some close := by
    intro a s
    rw [List.head?_append_of_ne_nil _ (starts a).2]
    exact (starts a).1
  cases as with
  | nil =>
    cases bs with
    | nil => exact ⟨rfl, (List.cons.inj same).2⟩
    | cons b bs =>
      rw [List.map_cons, intercalate_concat, List.append_assoc (text b)] at same
      exact absurd (congrArg List.head? same.symm) (filled b _)
  | cons a as =>
    cases bs with
    | nil =>
      rw [List.map_cons, intercalate_concat, List.append_assoc] at same
      exact absurd (congrArg List.head? same) (filled a _)
    | cons b bs =>
      rw [List.map_cons, List.map_cons, intercalate_concat, intercalate_concat, List.append_assoc,
        List.append_assoc] at same
      obtain ⟨rfl, rest⟩ := each a List.mem_cons_self b List.mem_cons_self _ _ same
      obtain ⟨rfl, rfl⟩ := following_delimits notComma (fun a first b second =>
        each a (List.mem_cons_of_mem _ first) b (List.mem_cons_of_mem _ second)) rest
      exact ⟨rfl, rfl⟩

end Lists

/-! ### Trees -/

namespace Node

variable {α : Type} {leaf : α → List Char} {p : α → Prop}

/-- The texts of leaves tell the leaves in question, and do not start as groups do or end them. -/
structure LeavesDelimit (leaf : α → List Char) (p : α → Prop) : Prop where
  delimits : ∀ a b, p a → p b → Delimits leaf a b
  starts : ∀ a, ∃ c s, leaf a = c :: s ∧ c ∉ ['a', 'n', ')']

theorem head?_chars (leaves : LeavesDelimit leaf p) (n : Node α) :
    (n.chars leaf).head? ≠ some ')' ∧ n.chars leaf ≠ [] := by
  cases n with
  | leaf a =>
    obtain ⟨c, s, text, start⟩ := leaves.starts a
    rw [chars_leaf, text, List.head?_cons]
    refine ⟨?_, by simp⟩
    rintro ⟨⟩
    exact start (by decide)
  | all cs => simp
  | any cs => simp
  | not c => simp

/-- The texts of groups start with these characters. -/
theorem leaf_ne_group (leaves : LeavesDelimit leaf p) (a : α) {c : Char} (start : c ∈ ['a', 'n', ')'])
    {x y : List Char} : leaf a ++ x ≠ c :: y := by
  obtain ⟨d, s, text, other⟩ := leaves.starts a
  rw [text]
  intro same
  obtain rfl := (List.cons.inj same).1
  exact other start

theorem group_delimits (leaves : LeavesDelimit leaf p) {cs ds : List (Node α)}
    (each : ∀ c ∈ cs, ∀ d ∈ ds, Delimits (chars leaf) c d) {x y : List Char}
    (same : List.intercalate [',', ' '] (charsList leaf cs) ++ [')'] ++ x =
      List.intercalate [',', ' '] (charsList leaf ds) ++ [')'] ++ y) : cs = ds ∧ x = y := by
  rw [charsList_eq_map, charsList_eq_map] at same
  exact list_delimits (by decide) each (head?_chars leaves) same

mutual

theorem chars_delimits (leaves : LeavesDelimit leaf p) : ∀ n m : Node α,
    (∀ a ∈ n.leaves, p a) → (∀ a ∈ m.leaves, p a) → Delimits (chars leaf) n m
  | .leaf a, m, held, held' => by
    intro x y same
    cases m with
    | leaf b =>
      obtain ⟨rfl, rest⟩ := leaves.delimits a b (held a (by simp [Node.leaves]))
        (held' b (by simp [Node.leaves])) x y same
      exact ⟨rfl, rest⟩
    | all ds => exact absurd same (leaf_ne_group leaves a (by decide))
    | any ds => exact absurd same (leaf_ne_group leaves a (by decide))
    | not d => exact absurd same (leaf_ne_group leaves a (by decide))
  | .all cs, m, held, held' => by
    intro x y same
    cases m with
    | leaf b => exact absurd same.symm (leaf_ne_group leaves b (by decide))
    | all ds =>
      simp only [chars_all, List.append_assoc, List.append_cancel_left_eq] at same
      rw [← List.append_assoc, ← List.append_assoc] at same
      obtain ⟨rfl, rest⟩ := group_delimits leaves
        (charsList_delimits leaves cs ds held held') same
      exact ⟨rfl, rest⟩
    | any ds => exact absurd same (by simp)
    | not d => exact absurd same (by simp)
  | .any cs, m, held, held' => by
    intro x y same
    cases m with
    | leaf b => exact absurd same.symm (leaf_ne_group leaves b (by decide))
    | all ds => exact absurd same (by simp)
    | any ds =>
      simp only [chars_any, List.append_assoc, List.append_cancel_left_eq] at same
      rw [← List.append_assoc, ← List.append_assoc] at same
      obtain ⟨rfl, rest⟩ := group_delimits leaves
        (charsList_delimits leaves cs ds held held') same
      exact ⟨rfl, rest⟩
    | not d => exact absurd same (by simp)
  | .not c, m, held, held' => by
    intro x y same
    cases m with
    | leaf b => exact absurd same.symm (leaf_ne_group leaves b (by decide))
    | all ds => exact absurd same (by simp)
    | any ds => exact absurd same (by simp)
    | not d =>
      simp only [chars_not, List.append_assoc, List.append_cancel_left_eq] at same
      obtain ⟨rfl, rest⟩ := chars_delimits leaves c d held held' _ _ same
      exact ⟨rfl, (List.cons.inj rest).2⟩

theorem charsList_delimits (leaves : LeavesDelimit leaf p) : ∀ cs ds : List (Node α),
    (∀ a ∈ leavesList cs, p a) → (∀ a ∈ leavesList ds, p a) →
    ∀ c ∈ cs, ∀ d ∈ ds, Delimits (chars leaf) c d
  | [], _, _, _ => fun _ mem => absurd mem List.not_mem_nil
  | c :: cs, ds, held, held' => by
    have first : ∀ d ∈ ds, Delimits (chars leaf) c d := by
      intro d mem
      refine chars_delimits leaves c d (fun a within => held a (List.mem_append_left _ within)) ?_
      intro a within
      refine held' a ?_
      rw [leavesList_eq_flatMap]
      exact List.mem_flatMap.mpr ⟨d, mem, within⟩
    have later := charsList_delimits leaves cs ds
      (fun a within => held a (List.mem_append_right _ within)) held'
    exact List.forall_mem_cons.mpr ⟨first, later⟩

end

end Node

/-! ### Days and numbers -/

theorem decimal_delimits {c : Char} (noDigit : c.isDigit = false) {n m : Nat} {x y : List Char}
    (same : decimal n ++ c :: x = decimal m ++ c :: y) : n = m ∧ x = y := by
  have cut : ∀ (n : Nat) (x : List Char), (decimal n ++ c :: x).takeWhile Char.isDigit = decimal n := by
    intro n x
    exact takeWhile_decimal (by simp [noDigit]) n
  have digits : decimal n = decimal m := by rw [← cut n x, same, cut]
  have rest := List.append_cancel_left (digits ▸ same)
  exact ⟨by rw [← ofDigits_decimal n, digits, ofDigits_decimal], (List.cons.inj rest).2⟩

theorem length_shortName (d : Weekday) : d.shortName.toList.length = 3 := by
  cases d <;> simp [Weekday.shortName]

theorem shortName_inj {d e : Weekday} (same : d.shortName = e.shortName) : d = e := by
  have all : ∀ d e : Weekday, d.shortName = e.shortName → d = e := by
    intro d e
    cases d <;> cases e <;> simp [Weekday.shortName]
  exact all d e same

theorem weekday_delimits (d e : Weekday) :
    Delimits (fun d : Weekday => d.shortName.toList) d e := by
  intro x y same
  obtain ⟨names, rest⟩ := List.append_inj same
    ((length_shortName d).trans (length_shortName e).symm)
  exact ⟨shortName_inj (String.toList_inj.mp names), rest⟩

/-! ### Conditions -/

namespace Condition

/-- The bounds of a window are whole seconds. -/
def InWholeSeconds : Condition → Prop
  | .timeBetween start stop => start.IsWhole ∧ stop.IsWhole
  | _ => True

theorem timeBetween_delimits {start stop start' stop' : TimeOfDay}
    (whole : (timeBetween start stop).InWholeSeconds)
    (whole' : (timeBetween start' stop').InWholeSeconds) :
    Delimits chars (timeBetween start stop) (timeBetween start' stop') := by
  intro x y same
  unfold chars at same
  simp only [List.append_assoc] at same
  obtain ⟨starts, same⟩ := List.append_inj same
    ((length_clockText whole.1).trans (length_clockText whole'.1).symm)
  obtain ⟨stops, rest⟩ := List.append_inj (List.append_cancel_left same)
    ((length_clockText whole.2).trans (length_clockText whole'.2).symm)
  rw [clockText_inj whole.1 whole'.1 starts, clockText_inj whole.2 whole'.2 stops]
  exact ⟨rfl, rest⟩

theorem dayOfWeek_delimits (days days' : List Weekday) :
    Delimits chars (dayOfWeek days) (dayOfWeek days') := by
  intro x y same
  unfold chars dayListChars at same
  simp only [List.append_assoc] at same
  have list := List.append_cancel_left same
  rw [← List.append_assoc, ← List.append_assoc] at list
  obtain ⟨rfl, rest⟩ := list_delimits (by decide) (fun d _ e _ => weekday_delimits d e)
    (fun d => by cases d <;> simp [Weekday.shortName]) list
  exact ⟨rfl, rest⟩

theorem inactiveFor_delimits (n m : Nat) : Delimits chars (inactiveFor n) (inactiveFor m) := by
  intro x y same
  unfold chars at same
  simp only [List.append_assoc] at same
  obtain ⟨rfl, rest⟩ := decimal_delimits (by decide) (List.append_cancel_left same)
  exact ⟨rfl, rest⟩

theorem holdOff_delimits (n m : Nat) : Delimits chars (holdOff n) (holdOff m) := by
  intro x y same
  unfold chars at same
  simp only [List.append_assoc] at same
  obtain ⟨rfl, rest⟩ := decimal_delimits (by decide) (List.append_cancel_left same)
  exact ⟨rfl, rest⟩

/-- What the text of a condition may start with. -/
def Opens (d : Char) : Condition → Prop
  | .dayOfWeek _ => d = 'd'
  | .timeBetween _ _ => d.isDigit = true
  | .inactiveFor _ => d = 'i'
  | .holdOff _ => d = 'h'

theorem head?_chars (c : Condition) : ∃ d, c.chars.head? = some d ∧ c.Opens d := by
  cases c with
  | dayOfWeek days =>
    refine ⟨'d', ?_, rfl⟩
    unfold chars
    simp
  | timeBetween start stop =>
    obtain ⟨d, first, digit⟩ := head?_clockText start
    refine ⟨d, ?_, digit⟩
    unfold chars
    rw [List.head?_append, List.head?_append, first]
    rfl
  | inactiveFor n =>
    refine ⟨'i', ?_, rfl⟩
    unfold chars
    simp
  | holdOff n =>
    refine ⟨'h', ?_, rfl⟩
    unfold chars
    simp

theorem Opens.not_group {d : Char} {c : Condition} (opens : c.Opens d) : d ∉ ['a', 'n', ')'] := by
  cases c with
  | timeBetween start stop =>
    intro mem
    have other : ∀ d ∈ ['a', 'n', ')'], d.isDigit = false := by simp
    exact Bool.false_ne_true ((other d mem).symm.trans opens)
  | _ =>
    obtain rfl := opens
    decide

/-- Conditions of different kinds differ in their first character. -/
theorem delimits_of_opens {d : Char} {a b : Condition} (opens : a.Opens d) (opens' : b.Opens d)
    (held : a.InWholeSeconds) (held' : b.InWholeSeconds) : Delimits chars a b := by
  cases a with
  | dayOfWeek days =>
    obtain rfl := opens
    cases b with
    | dayOfWeek days' => exact dayOfWeek_delimits days days'
    | _ => exact absurd opens' (by simp [Opens])
  | timeBetween start stop =>
    cases b with
    | timeBetween start' stop' => exact timeBetween_delimits held held'
    | _ =>
      obtain rfl := opens'
      exact absurd opens (by simp [Opens])
  | inactiveFor n =>
    obtain rfl := opens
    cases b with
    | inactiveFor m => exact inactiveFor_delimits n m
    | _ => exact absurd opens' (by simp [Opens])
  | holdOff n =>
    obtain rfl := opens
    cases b with
    | holdOff m => exact holdOff_delimits n m
    | _ => exact absurd opens' (by simp [Opens])

theorem leavesDelimit : Node.LeavesDelimit chars InWholeSeconds where
  starts c := by
    obtain ⟨d, first, opens⟩ := c.head?_chars
    exact ⟨d, c.chars.tail, (List.cons_head?_tail first).symm, opens.not_group⟩
  delimits a b held held' := by
    intro x y same
    obtain ⟨d, first, opens⟩ := a.head?_chars
    obtain ⟨d', first', opens'⟩ := b.head?_chars
    have agree : some d = some d' := by
      have heads := congrArg List.head? same
      rw [List.head?_append, List.head?_append, first, first'] at heads
      exact heads
    obtain rfl := Option.some.inj agree
    exact delimits_of_opens opens opens' held held' x y same

end Condition

/-! ### Conditions that are read -/

namespace RuleText

open Grammar

/-- What holds of the conditions of single lines holds of those of groups. -/
theorem forall_leaves_of_clauses {p : Condition → Prop}
    (each : ∀ {s : List Char} {c : Clause}, IsClause s c → ∀ a ∈ c.toNode.leaves, p a)
    {column : Nat} {lines : List Line} {trees : List ClauseTree} (h : Clauses column lines trees) :
    ∀ t ∈ trees, ∀ a ∈ t.clause.toNode.leaves, p a := by
  induction h with
  | nil => exact fun _ mem => absurd mem List.not_mem_nil
  | line placed reads later ih => exact List.forall_mem_cons.mpr ⟨each reads, ih⟩
  | @group _ _ _ q _ _ body _ placed reads deeper block some arity later inside ih =>
    refine List.forall_mem_cons.mpr ⟨?_, ih⟩
    have nodes : ∀ n ∈ ClauseTree.nodes body, ∀ a ∈ n.leaves, p a := by
      intro n mem
      rw [clauseTree_nodes_eq_map, List.map_map] at mem
      obtain ⟨t, child, rfl⟩ := List.mem_map.mp mem
      exact inside t child
    have within : ∀ a ∈ Node.leavesList (ClauseTree.nodes body), p a := by
      intro a leaf
      rw [Node.leavesList_eq_flatMap] at leaf
      obtain ⟨n, mem, leaf⟩ := List.mem_flatMap.mp leaf
      exact nodes n mem a leaf
    cases q with
    | all => exact within
    | any => exact within
    | not =>
      obtain ⟨t, ts, rfl⟩ := List.exists_cons_of_ne_nil some
      exact nodes t.clause.toNode List.mem_cons_self

theorem inWholeSeconds_of_isClause {s : List Char} {c : Clause} (h : IsClause s c) :
    ∀ a ∈ c.toNode.leaves, a.InWholeSeconds := by
  cases h with
  | window first middle last order =>
    exact List.forall_mem_singleton.mpr ⟨isWhole_of_isTime first, isWhole_of_isTime last⟩
  | _ => exact List.forall_mem_singleton.mpr trivial

theorem inWholeSeconds_of_parsed {text : List Char} {rules : List Rule} {r : Rule}
    (read : parseRules text = .ok rules) (mem : r ∈ rules) :
    ∀ b ∈ r.conditions.leaves, b.condition.InWholeSeconds := by
  obtain ⟨lines, -, read⟩ := bind_eq_ok_iff.mp read
  obtain ⟨trees, derived, rfl⟩ := rules_of_rulesUpTo (Nat.le_refl _) read
  obtain ⟨t, tree, rfl⟩ := List.mem_map.mp mem
  obtain ⟨⟨inner, below, block⟩, -⟩ := block_of_rules derived t tree
  have clauses := forall_leaves_of_clauses inWholeSeconds_of_isClause block
  intro b leaf
  have bound : b ∈ t.conditions.leaves.map (BoundCondition.ofCondition t.host) := by
    rw [← When.leaves_map]
    exact leaf
  obtain ⟨a, within, rfl⟩ := List.mem_map.mp bound
  rw [When.leaves, Node.leavesList_eq_flatMap] at within
  obtain ⟨n, child, within⟩ := List.mem_flatMap.mp within
  obtain ⟨c, among, node⟩ := List.mem_filterMap.mp child
  obtain ⟨u, clause, rfl⟩ := List.mem_map.mp among
  refine clauses u clause a ?_
  cases kind : u.clause with
  | holdOff seconds =>
    rw [kind] at node
    cases node
  | node n' =>
    rw [kind] at node
    cases node
    exact within

end RuleText

namespace When

theorem eq_of_chars_eq {v w : When Condition} (held : ∀ c ∈ v.leaves, c.InWholeSeconds)
    (held' : ∀ c ∈ w.leaves, c.InWholeSeconds)
    (same : v.chars Condition.chars = w.chars Condition.chars) : v = w := by
  obtain ⟨cs⟩ := v
  obtain ⟨ds⟩ := w
  have each := Node.charsList_delimits Condition.leavesDelimit cs ds held held'
  unfold When.chars at same
  simp only [List.append_assoc] at same
  have lists := congrArg (· ++ []) (List.append_cancel_left same)
  obtain ⟨rfl, -⟩ := Node.group_delimits Condition.leavesDelimit each lists
  rfl

/-- The text of a tree whose windows are in whole seconds tells the tree, and those of trees that
are read are. -/
theorem chars_readable :
    (∀ {v w : When Condition}, (∀ c ∈ v.leaves, c.InWholeSeconds) →
      (∀ c ∈ w.leaves, c.InWholeSeconds) →
      v.chars Condition.chars = w.chars Condition.chars → v = w) ∧
    ∀ {text : List Char} {rules : List Rule}, RuleText.parseRules text = .ok rules →
      ∀ r ∈ rules, ∀ b ∈ r.conditions.leaves, b.condition.InWholeSeconds :=
  ⟨eq_of_chars_eq, fun read _ mem => RuleText.inWholeSeconds_of_parsed read mem⟩

/-- A group within a group, beside a leaf with commas of its own. -/
def evenings : When Condition :=
  ⟨[.any [.leaf (.dayOfWeek [.sat, .sun]), .not (.leaf (.inactiveFor 60))],
    .leaf (.timeBetween ⟨64800, 0⟩ ⟨82800, 0⟩)]⟩

def eveningsText : List Char :=
  ("wake 00:11:22:33:44:55:\n  any:\n    now Sat Sun\n    not:\n      inactivity 1 min\n" ++
    "  18 < now < 23").toList

theorem chars_readable_evenings : ∃ r, RuleText.parseRules eveningsText = .ok [r] ∧
    (r.conditions.map BoundCondition.condition).chars Condition.chars =
      evenings.chars Condition.chars ∧
    r.conditions.map BoundCondition.condition = evenings := by
  obtain ⟨eq_of_chars, whole⟩ := chars_readable
  have read : RuleText.parseRules eveningsText =
      .ok [Rule.make ⟨none, ⟨0, 17, 34, 51, 68, 85⟩⟩ 0 evenings] := by decide +kernel
  have text : ((Rule.make ⟨none, ⟨0, 17, 34, 51, 68, 85⟩⟩ 0 evenings).conditions.map
      BoundCondition.condition).chars Condition.chars = evenings.chars Condition.chars := by
    decide +kernel
  refine ⟨_, read, text, eq_of_chars ?_ ?_ text⟩
  · intro c mem
    rw [leaves_map] at mem
    obtain ⟨b, leaf, rfl⟩ := List.mem_map.mp mem
    exact whole read _ List.mem_cons_self b leaf
  · unfold evenings Condition.InWholeSeconds TimeOfDay.IsWhole
    simp [leaves, Node.leavesList, Node.leaves]

end When

end Reveille
