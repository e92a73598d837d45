import Reveille.Proofs.Rule.Built

/-!
# Rules that are read are well formed

Reading makes no empty group, no day twice, no window that ends before it starts, and asks a
condition of a host only if it has to know one. The grammar says so of every clause, and making a
rule of clauses keeps it.
-/

namespace Reveille

open Reveille.Calendar Reveille.Net

namespace Node

variable {α β : Type}

mutual

/-- Every group has a child. -/
def Full : Node α → Prop
  | .leaf _ => True
  | .all cs => cs ≠ [] ∧ FullList cs
  | .any cs => cs ≠ [] ∧ FullList cs
  | .not c => Full c

def FullList : List (Node α) → Prop
  | [] => True
  | c :: cs => Full c ∧ FullList cs

end

theorem fullList_iff {cs : List (Node α)} : FullList cs ↔ ∀ c ∈ cs, c.Full := by
  induction cs with
  | nil => simp [FullList]
  | cons c cs ih => rw [FullList, ih, List.forall_mem_cons]

mutual

theorem full_map (f : α → β) : ∀ n : Node α, n.Full → (n.map f).Full
  | .leaf _, full => full
  | .all cs, full => by
    rw [map_all]
    exact ⟨mt List.map_eq_nil_iff.mp full.1, fullList_map f cs full.2⟩
  | .any cs, full => by
    rw [map_any]
    exact ⟨mt List.map_eq_nil_iff.mp full.1, fullList_map f cs full.2⟩
  | .not c, full => full_map f c full

theorem fullList_map (f : α → β) : ∀ cs : List (Node α), FullList cs → FullList (cs.map (map f))
  | [], full => full
  | c :: cs, full => ⟨full_map f c full.1, fullList_map f cs full.2⟩

end

end Node

/-- Days are named, each once; a window is of whole seconds and ends after it starts. -/
def Condition.WellFormed : Condition → Prop
  | .dayOfWeek days => days ≠ [] ∧ days.Nodup
  | .timeBetween start stop => start.second < stop.second ∧ start.nanos = 0 ∧ stop.nanos = 0
  | .inactiveFor _ => True
  | .holdOff _ => True

def Node.WellFormed (n : Node Condition) : Prop :=
  n.Full ∧ ∀ c ∈ n.leaves, c.WellFormed

theorem Node.wellFormed_of_mem_leavesList {cs : List (Node Condition)}
    (each : ∀ n ∈ cs, n.WellFormed) : ∀ c ∈ leavesList cs, c.WellFormed := by
  intro c mem
  rw [leavesList_eq_flatMap] at mem
  obtain ⟨n, child, leaf⟩ := List.mem_flatMap.mp mem
  exact (each n child).2 c leaf

theorem Node.fullList_of_wellFormed {cs : List (Node Condition)}
    (each : ∀ n ∈ cs, n.WellFormed) : FullList cs :=
  fullList_iff.mpr fun n mem => (each n mem).1

structure Rule.WellFormed (r : Rule) : Prop where
  full : Node.FullList r.conditions.children
  conditions : ∀ b ∈ r.conditions.leaves, b.condition.WellFormed
  held : ∀ b ∈ r.conditions.leaves, ∀ n, b.condition = .holdOff n → b.host = some r.host
  free : ∀ b ∈ r.conditions.leaves, (∀ n, b.condition ≠ .holdOff n) → b.host = none
  enabled : r.enabled = true

theorem nodup_eraseDups {α : Type} [BEq α] [LawfulBEq α] : ∀ as : List α, as.eraseDups.Nodup
  | [] => List.nodup_nil
  | a :: as => by
    rw [List.eraseDups_cons, List.nodup_cons]
    exact ⟨by simp, nodup_eraseDups (as.filter fun b => !b == a)⟩
termination_by as => as.length
decreasing_by exact Nat.lt_succ_of_le (List.length_filter_le _ _)

theorem eraseDups_ne_nil {α : Type} [BEq α] {as : List α} (some : as ≠ []) : as.eraseDups ≠ [] := by
  cases as with
  | nil => exact absurd rfl some
  | cons a as => simp [List.eraseDups_cons]

theorem Rule.wellFormed_make {host : Host} {holdOff : Nat} {conditions : When Condition}
    (each : ∀ n ∈ conditions.children, n.WellFormed) :
    (make host holdOff conditions).WellFormed := by
  have leaves : (make host holdOff conditions).conditions.leaves =
      conditions.leaves.map (BoundCondition.ofCondition host) := When.leaves_map _ conditions
  refine ⟨?_, ?_, ?_, ?_, rfl⟩
  · have full := Node.fullList_map (BoundCondition.ofCondition host) _
      (Node.fullList_of_wellFormed each)
    rwa [← When.children_map] at full
  all_goals
    intro b mem
    rw [leaves] at mem
    obtain ⟨c, leaf, rfl⟩ := List.mem_map.mp mem
  · exact Node.wellFormed_of_mem_leavesList each c leaf
  · rintro n rfl
    rfl
  · intro other
    cases c with
    | holdOff n => exact absurd rfl (other n)
    | _ => rfl

namespace RuleText

open Grammar

/-! ### Clauses -/

theorem nanos_of_isTime {s : List Char} {t : TimeOfDay} (time : IsTime s t) : t.nanos = 0 := by
  cases time <;> rfl

theorem second_lt_of_before {start stop : TimeOfDay} (whole : stop.nanos = 0)
    (order : start.before stop = true) : start.second < stop.second := by
  simpa [TimeOfDay.before, whole] using order

theorem wellFormed_dayOfWeek {names : List (List Char)} {days : List Weekday} (some : names ≠ [])
    (named : NameDays names days) : (Condition.dayOfWeek days.eraseDups).WellFormed := by
  have days_ne_nil : days ≠ [] := by
    rintro rfl
    cases named
    exact some rfl
  exact ⟨eraseDups_ne_nil days_ne_nil, nodup_eraseDups days⟩

theorem wellFormed_leaf {c : Condition} (h : c.WellFormed) : (Node.leaf c).WellFormed :=
  ⟨trivial, by simpa [Node.leaves] using h⟩

theorem wellFormed_not {n : Node Condition} (h : n.WellFormed) : (Node.not n).WellFormed := h

theorem wellFormed_of_isClause {s : List Char} {c : Clause} (h : IsClause s c) :
    c.toNode.WellFormed := by
  cases h with
  | window first middle last order =>
    have whole := nanos_of_isTime last
    exact wellFormed_leaf ⟨second_lt_of_before whole order, nanos_of_isTime first, whole⟩
  | inactivity words interval => exact wellFormed_leaf trivial
  | holdOff words interval => exact wellFormed_leaf trivial
  | days words some named => exact wellFormed_leaf (wellFormed_dayOfWeek some named)
  | otherDays words some named =>
    exact wellFormed_not (wellFormed_leaf (wellFormed_dayOfWeek some named))

theorem wellFormed_groupNode {cs : List (Node Condition)} (some : cs ≠ [])
    (each : ∀ n ∈ cs, n.WellFormed) (q : Quantifier) : (groupNode q cs).WellFormed := by
  have full := Node.fullList_of_wellFormed each
  have leaves := Node.wellFormed_of_mem_leavesList each
  cases q with
  | all => exact ⟨⟨some, full⟩, leaves⟩
  | any => exact ⟨⟨some, full⟩, leaves⟩
  | not =>
    obtain ⟨n, cs, rfl⟩ := List.exists_cons_of_ne_nil some
    exact wellFormed_not (each n List.mem_cons_self)

theorem wellFormed_of_clauses {column : Nat} {lines : List Line} {trees : List ClauseTree}
    (h : Clauses column lines trees) : ∀ t ∈ trees, t.clause.toNode.WellFormed := by
  -- Of a group, `inside` is about its clauses and `ih` about what comes after it.
  induction h with
  | nil => exact fun _ mem => absurd mem List.not_mem_nil
  | line placed reads later ih => exact List.forall_mem_cons.mpr ⟨wellFormed_of_isClause reads, ih⟩
  | @group _ _ _ q _ _ body _ placed reads deeper block some arity later inside ih =>
    refine List.forall_mem_cons.mpr ⟨?_, ih⟩
    have each : ∀ n ∈ ClauseTree.nodes body, n.WellFormed := by
      intro n mem
      rw [clauseTree_nodes_eq_map, List.map_map] at mem
      obtain ⟨t, child, rfl⟩ := List.mem_map.mp mem
      exact inside t child
    have filled : ClauseTree.nodes body ≠ [] := by
      rw [clauseTree_nodes_eq_map, List.map_map]
      exact mt List.map_eq_nil_iff.mp some
    exact wellFormed_groupNode filled each q

/-! ### Rules -/

theorem block_of_rules {lines : List Line} {trees : List RuleTree} (h : Rules lines trees) :
    ∀ t ∈ trees, (∃ inner below, Clauses inner below t.body) ∧ t.body ≠ [] ∧
      t.holdOffs.length ≤ 1 := by
  induction h with
  | nil => exact fun _ mem => absurd mem List.not_mem_nil
  | rule placed reads deeper block some single later ih =>
    exact List.forall_mem_cons.mpr ⟨⟨⟨_, _, block⟩, some, single⟩, ih⟩

theorem wellFormed_of_block {t : RuleTree} {inner : Nat} {below : List Line}
    (block : Clauses inner below t.body) : t.rule.WellFormed := by
  refine Rule.wellFormed_make fun n mem => ?_
  obtain ⟨c, among, node⟩ := List.mem_filterMap.mp mem
  obtain ⟨tree, child, rfl⟩ := List.mem_map.mp among
  have wellFormed := wellFormed_of_clauses block tree child
  cases clause : tree.clause with
  | holdOff n =>
    rw [clause] at node
    cases node
  | node n' =>
    rw [clause] at node wellFormed
    cases node
    exact wellFormed

theorem holdOff_of_node?_eq_none {c : Clause} (none : c.node? = none) : ∃ n, c = .holdOff n := by
  cases c with
  | node n => cases none
  | holdOff n => exact ⟨n, rfl⟩

/-- Only a hold-off is a clause of a block and no condition of the rule, and there is at most
one. -/
theorem children_eq_nil_iff {t : RuleTree} {inner : Nat} {below : List Line}
    (block : Clauses inner below t.body) (some : t.body ≠ []) (single : t.holdOffs.length ≤ 1) :
    t.rule.conditions.children = [] ↔
      ∃ line n, t.body = [.line line (.holdOff n)] ∧ IsClause line.text (.holdOff n) := by
  have children : t.rule.conditions.children = [] ↔
      ∀ tree ∈ t.body, tree.clause.node? = none := by
    rw [RuleTree.rule, Rule.make, When.bind, When.children_map, List.map_eq_nil_iff,
      RuleTree.conditions, List.filterMap_eq_nil_iff, List.forall_mem_map]
  rw [children]
  constructor
  · intro none
    obtain ⟨header, host, body⟩ := t
    obtain ⟨first, later, rfl⟩ := List.exists_cons_of_ne_nil some
    rw [List.forall_mem_cons] at none
    obtain ⟨n, holds⟩ := holdOff_of_node?_eq_none none.1
    cases later with
    | nil =>
      cases first with
      | group header q body => cases holds
      | line line c =>
        obtain rfl : c = .holdOff n := holds
        cases block with
        | line placed reads later => exact ⟨line, n, rfl, reads⟩
    | cons second later =>
      obtain ⟨m, holds'⟩ := holdOff_of_node?_eq_none (none.2 second List.mem_cons_self)
      simp [RuleTree.holdOffs, holds, holds', Clause.holdOff?] at single
  · rintro ⟨line, n, only, -⟩
    rw [only]
    exact List.forall_mem_singleton.mpr rfl

/-- All rules of a text are well formed. They are those of the trees of its lines, and a rule has
no condition if and only if its block is a single hold-off. -/
theorem parseRules_wellFormed {text : List Char} {rules : List Rule}
    (read : parseRules text = .ok rules) :
    (∀ r ∈ rules, r.WellFormed) ∧
    ∃ trees, Rules (significantLines text) trees ∧ trees.map RuleTree.rule = rules ∧
      ∀ t ∈ trees, t.rule.conditions.children = [] ↔
        ∃ line n, t.body = [.line line (.holdOff n)] ∧ IsClause line.text (.holdOff n) := by
  obtain ⟨lines, counted, read⟩ := bind_eq_ok_iff.mp read
  obtain ⟨-, rfl⟩ := ofText_eq_ok_iff.mp counted
  obtain ⟨trees, derived, rfl⟩ := rules_of_rulesUpTo (Nat.le_refl _) read
  refine ⟨fun r mem => ?_, trees, derived, rfl, fun t mem => ?_⟩
  · obtain ⟨t, tree, rfl⟩ := List.mem_map.mp mem
    obtain ⟨⟨inner, below, block⟩, -⟩ := block_of_rules derived t tree
    exact wellFormed_of_block block
  · obtain ⟨⟨inner, below, block⟩, some, single⟩ := block_of_rules derived t mem
    exact children_eq_nil_iff block some single

/-- A rule without conditions, and one with a day named twice and a group within a group. -/
def weekend : List Char :=
  "wake 00:11:22:33:44:55:\n  hold off 5 min\nwake 00:11:22:33:44:66:\n".toList ++
    "  now Sat Sun Sat\n  not:\n    any:\n      hold off 2 h\n      10 < now < 12:30".toList

def atWeekends : List Rule :=
  [Rule.make ⟨none, ⟨0, 17, 34, 51, 68, 85⟩⟩ 300 ⟨[]⟩,
    Rule.make ⟨none, ⟨0, 17, 34, 51, 68, 102⟩⟩ 0 ⟨[.leaf (.dayOfWeek [.sat, .sun]),
      .not (.any [.leaf (.holdOff 7200), .leaf (.timeBetween ⟨36000, 0⟩ ⟨45000, 0⟩)])]⟩]

theorem parseRules_wellFormed_weekend :
    parseRules weekend = .ok atWeekends ∧ ∀ r ∈ atWeekends, r.WellFormed := by
  have read : parseRules weekend = .ok atWeekends := by decide +kernel
  exact ⟨read, (parseRules_wellFormed read).1⟩

end RuleText

end Reveille
