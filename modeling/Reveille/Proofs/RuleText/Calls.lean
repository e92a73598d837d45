import Reveille.Proofs.RuleText.Columns

/-!
# Calls

The rules of a text call a rule for each header. A rule calls the block under it, and so does a
group; a block calls its clauses, and these a clause for each line. Calls come to an end, and at
each of them the columns of the open blocks stand from 0 to the right. A failure of a call is the
failure of the text.
-/

namespace Reveille.RuleText

variable {α β : Type} {cur cur' : Cursor} {line : Line}

/-- What is being read, by calls of one another. -/
inductive Call where
  | rules
  | rule (header : Line)
  | block (header : Line)
  | clauses
  | clause (line : Line)

/-- What a call calls, and where the cursor is then. What is left of a loop after one round of it
counts as a call. -/
inductive Calls : Call → Cursor → Call → Cursor → Prop where
  | rule {line : Line} {rest : List Line} {columns : List Nat}
      (placed : line.indent = columns.headD 0) :
      Calls .rules ⟨line :: rest, columns⟩ (.rule line) ⟨rest, columns⟩
  | moreRules {line : Line} {rest : List Line} {columns : List Nat} {r : Rule} {cur : Cursor}
      (placed : line.indent = columns.headD 0)
      (read : (Stepwise.rule line).runAt ⟨rest, columns⟩ = (.ok r, cur)) :
      Calls .rules ⟨line :: rest, columns⟩ .rules cur
  | ofRule {line : Line} {host : Net.Host} {cur : Cursor} (named : header line = .ok host) :
      Calls (.rule line) cur (.block line) cur
  | clauses {header first : Line} {rest : List Line} {columns : List Nat}
      (deeper : columns.headD 0 < first.indent) :
      Calls (.block header) ⟨first :: rest, columns⟩ .clauses
        ⟨first :: rest, first.indent :: columns⟩
  | clause {line : Line} {rest : List Line} {columns : List Nat}
      (placed : line.indent = columns.headD 0) :
      Calls .clauses ⟨line :: rest, columns⟩ (.clause line) ⟨rest, columns⟩
  | moreClauses {line : Line} {rest : List Line} {columns : List Nat} {c : Clause} {cur : Cursor}
      (placed : line.indent = columns.headD 0)
      (read : (Stepwise.clause Stepwise.block line).runAt ⟨rest, columns⟩ = (.ok c, cur)) :
      Calls .clauses ⟨line :: rest, columns⟩ .clauses cur
  | ofGroup {line : Line} {q : Quantifier} {cur : Cursor}
      (quantified : Quantifier.ofHeader line = .accepted q) :
      Calls (.clause line) cur (.block line) cur

/-- The calls that the reading of a text comes to. -/
inductive Reached (text : List Char) : Call → Cursor → Prop where
  | start {lines : List Line} (counted : Line.ofText text = .ok lines) :
      Reached text .rules ⟨lines, [0]⟩
  | call {c c' : Call} {cur cur' : Cursor} (before : Reached text c cur)
      (calls : Calls c cur c' cur') : Reached text c' cur'

variable {text : List Char} {call call' : Call}

/-! ### Calls end -/

/-- Of calls with as many lines left, the one that is called weighs less. -/
def Call.rank : Call → Nat
  | .rules => 0
  | .rule _ => 2
  | .block _ => 1
  | .clauses => 0
  | .clause _ => 2

def Call.weight (call : Call) (cur : Cursor) : Nat :=
  3 * cur.rest.length + call.rank

theorem Calls.weight_lt (calls : Calls call cur call' cur') :
    call'.weight cur' < call.weight cur := by
  cases calls with
  | rule placed =>
    simp only [Call.weight, Call.rank, List.length_cons]
    omega
  | moreRules placed read =>
    have fewer := (Stepwise.rule_advances _ _ _ _ read).1.length_le
    simp only [Call.weight, Call.rank, List.length_cons] at fewer ⊢
    omega
  | ofRule named =>
    simp only [Call.weight, Call.rank]
    omega
  | clauses deeper =>
    simp only [Call.weight, Call.rank]
    omega
  | clause placed =>
    simp only [Call.weight, Call.rank, List.length_cons]
    omega
  | moreClauses placed read =>
    have fewer := (Stepwise.clause_advances _ _ _ _ read).1.length_le
    simp only [Call.weight, Call.rank, List.length_cons] at fewer ⊢
    omega
  | ofGroup quantified =>
    simp only [Call.weight, Call.rank]
    omega

theorem calls_wellFounded : WellFounded fun inner outer : Call × Cursor =>
    Calls outer.1 outer.2 inner.1 inner.2 :=
  Subrelation.wf (fun calls => Calls.weight_lt calls)
    (measure fun at_ : Call × Cursor => at_.1.weight at_.2).wf

/-! ### Columns -/

/-- The line that a call is about stands in the innermost of the open blocks. -/
def Call.Placed (cur : Cursor) : Call → Prop
  | .rules => cur.columns = [0]
  | .rule line => line.indent = cur.top
  | .block line => line.indent = cur.top
  | .clauses => True
  | .clause line => line.indent = cur.top

theorem Calls.nested (calls : Calls call cur call' cur') (nested : cur.Nested) : cur'.Nested := by
  cases calls with
  | rule placed => exact nested
  | moreRules placed read =>
    exact nested.of_columns_eq (Stepwise.rule_advances _ _ _ _ read).2
  | ofRule named => exact nested
  | clauses deeper => exact nested.push deeper
  | clause placed => exact nested
  | moreClauses placed read =>
    exact nested.of_columns_eq (Stepwise.clause_advances _ _ _ _ read).2
  | ofGroup quantified => exact nested

theorem Calls.placed (calls : Calls call cur call' cur') (placed : call.Placed cur) :
    call'.Placed cur' := by
  cases calls with
  | rule here => exact here
  | moreRules here read =>
    have same := (Stepwise.rule_advances _ _ _ _ read).2
    exact same.trans placed
  | ofRule named => exact placed
  | clauses deeper => trivial
  | clause here => exact here
  | moreClauses here read => trivial
  | ofGroup quantified => exact placed

theorem nested_of_reached (reached : Reached text call cur) : cur.Nested := by
  induction reached with
  | start counted => exact ⟨rfl, List.pairwise_singleton _ _⟩
  | call before calls nested => exact calls.nested nested

/-- Where what is called leaves the cursor, be it read or not. -/
def Call.left (cur : Cursor) : Call → Cursor
  | .rules => (Stepwise.rulesLeft.runAt cur).2
  | .rule line => ((Stepwise.rule line).runAt cur).2
  | .block line => ((Stepwise.block line).runAt cur).2
  | .clauses => (Stepwise.clausesLeft.runAt cur).2
  | .clause line => ((Stepwise.clause Stepwise.block line).runAt cur).2

theorem Call.nested_left (nested : cur.Nested) : (call.left cur).Nested := by
  cases call with
  | rules => exact Stepwise.rulesUpTo_keepsNested _ cur nested
  | rule line => exact Stepwise.rule_keepsNested line cur nested
  | block line => exact Stepwise.block_keepsNested line cur nested
  | clauses => exact Stepwise.clauses_keepsNested Stepwise.block_keepsNested _ cur nested
  | clause line =>
    exact Stepwise.clauseIn_keepsNested Stepwise.block_keepsNested Kind.all line cur nested

theorem placed_of_reached (reached : Reached text call cur) : call.Placed cur := by
  induction reached with
  | start counted => rfl
  | call before calls placed => exact calls.placed placed

/-! ### Failures of calls -/

/-- The reading fails, from the cursor on. -/
def Stepwise.Fails (m : Stepwise α) (cur : Cursor) (e : Failure) : Prop :=
  (m.runAt cur).1 = .error e

namespace Stepwise

variable {m : Stepwise α} {f : α → Stepwise β} {e : Failure}

theorem Fails.bind (failed : Fails m cur e) : Fails (m >>= f) cur e := by
  unfold Fails at failed ⊢
  rw [runAt_bind]
  cases outcome : m.runAt cur with
  | mk r cur₁ =>
    rw [outcome] at failed
    cases failed
    rfl

theorem Fails.after {a : α} (first : m.runAt cur = (.ok a, cur')) (failed : Fails (f a) cur' e) :
    Fails (m >>= f) cur e := by
  unfold Fails at failed ⊢
  rw [runAt_bind, first]
  exact failed

theorem Fails.of_runAt_eq {m' : Stepwise α} (same : m'.runAt cur' = m.runAt cur)
    (failed : Fails m cur e) : Fails m' cur' e :=
  (congrArg Prod.fst same).trans failed

end Stepwise

def Call.Fails (cur : Cursor) (e : Failure) : Call → Prop
  | .rules => Stepwise.rulesLeft.Fails cur e
  | .rule line => (Stepwise.rule line).Fails cur e
  | .block line => (Stepwise.block line).Fails cur e
  | .clauses => Stepwise.clausesLeft.Fails cur e
  | .clause line => (Stepwise.clause Stepwise.block line).Fails cur e

theorem Calls.fails {e : Failure} (calls : Calls call cur call' cur')
    (failed : call'.Fails cur' e) : call.Fails cur e := by
  cases calls with
  | rule placed => exact .of_runAt_eq (Stepwise.runAt_rulesLeft_cons placed) (.bind failed)
  | moreRules placed read =>
    exact .of_runAt_eq (Stepwise.runAt_rulesLeft_cons placed) (.after read (.bind failed))
  | @ofRule line host cur named =>
    have first : (Stepwise.ofExcept (header line)).runAt cur = (.ok host, cur) := by
      rw [named]
      rfl
    exact .after first (.bind failed)
  | clauses deeper => exact .of_runAt_eq (Stepwise.runAt_block_cons _ deeper) (.bind failed)
  | clause placed => exact .of_runAt_eq (Stepwise.runAt_clausesLeft_cons placed) (.bind failed)
  | moreClauses placed read =>
    exact .of_runAt_eq (Stepwise.runAt_clausesLeft_cons placed) (.after read (.bind failed))
  | @ofGroup line q cur quantified =>
    have claims : Kind.group.Claims line := by
      intro missed
      rw [quantified] at missed
      cases missed
    have grouped : (Stepwise.group Stepwise.block line).Fails cur e := by
      unfold Stepwise.group
      rw [quantified]
      exact .bind failed
    refine .of_runAt_eq ?_ grouped
    exact Stepwise.runAt_clauseIn_of_claims Stepwise.block_final (Kind.mem_all .group) claims
      fun k => Kind.not_claims_of_accepts (k := .group) ⟨q, quantified⟩

/-- A failure of a call is the failure of the text. -/
theorem parseRules_of_reached {e : Failure} (reached : Reached text call cur)
    (failed : call.Fails cur e) : Stepwise.parseRules text = .error e := by
  induction reached with
  | start counted =>
    unfold Stepwise.parseRules Stepwise.parseRulesIn
    rw [counted]
    exact failed
  | call before calls ih => exact ih (calls.fails failed)

/-! ### Blocks -/

theorem Grammar.Clauses.length_le {column : Nat} {lines : List Line}
    {trees : List Grammar.ClauseTree} (derived : Grammar.Clauses column lines trees) :
    trees.length ≤ lines.length := by
  induction derived with
  | nil => exact Nat.le_refl _
  | line placed reads later ih =>
    simp only [List.length_cons]
    omega
  | group placed reads deeper block some arity later _ ih =>
    simp only [List.length_cons, List.length_append]
    omega

theorem runAt_block_ok {header : Line} {cs : List Clause}
    (outcome : (Stepwise.block header).runAt cur = (.ok cs, cur')) :
    cs ≠ [] ∧ (∃ taken, cur.rest = taken ++ cur'.rest ∧ cs.length ≤ taken.length) ∧
      cur'.columns = cur.columns ∧ ∀ l ∈ cur'.rest.head?, l.indent ≤ cur.top := by
  have read : block header cur = .ok (cs, cur') := (Stepwise.block_follows header cur).eq_ok outcome
  obtain ⟨⟨inner, -, taken, trees, cut, derived, rfl, same⟩, some, outside⟩ :=
    blockUpTo_sound _ _ _ _ _ read
  refine ⟨some, ⟨taken, cut, ?_⟩, same, outside⟩
  rw [List.length_map]
  exact derived.length_le

/-- Wherever the reading of a text comes to, and wherever it ends there by failing or not, the
columns of the open blocks start with 0 and go to the right; they are 0 alone between rules, and a
header stands in the innermost block. A block that is read has a clause, takes as many lines as
clauses at least, leaves the columns as they were, and ends where the text does or at a line no
further right than its header. Blocks and clauses are read by calls of one another without any
bound, and the calls come to an end. -/
theorem columns_nested (text : List Char) :
    (∀ call cur, Reached text call cur → cur.Nested ∧ (call.left cur).Nested) ∧
    (∀ cur, Reached text .rules cur → cur.columns = [0]) ∧
    (∀ header cur, Reached text (.block header) cur → header.indent = cur.top) ∧
    (∀ header cur cs cur', (Stepwise.block header).runAt cur = (.ok cs, cur') →
      cs ≠ [] ∧ (∃ taken, cur.rest = taken ++ cur'.rest ∧ cs.length ≤ taken.length) ∧
        cur'.columns = cur.columns ∧ ∀ l ∈ cur'.rest.head?, l.indent ≤ cur.top) ∧
    (∀ header, Stepwise.block header = Stepwise.blockCall Stepwise.clausesLeft header) ∧
    Stepwise.clausesLeft = Stepwise.clausesRound Stepwise.block Stepwise.clausesLeft ∧
    WellFounded fun inner outer : Call × Cursor => Calls outer.1 outer.2 inner.1 inner.2 := by
  refine ⟨?_, ?_, ?_, ?_, Stepwise.block_eq, Stepwise.clausesLeft_eq, calls_wellFounded⟩
  · intro call cur reached
    have nested := nested_of_reached reached
    exact ⟨nested, call.nested_left nested⟩
  · intro cur reached
    exact placed_of_reached reached
  · intro header cur reached
    exact placed_of_reached reached
  · intro header cur cs cur' outcome
    exact runAt_block_ok outcome

theorem columns_nested_nights :
    Reached Stepwise.nights (.block ⟨2, 1, "any:".toList⟩) Stepwise.insideGroup ∧
    Stepwise.insideGroup.Nested ∧
    (Stepwise.block ⟨2, 1, "any:".toList⟩).runAt Stepwise.insideGroup =
      (.ok [.node (.leaf (.timeBetween ⟨79200, 0⟩ ⟨84600, 0⟩)),
        .node (.leaf (.inactiveFor 7200))], Stepwise.pastGroup) ∧
    Stepwise.pastGroup.columns = Stepwise.insideGroup.columns ∧
    ∀ l ∈ Stepwise.pastGroup.rest.head?, l.indent ≤ Stepwise.insideGroup.top := by
  have counted : Line.ofText Stepwise.nights = .ok (⟨1, 0, "wake 00:11:22:33:44:55:".toList⟩ ::
      ⟨2, 1, "any:".toList⟩ :: Stepwise.insideGroup.rest) := by decide +kernel
  have named : header ⟨1, 0, "wake 00:11:22:33:44:55:".toList⟩ =
      .ok ⟨none, ⟨0, 17, 34, 51, 68, 85⟩⟩ := by decide +kernel
  have reached : Reached Stepwise.nights (.block ⟨2, 1, "any:".toList⟩) Stepwise.insideGroup :=
    (((((Reached.start counted).call (.rule rfl)).call (.ofRule named)).call
      (.clauses (by decide))).call (.clause rfl)).call (.ofGroup (q := .any) (by decide +kernel))
  have outcome : (Stepwise.block ⟨2, 1, "any:".toList⟩).runAt Stepwise.insideGroup =
      (.ok [.node (.leaf (.timeBetween ⟨79200, 0⟩ ⟨84600, 0⟩)),
        .node (.leaf (.inactiveFor 7200))], Stepwise.pastGroup) := by decide +kernel
  obtain ⟨nested, -, -, blocks, -⟩ := columns_nested Stepwise.nights
  obtain ⟨-, -, same, outside⟩ := blocks _ _ _ _ outcome
  exact ⟨reached, (nested _ _ reached).1, outcome, same, outside⟩

end Reveille.RuleText
