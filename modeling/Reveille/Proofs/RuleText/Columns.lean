import Reveille.Proofs.RuleText.AnyOrder
import Reveille.Proofs.RuleText.Recursion

/-!
# Columns of open blocks

The columns of the open blocks start with 0 and go to the right. Every reading leaves them so,
whether it comes to something or fails: a block opens further right than the one around it, and the
clauses in it leave its column for the end of the block to take away.
-/

namespace Reveille.RuleText

variable {α β : Type} {cur cur' : Cursor} {line header : Line}

/-- The columns of the open blocks, the outermost first, start with 0 and go to the right. -/
def Cursor.Nested (cur : Cursor) : Prop :=
  cur.columns.reverse.head? = some 0 ∧ cur.columns.reverse.Pairwise (· < ·)

theorem Cursor.Nested.of_columns_eq (nested : cur.Nested) (same : cur'.columns = cur.columns) :
    cur'.Nested := by
  unfold Cursor.Nested
  rw [same]
  exact nested

theorem Cursor.Nested.push (nested : cur.Nested) {column : Nat} (deeper : cur.top < column) :
    (cur.push column).Nested := by
  obtain ⟨lines, columns⟩ := cur
  obtain ⟨start, increasing⟩ := nested
  simp only [Cursor.Nested, Cursor.push, List.reverse_cons]
  constructor
  · rw [List.head?_append, start]
    rfl
  · refine List.pairwise_append.mpr ⟨increasing, List.pairwise_singleton _ _, ?_⟩
    intro outer mem inner only
    obtain rfl := List.mem_singleton.mp only
    -- The innermost column is the last one, and the others stand left of it.
    cases columns with
    | nil => cases mem
    | cons top around =>
      rw [List.reverse_cons] at mem increasing
      rcases List.mem_append.mp mem with before | last
      · have left := (List.pairwise_append.mp increasing).2.2 outer before top (by simp)
        exact Nat.lt_trans left deeper
      · obtain rfl := List.mem_singleton.mp last
        exact deeper

namespace Stepwise

/-- Wherever the reading leaves the cursor, by failing or not, the columns are nested. -/
def KeepsNested (m : Stepwise α) : Prop :=
  ∀ cur, cur.Nested → (m.runAt cur).2.Nested

variable {m : Stepwise α} {f : α → Stepwise β} {block : Line → Stepwise (List Clause)}

/-! ### Steps -/

theorem KeepsNested.pure (a : α) : KeepsNested (Pure.pure a : Stepwise α) :=
  fun _ nested => nested

theorem KeepsNested.throw (e : Failure) : KeepsNested (throw e : Stepwise α) :=
  fun _ nested => nested

theorem KeepsNested.peek : KeepsNested peek :=
  fun _ nested => nested

theorem KeepsNested.advance : KeepsNested advance :=
  fun _ nested => nested.of_columns_eq rfl

theorem KeepsNested.bind (first : KeepsNested m) (later : ∀ a, KeepsNested (f a)) :
    KeepsNested (m >>= f) := by
  intro cur nested
  have here := first cur nested
  rw [runAt_bind]
  cases outcome : m.runAt cur with
  | mk r cur₁ =>
    rw [outcome] at here
    cases r with
    | ok a => exact later a cur₁ here
    | error e => exact here

theorem KeepsNested.tryCatch {h : Failure → Stepwise α} (first : KeepsNested m)
    (later : ∀ e, KeepsNested (h e)) : KeepsNested (tryCatch m h) := by
  intro cur nested
  have here := first cur nested
  rw [runAt_tryCatch]
  cases outcome : m.runAt cur with
  | mk r cur₁ =>
    rw [outcome] at here
    cases r with
    | ok a => exact here
    | error e => exact later e cur₁ here

theorem KeepsNested.checkPeer (line : Line) : KeepsNested (checkPeer line) := by
  intro cur nested
  rw [runAt_checkPeer]
  split_ifs <;> exact nested

theorem KeepsNested.isPeer (line : Line) : KeepsNested (isPeer line) := by
  intro cur nested
  rw [runAt_isPeer]
  split_ifs <;> exact nested

theorem KeepsNested.ofExcept (r : Except ParseError α) : KeepsNested (ofExcept r) := by
  cases r with
  | ok a => exact .pure a
  | error e => exact .throw _

/-! ### Clauses -/

theorem trial_keepsNested (blocks : ∀ header, KeepsNested (block header)) (k : Kind)
    (line : Line) : KeepsNested (k.trial block line) := by
  have single : ∀ message f, KeepsNested (oneLine message f line) := by
    intro message f
    unfold oneLine
    cases f line with
    | accepted c => exact .pure c
    | mismatch => exact .throw _
    | failed e => exact .throw _
  cases k with
  | window | inactivity | holdOff | days => exact single _ _
  | group =>
    change KeepsNested (group block line)
    unfold group
    cases Quantifier.ofHeader line with
    | mismatch => exact .throw _
    | failed e => exact .throw _
    | accepted q =>
      refine .bind (blocks line) fun cs => ?_
      cases q.group (cs.map Clause.toNode) with
      | ok node => exact .pure _
      | error cause => exact .throw _

theorem clauseIn_keepsNested (blocks : ∀ header, KeepsNested (block header)) (order : List Kind)
    (line : Line) : KeepsNested (clauseIn order block line) := by
  unfold clauseIn
  induction order with
  | nil => exact .throw _
  | cons k ks ih =>
    refine .tryCatch (trial_keepsNested blocks k line) fun failure => ?_
    split
    · exact .throw failure
    · exact ih

theorem clauses_keepsNested (blocks : ∀ header, KeepsNested (block header)) (n : Nat) :
    KeepsNested (clauses block n) := by
  induction n with
  | zero => exact .pure []
  | succ n ih =>
    refine .bind .peek fun next => ?_
    cases next with
    | none => exact .pure []
    | some line =>
      refine .bind (.isPeer line) fun peer => ?_
      split
      · refine .bind .advance fun _ => ?_
        refine .bind (clauseIn_keepsNested blocks Kind.all line) fun c => ?_
        exact .bind ih fun cs => .pure _
      · exact .pure []

theorem clauses_advances (advances : ∀ line, Advances (clause block line)) (n : Nat) :
    Advances (clauses block n) := by
  induction n with
  | zero =>
    intro cur cs cur' outcome
    cases outcome
    exact ⟨List.suffix_refl _, rfl⟩
  | succ n ih =>
    rintro ⟨lines, columns⟩ cs cur' outcome
    cases lines with
    | nil =>
      rw [runAt_clauses_nil] at outcome
      cases outcome
      exact ⟨List.suffix_refl _, rfl⟩
    | cons line rest =>
      rw [clauses_succ, runAt_clausesRound] at outcome
      split at outcome
      · obtain ⟨c, cur₁, first, outcome⟩ := runAt_bind_eq_ok_iff.mp outcome
        obtain ⟨cs', cur₂, later, outcome⟩ := runAt_bind_eq_ok_iff.mp outcome
        cases outcome
        obtain ⟨within, same⟩ := advances line _ _ _ first
        obtain ⟨within', same'⟩ := ih _ _ _ later
        exact ⟨(within'.trans within).trans (List.suffix_cons _ _), same'.trans same⟩
      · split at outcome
        · cases outcome
        · cases outcome
          exact ⟨List.suffix_refl _, rfl⟩

/-! ### Blocks and rules -/

theorem blockCall_keepsNested {inside : Stepwise (List Clause)} (keeps : KeepsNested inside)
    (advances : Advances inside) (header : Line) : KeepsNested (blockCall inside header) := by
  rintro ⟨lines, columns⟩ nested
  cases lines with
  | nil => exact nested
  | cons first rest =>
    rw [runAt_blockCall]
    split
    · next deeper =>
      have opened : Cursor.Nested ⟨first :: rest, first.indent :: columns⟩ := nested.push deeper
      have here := keeps _ opened
      rw [runAt_bind]
      cases outcome : inside.runAt ⟨first :: rest, first.indent :: columns⟩ with
      | mk r cur₁ =>
        rw [outcome] at here
        cases r with
        | error e => exact here
        | ok cs =>
          have same : cur₁.columns = first.indent :: columns := (advances _ _ _ outcome).2
          simp only
          rw [runAt_bind, runAt_closeBlock]
          cases closed : RuleText.closeBlock cur₁ with
          | error e => exact here
          | ok cur₂ =>
            -- The column that is taken away is the one that the block opened with.
            obtain ⟨-, rfl⟩ := closeBlock_eq_ok_iff.mp closed
            exact nested.of_columns_eq (congrArg List.tail same)
    · exact nested

theorem blockUpTo_keepsNested (n : Nat) (header : Line) : KeepsNested (blockUpTo n header) := by
  induction n generalizing header with
  | zero => exact .throw _
  | succ n ih =>
    refine blockCall_keepsNested ?_ ?_ header
    · intro cur
      exact clauses_keepsNested ih _ cur
    · intro cur
      refine clauses_advances ?_ _ cur
      exact clause_advances_of_follows (blockUpTo_follows n) (blockUpTo_sound n)

theorem block_keepsNested (header : Line) : KeepsNested (Stepwise.block header) :=
  fun cur => blockUpTo_keepsNested _ header cur

theorem rule_keepsNested (line : Line) : KeepsNested (rule line) := by
  refine .bind (.ofExcept _) fun host => .bind (block_keepsNested line) fun cs => ?_
  cases Rule.ofParts (ruleParts host cs) with
  | ok r => exact .pure r
  | error cause => exact .throw _

theorem rulesUpTo_keepsNested (n : Nat) : KeepsNested (rulesUpTo n) := by
  induction n with
  | zero => exact .pure []
  | succ n ih =>
    refine .bind .peek fun next => ?_
    cases next with
    | none => exact .pure []
    | some line =>
      refine .bind (.tryCatch (.checkPeer line) fun e => .throw _) fun _ => ?_
      refine .bind .advance fun _ => .bind (rule_keepsNested line) fun r => ?_
      exact .bind ih fun rs => .pure _

end Stepwise

end Reveille.RuleText
