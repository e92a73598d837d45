import Reveille.Proofs.RuleText.Alternatives

/-!
# Layout

Columns alone say where a block ends: its lines are those right of its header, up to the first
that is not. So lines have at most one derivation.
-/

namespace Reveille.RuleText.Grammar

variable {column : Nat} {lines : List Line} {trees : List ClauseTree}

theorem clauseTree_nodes_eq_map (ts : List ClauseTree) :
    ClauseTree.nodes ts = (ts.map ClauseTree.clause).map Clause.toNode := by
  induction ts with
  | nil => rfl
  | cons t ts ih => rw [ClauseTree.nodes, ih, List.map_cons, List.map_cons]

namespace Clauses

theorem column_le (h : Clauses column lines trees) : ∀ l ∈ lines, column ≤ l.indent := by
  induction h with
  | nil => simp
  | line placed _ _ ih => exact List.forall_mem_cons.mpr ⟨Nat.le_of_eq placed.symm, ih⟩
  | group placed _ deeper _ _ _ _ inside after =>
    refine List.forall_mem_cons.mpr ⟨Nat.le_of_eq placed.symm, fun l mem => ?_⟩
    rcases List.mem_append.mp mem with below | later
    · exact Nat.le_of_lt (Nat.lt_of_lt_of_le deeper (inside l below))
    · exact after l later

theorem lt_indent {left : Nat} (h : Clauses column lines trees) (deeper : left < column) :
    ∀ l ∈ lines, left < l.indent :=
  fun l mem => Nat.lt_of_lt_of_le deeper (h.column_le l mem)

theorem head_column (h : Clauses column lines trees) : ∀ l ∈ lines.head?, l.indent = column := by
  cases h with
  | nil => simp
  | line placed => simpa using placed
  | group placed => simpa using placed

theorem ne_nil (h : Clauses column lines trees) (some : trees ≠ []) : lines ≠ [] := by
  cases h with
  | nil => exact absurd rfl some
  | line => simp
  | group => simp

end Clauses

/-! ### Where a block ends -/

/-- The lines right of a column, up to the first that is not, are the block. -/
theorem cut_block {below later : List Line} (inside : ∀ l ∈ below, column < l.indent)
    (outside : ∀ l ∈ later.head?, l.indent ≤ column) :
    (below ++ later).takeWhile (column < ·.indent) = below ∧
      (below ++ later).dropWhile (column < ·.indent) = later := by
  rw [List.takeWhile_append_of_pos (by simpa using inside),
    List.dropWhile_append_of_pos (by simpa using inside)]
  cases later with
  | nil => simp
  | cons l ls =>
    have stop : ¬ column < l.indent := Nat.not_lt.mpr (outside l rfl)
    simp [stop]

theorem block_unique {below later below' later' : List Line}
    (same : below ++ later = below' ++ later') (inside : ∀ l ∈ below, column < l.indent)
    (outside : ∀ l ∈ later.head?, l.indent ≤ column) (inside' : ∀ l ∈ below', column < l.indent)
    (outside' : ∀ l ∈ later'.head?, l.indent ≤ column) : below = below' ∧ later = later' := by
  obtain ⟨front, back⟩ := cut_block inside outside
  obtain ⟨front', back'⟩ := cut_block inside' outside'
  rw [same] at front back
  exact ⟨front.symm.trans front', back.symm.trans back'⟩

theorem Clauses.inner_unique {inner inner' : Nat} {body body' : List ClauseTree}
    (h : Clauses inner lines body) (h' : Clauses inner' lines body') (some : body ≠ []) :
    inner = inner' := by
  obtain ⟨l, rest, rfl⟩ := List.exists_cons_of_ne_nil (h.ne_nil some)
  exact (h.head_column l rfl).symm.trans (h'.head_column l rfl)

/-! ### At most one derivation -/

theorem Clauses.unique {trees' : List ClauseTree} (h : Clauses column lines trees)
    (h' : Clauses column lines trees') : trees' = trees := by
  induction h generalizing trees' with
  | nil =>
    cases h'
    rfl
  | line placed reads _ ih =>
    cases h' with
    | line _ reads' later' => rw [ih later', isClause_unique reads' reads]
    | group _ reads' => exact absurd reads' (not_isGroupHeader_of_isClause reads)
  | @group column inner header q below lines body trees placed reads deeper block some _ later
      inside after =>
    generalize whole : header :: (below ++ lines) = all at h'
    cases h' with
    | nil => cases whole
    | line _ reads' =>
      cases whole
      exact absurd reads (not_isGroupHeader_of_isClause reads')
    | @group _ inner' _ q' below' lines' body' _ _ reads' deeper' block' _ _ later' =>
      obtain ⟨rfl, same⟩ := List.cons.inj whole
      obtain ⟨rfl, rfl⟩ := block_unique same (block.lt_indent deeper)
        (fun l mem => Nat.le_of_eq (later.head_column l mem)) (block'.lt_indent deeper')
        (fun l mem => Nat.le_of_eq (later'.head_column l mem))
      obtain rfl := block.inner_unique block' some
      rw [inside block', after later', isGroupHeader_unique reads' reads]

theorem Rules.head_column {trees : List RuleTree} (h : Rules lines trees) :
    ∀ l ∈ lines.head?, l.indent = 0 := by
  cases h with
  | nil => simp
  | rule placed => simpa using placed

theorem Rules.unique {trees trees' : List RuleTree} (h : Rules lines trees)
    (h' : Rules lines trees') : trees' = trees := by
  induction h generalizing trees' with
  | nil =>
    cases h'
    rfl
  | @rule inner header host below lines body trees placed reads deeper block some _ later ih =>
    generalize whole : header :: (below ++ lines) = all at h'
    cases h' with
    | nil => cases whole
    | @rule inner' _ host' below' lines' body' _ _ reads' deeper' block' _ _ later' =>
      obtain ⟨rfl, same⟩ := List.cons.inj whole
      obtain ⟨rfl, rfl⟩ := block_unique same (block.lt_indent deeper)
        (fun l mem => Nat.le_of_eq (later.head_column l mem)) (block'.lt_indent deeper')
        (fun l mem => Nat.le_of_eq (later'.head_column l mem))
      obtain rfl := block.inner_unique block' some
      rw [block.unique block', ih later', isRuleHeader_unique reads' reads]

end Reveille.RuleText.Grammar
