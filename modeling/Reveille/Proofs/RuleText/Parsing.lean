import Reveille.Proofs.RuleText.Layout

/-!
# Rule texts and their derivations

The reader of a block takes exactly the lines that derive one, and so up to whole texts: a text
has rules if and only if its lines have a derivation, and then the rules are those of its tree.
-/

namespace Reveille.RuleText

open Grammar Reveille.Net Reveille.Text

variable {block : BlockReader} {cur cur' : Cursor} {cs : List Clause}

/-! ### Reading a block -/

/-- The lines between two cursors derive these clauses, at a column. -/
def Reads (column : Nat) (cur : Cursor) (cs : List Clause) (cur' : Cursor) : Prop :=
  ∃ lines trees, cur.rest = lines ++ cur'.rest ∧ Clauses column lines trees ∧
    trees.map ClauseTree.clause = cs ∧ cur'.columns = cur.columns

/-- The lines between two cursors are a block below the innermost column, and what is left
starts no deeper than there. -/
def ReadsBlock (cur : Cursor) (cs : List Clause) (cur' : Cursor) : Prop :=
  (∃ inner, cur.top < inner ∧ Reads inner cur cs cur') ∧ cs ≠ [] ∧
    ∀ l ∈ cur'.rest.head?, l.indent ≤ cur.top

theorem closeBlock_eq_ok_iff : closeBlock cur = .ok cur' ↔
    (∀ l ∈ cur.rest.head?, l.indent < cur.top ∧ l.indent ≤ cur.enclosing) ∧ cur.pop = cur' := by
  unfold closeBlock
  split
  · next none => simp [none]
  · next l _ next_ =>
    simp only [next_, List.head?_cons, Option.mem_def, Option.some.injEq, forall_eq']
    split
    · next left => simp [left]
    · next stays => simp [stays]

theorem Reads.cons {line : Line} {rest : List Line} {columns : List Nat} {column : Nat} {c : Clause}
    (placed : line.indent = column) (reads : IsClause line.text c)
    (later : Reads column ⟨rest, columns⟩ cs cur') :
    Reads column ⟨line :: rest, columns⟩ (c :: cs) cur' := by
  obtain ⟨lines, trees, cut, derived, rfl, same⟩ := later
  exact ⟨line :: lines, .line line c :: trees, congrArg (line :: ·) cut,
    .line placed reads derived, rfl, same⟩

theorem Reads.cons_group {header : Line} {rest : List Line} {columns : List Nat} {cur₁ : Cursor}
    {q : Quantifier} {body : List Clause} (placed : header.indent = columns.headD 0)
    (reads : IsGroupHeader header.text q) (block : ReadsBlock ⟨rest, columns⟩ body cur₁)
    (arity : q = .not → body.length = 1) (later : Reads (columns.headD 0) cur₁ cs cur') :
    Reads (columns.headD 0) ⟨header :: rest, columns⟩
      (.node (groupNode q (body.map Clause.toNode)) :: cs) cur' := by
  obtain ⟨⟨inner, deeper, below, trees, cut, inside, rfl, same⟩, some, -⟩ := block
  obtain ⟨lines, laterTrees, cutLater, derived, rfl, sameLater⟩ := later
  refine ⟨header :: (below ++ lines), .group header q trees :: laterTrees, ?_, ?_, ?_,
    sameLater.trans same⟩
  · rw [List.cons_append, List.append_assoc, ← cutLater]
    exact congrArg (header :: ·) cut
  · exact .group placed reads deeper inside (fun none => some (by rw [none]; rfl))
      (by simpa using arity) derived
  · rw [List.map_cons, ClauseTree.clause, clauseTree_nodes_eq_map]

theorem Reads.length_le {column : Nat} (h : Reads column cur cs cur') :
    cur'.rest.length ≤ cur.rest.length := by
  obtain ⟨lines, _, cut, -⟩ := h
  rw [cut, List.length_append]
  exact Nat.le_add_left _ _

theorem Reads.top_eq {column : Nat} (h : Reads column cur cs cur') : cur'.top = cur.top := by
  obtain ⟨_, _, _, _, _, same⟩ := h
  exact congrArg (·.headD 0) same

/-- Whatever the reader takes for a block is one. -/
def BlockReader.Sound (block : BlockReader) : Prop :=
  ∀ header cur cs cur', block header cur = .ok (cs, cur') → ReadsBlock cur cs cur'

theorem reads_of_clauses {n : Nat} (sound : block.Sound) (h : clauses block n cur = .ok (cs, cur'))
    (enough : cur.rest.length ≤ n) :
    Reads cur.top cur cs cur' ∧ ∀ l ∈ cur'.rest.head?, l.indent < cur.top := by
  induction n generalizing cur cs with
  | zero =>
    cases h
    have none : cur'.rest = [] := List.length_eq_zero_iff.mp (Nat.le_zero.mp enough)
    exact ⟨⟨[], [], rfl, .nil, rfl, rfl⟩, by simp [none]⟩
  | succ n ih =>
    obtain ⟨lines, columns⟩ := cur
    cases lines with
    | nil =>
      cases h
      exact ⟨⟨[], [], rfl, .nil, rfl, rfl⟩, by simp⟩
    | cons line rest =>
      have shorter : rest.length ≤ n := Nat.le_of_succ_le_succ enough
      simp only [clauses] at h
      split at h
      · next placed =>
        obtain ⟨⟨c, cur₁⟩, first, h⟩ := bind_eq_ok_iff.mp h
        obtain ⟨⟨cs, cur₂⟩, later, h⟩ := bind_eq_ok_iff.mp h
        cases h
        rcases clause_eq_ok_iff.mp first with ⟨reads, rfl⟩ | ⟨q, body, reads, below, arity, rfl⟩
        · obtain ⟨found, left⟩ := ih later shorter
          exact ⟨found.cons placed reads, left⟩
        · have taken := sound _ _ _ _ below
          obtain ⟨inner, -, inside⟩ := taken.1
          obtain ⟨found, left⟩ := ih later (Nat.le_trans inside.length_le shorter)
          rw [inside.top_eq] at found left
          exact ⟨found.cons_group placed reads taken arity, left⟩
      · next off =>
        split at h
        · cases h
        · next right =>
          cases h
          refine ⟨⟨[], [], rfl, .nil, rfl, rfl⟩, fun l first => ?_⟩
          cases first
          exact Nat.lt_of_le_of_ne (Nat.not_lt.mp right) off

theorem blockUpTo_sound (n : Nat) : (blockUpTo n).Sound := by
  induction n with
  | zero =>
    intro header cur cs cur' h
    cases h
  | succ n ih =>
    rintro header ⟨lines, columns⟩ cs cur' h
    cases lines with
    | nil => cases h
    | cons line rest =>
      simp only [blockUpTo] at h
      split at h
      · next deeper =>
        obtain ⟨⟨cs, cur₁⟩, body, h⟩ := bind_eq_ok_iff.mp h
        obtain ⟨cur₂, close, h⟩ := bind_eq_ok_iff.mp h
        cases h
        obtain ⟨⟨below, trees, cut, derived, rfl, same⟩, left⟩ :=
          reads_of_clauses ih body (Nat.le_refl _)
        obtain ⟨outside, rfl⟩ := closeBlock_eq_ok_iff.mp close
        refine ⟨⟨line.indent, deeper, below, trees, cut, derived, rfl, congrArg List.tail same⟩,
          ?_, fun l next_ => ?_⟩
        · -- Without a clause the first line would be left, and it is not left of itself.
          intro none
          obtain rfl := List.map_eq_nil_iff.mp none
          cases derived
          exact absurd (left line (by rw [← List.nil_append cur₁.rest, ← cut]; rfl))
            (Nat.lt_irrefl _)
        · have enclosing : cur₁.enclosing = columns.headD 0 :=
            congrArg (fun cs : List Nat => cs.tail.headD 0) same
          exact Nat.le_trans (outside l next_).2 (Nat.le_of_eq enclosing)
      · cases h

/-! ### Deriving a block -/

theorem clauses_of_rest {n : Nat} (outside : ∀ l ∈ cur.rest.head?, l.indent < cur.top) :
    clauses block n cur = .ok ([], cur) := by
  obtain ⟨lines, columns⟩ := cur
  cases n with
  | zero => rfl
  | succ n =>
    cases lines with
    | nil => rfl
    | cons line rest =>
      have left : line.indent < (Cursor.mk (line :: rest) columns).top := outside line rfl
      exact (if_neg (Nat.ne_of_lt left)).trans (if_neg (Nat.lt_asymm left))

theorem clauses_cons {n : Nat} {line : Line} {rest : List Line} {columns : List Nat} {c : Clause}
    {cur₁ : Cursor} (placed : line.indent = columns.headD 0)
    (first : clause block line ⟨rest, columns⟩ = .ok (c, cur₁))
    (later : clauses block n cur₁ = .ok (cs, cur')) :
    clauses block (n + 1) ⟨line :: rest, columns⟩ = .ok (c :: cs, cur') := by
  unfold clauses
  refine (if_pos placed).trans (bind_eq_ok_iff.mpr ⟨(c, cur₁), first, ?_⟩)
  exact bind_eq_ok_iff.mpr ⟨(cs, cur'), later, rfl⟩

theorem blockUpTo_succ {n inner : Nat} {header first : Line} {below rest : List Line}
    {columns : List Nat} (placed : first.indent = inner) (deeper : columns.headD 0 < inner)
    (read : clauses (blockUpTo n) (first :: below).length ⟨first :: below, inner :: columns⟩ =
      .ok (cs, ⟨rest, inner :: columns⟩))
    (outside : ∀ l ∈ rest.head?, l.indent ≤ columns.headD 0) :
    blockUpTo (n + 1) header ⟨first :: below, columns⟩ = .ok (cs, ⟨rest, columns⟩) := by
  subst placed
  have close : closeBlock ⟨rest, first.indent :: columns⟩ = .ok ⟨rest, columns⟩ :=
    closeBlock_eq_ok_iff.mpr ⟨fun l mem =>
      ⟨Nat.lt_of_le_of_lt (outside l mem) deeper, outside l mem⟩, rfl⟩
  refine (if_pos deeper).trans (bind_eq_ok_iff.mpr ⟨_, read, ?_⟩)
  exact bind_eq_ok_iff.mpr ⟨_, close, rfl⟩

/-- Lines that derive clauses are read, given enough steps and levels. -/
theorem clauses_of_derivation {column n m : Nat} {lines rest : List Line} {trees : List ClauseTree}
    {columns : List Nat} (h : Clauses column lines trees) (levels : lines.length ≤ n + 1)
    (steps : lines.length ≤ m) (outside : ∀ l ∈ rest.head?, l.indent < column) :
    clauses (blockUpTo n) m ⟨lines ++ rest, column :: columns⟩ =
      .ok (trees.map ClauseTree.clause, ⟨rest, column :: columns⟩) := by
  induction h generalizing n m rest columns with
  | nil => exact clauses_of_rest outside
  | line placed reads later ih =>
    obtain ⟨m, rfl⟩ : ∃ k, m = k + 1 := ⟨m - 1, by simp at steps; omega⟩
    rw [List.length_cons] at levels steps
    exact clauses_cons placed (clause_eq_ok_iff.mpr (.inl ⟨reads, rfl⟩))
      (ih (by omega) (by omega) outside)
  | @group column inner header q below lines body trees placed reads deeper derived some arity
      later inside after =>
    obtain ⟨first, below, rfl⟩ := List.exists_cons_of_ne_nil (derived.ne_nil some)
    rw [List.length_cons, List.length_append, List.length_cons] at levels steps
    obtain ⟨m, rfl⟩ : ∃ k, m = k + 1 := ⟨m - 1, by omega⟩
    obtain ⟨n, rfl⟩ : ∃ k, n = k + 1 := ⟨n - 1, by omega⟩
    have beyond : ∀ l ∈ (lines ++ rest).head?, l.indent ≤ column := by
      cases lines with
      | nil => exact fun l mem => Nat.le_of_lt (outside l mem)
      | cons l ls => exact fun k mem => Nat.le_of_eq (later.head_column k mem)
    have read : clauses (blockUpTo n) ((first :: below) ++ (lines ++ rest)).length
        ⟨(first :: below) ++ (lines ++ rest), inner :: column :: columns⟩ =
          .ok (body.map ClauseTree.clause, ⟨lines ++ rest, inner :: column :: columns⟩) :=
      inside (by simp; omega) (by simp) fun l mem => Nat.lt_of_le_of_lt (beyond l mem) deeper
    have taken : blockUpTo (n + 1) header ⟨(first :: below) ++ (lines ++ rest), column :: columns⟩ =
        .ok (body.map ClauseTree.clause, ⟨lines ++ rest, column :: columns⟩) :=
      blockUpTo_succ (derived.head_column first rfl) deeper read beyond
    have read : clause (blockUpTo (n + 1)) header
        ⟨(first :: below) ++ (lines ++ rest), column :: columns⟩ =
          .ok (ClauseTree.clause (.group header q body), ⟨lines ++ rest, column :: columns⟩) := by
      rw [ClauseTree.clause, clauseTree_nodes_eq_map]
      exact clause_eq_ok_iff.mpr (.inr ⟨q, _, reads, taken, by simpa using arity, rfl⟩)
    rw [List.cons_append, List.append_assoc]
    exact clauses_cons placed read (after (by omega) (by omega) outside)

/-! ### Rules -/

/-- A header and clauses are never short of a host or of conditions, and have one of each. -/
theorem ofParts_ruleParts (host : Host) (cs : List Clause) :
    Rule.ofParts (ruleParts host cs) = (RulePart.holdOffOf (cs.filterMap Clause.holdOff?)).map
      fun n => Rule.make host n ⟨cs.filterMap Clause.node?⟩ := by
  have hosts : (ruleParts host cs).filterMap RulePart.host? = [host] := by
    simp [ruleParts, RulePart.host?]
  have conditions : (ruleParts host cs).filterMap RulePart.conditions? =
      [⟨cs.filterMap Clause.node?⟩] := by
    simp [ruleParts, List.filterMap_cons, RulePart.conditions?]
  have holdOffs : (ruleParts host cs).filterMap RulePart.holdOff? =
      cs.filterMap Clause.holdOff? := by
    have back : RulePart.holdOff? ∘ RulePart.holdOff = some := rfl
    simp [ruleParts, List.filterMap_cons, RulePart.holdOff?, back]
  unfold Rule.ofParts
  rw [hosts, conditions, holdOffs]
  cases RulePart.holdOffOf (cs.filterMap Clause.holdOff?) <;> rfl

theorem ofParts_ruleParts_eq_ok_iff {host : Host} {r : Rule} :
    Rule.ofParts (ruleParts host cs) = .ok r ↔ (cs.filterMap Clause.holdOff?).length ≤ 1 ∧
      Rule.make host ((cs.filterMap Clause.holdOff?).headD 0) ⟨cs.filterMap Clause.node?⟩ = r := by
  rw [ofParts_ruleParts]
  match cs.filterMap Clause.holdOff? with
  | [] => exact ⟨fun h => ⟨Nat.zero_le 1, Except.ok.inj h⟩, fun h => congrArg Except.ok h.2⟩
  | [n] => exact ⟨fun h => ⟨Nat.le_refl 1, Except.ok.inj h⟩, fun h => congrArg Except.ok h.2⟩
  | _ :: _ :: _ => exact ⟨fun h => (by cases h), fun h => absurd h.1 (by simp)⟩

theorem ofParts_ruleParts_eq_error {host : Host} {cause : PartsError}
    (h : Rule.ofParts (ruleParts host cs) = .error cause) :
    ∃ n, 2 ≤ n ∧ cause = .duplicateHoldOff n := by
  rw [ofParts_ruleParts] at h
  match cs.filterMap Clause.holdOff?, h with
  | _ :: _ :: ns, h => exact ⟨ns.length + 2, Nat.le_add_left _ _, (Except.error.inj h).symm⟩

theorem rule_eq_ok_iff {line : Line} {r : Rule} : rule line cur = .ok (r, cur') ↔
    ∃ host cs, IsRuleHeader line.text host ∧ RuleText.block line cur = .ok (cs, cur') ∧
      Rule.ofParts (ruleParts host cs) = .ok r := by
  unfold rule
  constructor
  · intro h
    obtain ⟨host, named, h⟩ := bind_eq_ok_iff.mp h
    obtain ⟨⟨cs, cur₁⟩, below, h⟩ := bind_eq_ok_iff.mp h
    simp only at h
    split at h
    · next made =>
      cases h
      exact ⟨host, cs, header_eq_ok_iff.mp named, below, made⟩
    · cases h
  · rintro ⟨host, cs, named, below, made⟩
    refine bind_eq_ok_iff.mpr ⟨host, header_eq_ok_iff.mpr named, ?_⟩
    refine bind_eq_ok_iff.mpr ⟨(cs, cur'), below, ?_⟩
    simp only [made]
    rfl

theorem rules_of_rulesUpTo {n : Nat} {lines : List Line} {rules : List Rule}
    (enough : lines.length ≤ n) (h : rulesUpTo n ⟨lines, [0]⟩ = .ok rules) :
    ∃ trees, Rules lines trees ∧ trees.map RuleTree.rule = rules := by
  induction n generalizing lines rules with
  | zero =>
    cases h
    obtain rfl := List.length_eq_zero_iff.mp (Nat.le_zero.mp enough)
    exact ⟨[], .nil, rfl⟩
  | succ n ih =>
    cases lines with
    | nil =>
      cases h
      exact ⟨[], .nil, rfl⟩
    | cons line rest =>
      simp only [rulesUpTo] at h
      split at h
      · next placed =>
        obtain ⟨⟨r, ⟨left, columns⟩⟩, first, h⟩ := bind_eq_ok_iff.mp h
        obtain ⟨rs, later, h⟩ := bind_eq_ok_iff.mp h
        cases h
        obtain ⟨host, cs, named, below, made⟩ := rule_eq_ok_iff.mp first
        obtain ⟨⟨inner, deeper, inside⟩, some, -⟩ := blockUpTo_sound _ _ _ _ _ below
        have shorter : left.length ≤ n :=
          Nat.le_trans inside.length_le (Nat.le_of_succ_le_succ enough)
        obtain ⟨lines, body, cut, derived, rfl, rfl⟩ := inside
        obtain ⟨trees, laterDerived, rfl⟩ := ih shorter later
        obtain ⟨single, rfl⟩ := ofParts_ruleParts_eq_ok_iff.mp made
        obtain rfl : rest = lines ++ left := cut
        exact ⟨⟨line, host, body⟩ :: trees, .rule placed named deeper derived
          (fun none => some (by rw [none]; rfl)) single laterDerived, rfl⟩
      · cases h

theorem rulesUpTo_cons {n : Nat} {line : Line} {rest : List Line} {r : Rule}
    (placed : line.indent = 0) (made : rule line ⟨rest, [0]⟩ = .ok (r, cur)) :
    rulesUpTo (n + 1) ⟨line :: rest, [0]⟩ = (rulesUpTo n cur).map (r :: ·) := by
  refine (if_pos placed).trans ?_
  rw [made]
  exact bind_pure_comp (List.cons r) (rulesUpTo n cur)

/-- Lines that derive rules are read, one step for each rule. What follows them is read as if it
stood alone, if it starts where rules start. -/
theorem rulesUpTo_append {n : Nat} {lines rest : List Line} {trees : List RuleTree}
    (h : Rules lines trees) (outside : ∀ l ∈ rest.head?, l.indent = 0) :
    rulesUpTo (trees.length + n) ⟨lines ++ rest, [0]⟩ =
      (rulesUpTo n ⟨rest, [0]⟩).map (trees.map RuleTree.rule ++ ·) := by
  induction h with
  | nil =>
    rw [List.length_nil, Nat.zero_add, List.nil_append]
    cases rulesUpTo n ⟨rest, [0]⟩ <;> rfl
  | @rule inner header host below lines body trees placed named deeper derived some single later
      ih =>
    obtain ⟨first, below, rfl⟩ := List.exists_cons_of_ne_nil (derived.ne_nil some)
    have beyond : ∀ l ∈ (lines ++ rest).head?, l.indent ≤ 0 := by
      cases lines with
      | nil => exact fun l mem => Nat.le_of_eq (outside l mem)
      | cons k ks => exact fun l mem => Nat.le_of_eq (later.head_column l mem)
    have read : clauses (blockUpTo (below ++ (lines ++ rest)).length)
        ((first :: below) ++ (lines ++ rest)).length
        ⟨(first :: below) ++ (lines ++ rest), [inner, 0]⟩ =
          .ok (body.map ClauseTree.clause, ⟨lines ++ rest, [inner, 0]⟩) :=
      clauses_of_derivation derived (by simp) (by simp)
        fun l mem => Nat.lt_of_le_of_lt (beyond l mem) deeper
    have taken : RuleText.block header ⟨(first :: below) ++ (lines ++ rest), [0]⟩ =
        .ok (body.map ClauseTree.clause, ⟨lines ++ rest, [0]⟩) :=
      blockUpTo_succ (derived.head_column first rfl) deeper read beyond
    have made := rule_eq_ok_iff.mpr ⟨host, _, named, taken,
      ofParts_ruleParts_eq_ok_iff.mpr ⟨single, rfl⟩⟩
    rw [List.length_cons, Nat.add_right_comm, List.cons_append, List.append_assoc,
      rulesUpTo_cons placed made, ih]
    cases rulesUpTo n ⟨rest, [0]⟩ <;> rfl

theorem Grammar.Rules.length_le {lines : List Line} {trees : List RuleTree} (h : Rules lines trees) :
    trees.length ≤ lines.length := by
  induction h with
  | nil => exact Nat.le_refl _
  | rule =>
    rw [List.length_cons, List.length_cons, List.length_append]
    omega

theorem rulesUpTo_of_rules {n : Nat} {lines : List Line} {trees : List RuleTree}
    (h : Rules lines trees) (enough : lines.length ≤ n) :
    rulesUpTo n ⟨lines, [0]⟩ = .ok (trees.map RuleTree.rule) := by
  obtain ⟨m, rfl⟩ := Nat.exists_eq_add_of_le (Nat.le_trans h.length_le enough)
  have read := @rulesUpTo_append m lines [] trees h (by simp)
  rw [List.append_nil] at read
  rw [read]
  cases m <;> simp [rulesUpTo, Except.map]

/-- A text has rules if and only if only spaces indent its significant lines and these derive
rules. They do so in one way, and the rules are those of that derivation. -/
theorem parseRules_eq_ok_iff (text : List Char) (rules : List Rule) :
    parseRules text = .ok rules ↔ SpacesOnly text ∧
      ∃ trees, Rules (significantLines text) trees ∧
        (∀ other, Rules (significantLines text) other → other = trees) ∧
        trees.map RuleTree.rule = rules := by
  constructor
  · intro h
    obtain ⟨lines, counted, h⟩ := bind_eq_ok_iff.mp h
    obtain ⟨spaces, rfl⟩ := ofText_eq_ok_iff.mp counted
    obtain ⟨trees, derived, same⟩ := rules_of_rulesUpTo (Nat.le_refl _) h
    exact ⟨spaces, trees, derived, fun other h' => derived.unique h', same⟩
  · rintro ⟨spaces, trees, derived, -, rfl⟩
    exact bind_eq_ok_iff.mpr ⟨_, ofText_eq_ok_iff.mpr ⟨spaces, rfl⟩,
      rulesUpTo_of_rules derived (Nat.le_refl _)⟩

end Reveille.RuleText
