import Reveille.Proofs.RuleText.Stepwise

/-!
# Reading without bounds

The readers of blocks and of rules have bounds, on how deep blocks nest and on how much there is to
read. The bounds are never felt: blocks, clauses and rules are read by one another, as if without.
-/

namespace Reveille.RuleText

namespace Stepwise

variable {α β : Type} {cur cur' : Cursor} {line header first : Line} {rest : List Line}
  {columns : List Nat} {m m' : Stepwise α} {f f' : α → Stepwise β}

/-! ### Calls without bounds -/

/-- One call of `block`, what is inside being read in this way. -/
def blockCall (inside : Stepwise (List Clause)) (header : Line) : Stepwise (List Clause) := do
  match ← peek with
  | none => refuse header .blockMissing
  | some first =>
    tryCatch (indent first) fun _ => refuse first .blockExpected
    let cs ← inside
    closeBlock
    return cs

/-- One round of `clauses`, the other rounds being these. -/
def clausesRound (block : Line → Stepwise (List Clause)) (later : Stepwise (List Clause)) :
    Stepwise (List Clause) := do
  match ← peek with
  | none => return []
  | some line =>
    if ← isPeer line then
      advance
      let c ← clause block line
      let cs ← later
      return c :: cs
    else return []

/-- The clauses that are left of the innermost block. -/
def clausesLeft : Stepwise (List Clause) := do
  clauses block (← get).rest.length

def rulesLeft : Stepwise (List Rule) := do
  rulesUpTo (← get).rest.length

theorem blockUpTo_succ (n : Nat) : blockUpTo (n + 1) =
    blockCall (do clauses (blockUpTo n) (← get).rest.length) := rfl

theorem clauses_succ (block : Line → Stepwise (List Clause)) (n : Nat) :
    clauses block (n + 1) = clausesRound block (clauses block n) := rfl

theorem runAt_blockCall (inside : Stepwise (List Clause)) :
    (blockCall inside header).runAt ⟨first :: rest, columns⟩ =
      if columns.headD 0 < first.indent then
        (do let cs ← inside; closeBlock; return cs).runAt ⟨first :: rest, first.indent :: columns⟩
      else (.error (.ofFault (first.malformed 0 .blockExpected)), ⟨first :: rest, columns⟩) := by
  have indented := runAt_indent first ⟨first :: rest, columns⟩
  rw [blockCall, runAt_bind, runAt_peek]
  simp only [List.head?_cons]
  split_ifs with deeper
  · rw [runAt_bind, runAt_tryCatch_ok (indented.trans (if_pos deeper))]
    rfl
  · rw [runAt_bind, runAt_tryCatch_error (indented.trans (if_neg deeper))]
    rfl

theorem runAt_clausesRound (block : Line → Stepwise (List Clause))
    (later : Stepwise (List Clause)) :
    (clausesRound block later).runAt ⟨line :: rest, columns⟩ =
      if line.indent = columns.headD 0 then
        (do let c ← clause block line; let cs ← later; return c :: cs).runAt ⟨rest, columns⟩
      else if columns.headD 0 < line.indent then
        (.error (.ofFault (line.malformed 0 .illegalNesting)), ⟨line :: rest, columns⟩)
      else (.ok [], ⟨line :: rest, columns⟩) := by
  have peer := runAt_isPeer line ⟨line :: rest, columns⟩
  rw [clausesRound, runAt_bind, runAt_peek]
  simp only [List.head?_cons]
  split_ifs with placed deeper
  · rw [runAt_bind, peer.trans (if_pos placed)]
    rfl
  · rw [runAt_bind, peer.trans ((if_neg placed).trans (if_pos deeper))]
  · rw [runAt_bind, peer.trans ((if_neg placed).trans (if_neg deeper))]
    rfl

theorem runAt_rulesRound (later : Stepwise (List Rule)) :
    (rulesRound later).runAt ⟨line :: rest, columns⟩ =
      if line.indent = columns.headD 0 then
        (do let r ← rule line; let rs ← later; return r :: rs).runAt ⟨rest, columns⟩
      else if columns.headD 0 < line.indent then
        (.error (.ofFault (line.malformed 0 .illegalNesting)), ⟨line :: rest, columns⟩)
      else (.error (.fatal line.number (line.indent + 1) "not a peer entry"),
        ⟨line :: rest, columns⟩) := by
  have peer := runAt_checkPeer line ⟨line :: rest, columns⟩
  rw [rulesRound, runAt_bind, runAt_peek]
  simp only [List.head?_cons]
  split_ifs with placed deeper
  · rw [runAt_bind, runAt_tryCatch_ok (peer.trans (if_pos placed))]
    rfl
  · rw [runAt_bind, runAt_tryCatch_error (peer.trans ((if_neg placed).trans (if_pos deeper)))]
    rfl
  · rw [runAt_bind, runAt_tryCatch_error (peer.trans ((if_neg placed).trans (if_neg deeper)))]
    rfl

theorem runAt_block (header : Line) (cur : Cursor) :
    (block header).runAt cur = (blockUpTo cur.rest.length header).runAt cur := rfl

theorem runAt_clausesLeft (cur : Cursor) :
    clausesLeft.runAt cur = (clauses block cur.rest.length).runAt cur := rfl

theorem runAt_rulesLeft (cur : Cursor) :
    rulesLeft.runAt cur = (rulesUpTo cur.rest.length).runAt cur := rfl

theorem ext_runAt (same : ∀ cur, m.runAt cur = m'.runAt cur) : m = m' :=
  funext same

theorem runAt_bind_congr (first : m.runAt cur = m'.runAt cur)
    (later : ∀ a cur', m.runAt cur = (.ok a, cur') → (f a).runAt cur' = (f' a).runAt cur') :
    (m >>= f).runAt cur = (m' >>= f').runAt cur := by
  rw [runAt_bind, runAt_bind, ← first]
  cases outcome : m.runAt cur with
  | mk r cur₁ =>
    cases r with
    | ok a => exact later a cur₁ outcome
    | error e => rfl

/-! ### Bounds are never felt -/

theorem Follows.eq_ok {r : Except ParseError (α × Cursor)} {a : α} (follows : Follows m cur r)
    (outcome : m.runAt cur = (.ok a, cur')) : r = .ok (a, cur') := by
  cases follows with
  | ok outcome' =>
    rw [outcome] at outcome'
    cases outcome'
    rfl
  | error outcome' =>
    rw [outcome] at outcome'
    cases outcome'

theorem runAt_tryCatch_congr {h h' : Failure → Stepwise α} (first : m.runAt cur = m'.runAt cur)
    (later : ∀ e cur', (h e).runAt cur' = (h' e).runAt cur') :
    (tryCatch m h).runAt cur = (tryCatch m' h').runAt cur := by
  rw [runAt_tryCatch, runAt_tryCatch, ← first]
  cases outcome : m.runAt cur with
  | mk r cur₁ =>
    cases r with
    | ok a => rfl
    | error e => exact later e cur₁

/-- A trial of a clause of one line does not move the cursor. -/
theorem runAt_firstMatch_oneLine_congr {as as' : List (Line → Stepwise Clause)}
    (later : (firstMatch line as).runAt cur = (firstMatch line as').runAt cur) (message : String)
    (f : Line → Attempt Clause) : (firstMatch line (oneLine message f :: as)).runAt cur =
      (firstMatch line (oneLine message f :: as')).runAt cur := by
  rw [firstMatch, firstMatch, runAt_tryCatch, runAt_tryCatch, oneLine]
  cases f line with
  | accepted c => rfl
  | mismatch => exact later
  | failed e =>
    show (if (Failure.ofFault e).isFatal then _ else firstMatch line as).runAt cur =
      (if (Failure.ofFault e).isFatal then _ else firstMatch line as').runAt cur
    rw [Failure.isFatal_ofFault]
    rfl

/-- Of the block under a line only what it comes to from where the line ends counts. -/
theorem runAt_clause_congr {block block' : Line → Stepwise (List Clause)}
    (same : (block line).runAt cur = (block' line).runAt cur) :
    (clause block line).runAt cur = (clause block' line).runAt cur := by
  have grouped : (group block line).runAt cur = (group block' line).runAt cur := by
    unfold group
    cases Quantifier.ofHeader line with
    | mismatch | failed => rfl
    | accepted q => exact runAt_bind_congr same fun _ _ _ => rfl
  have last : (firstMatch line [group block]).runAt cur =
      (firstMatch line [group block']).runAt cur :=
    runAt_tryCatch_congr grouped fun _ _ => rfl
  change (firstMatch line (Kind.all.map (Kind.trial block))).runAt cur =
    (firstMatch line (Kind.all.map (Kind.trial block'))).runAt cur
  iterate 4 apply runAt_firstMatch_oneLine_congr
  exact last

/-- What is read is read from the cursor on, and the open blocks stay as they are. -/
def Advances (m : Stepwise α) : Prop :=
  ∀ cur a cur', m.runAt cur = (.ok a, cur') → cur'.rest <:+ cur.rest ∧ cur'.columns = cur.columns

theorem advances_of_readsBlock {cs : List Clause} (reads : ReadsBlock cur cs cur') :
    cur'.rest <:+ cur.rest ∧ cur'.columns = cur.columns := by
  obtain ⟨⟨inner, -, lines, trees, cut, -, -, same⟩, -⟩ := reads
  exact ⟨⟨lines, cut.symm⟩, same⟩

theorem clause_advances_of_follows {block : Line → Stepwise (List Clause)} {block' : BlockReader}
    (follows : BlockFollows block block') (sound : block'.Sound) (line : Line) :
    Advances (clause block line) := by
  intro cur c cur' outcome
  rcases clause_eq_ok_iff.mp ((clause_follows follows).eq_ok outcome) with
    ⟨-, rfl⟩ | ⟨q, cs, -, below, -⟩
  · exact ⟨List.suffix_refl _, rfl⟩
  · exact advances_of_readsBlock (sound _ _ _ _ below)

theorem clause_advances (line : Line) : Advances (clause block line) :=
  clause_advances_of_follows block_follows (fun _ _ _ _ => blockUpTo_sound _ _ _ _ _) line

theorem rule_advances (line : Line) : Advances (rule line) := by
  intro cur r cur' outcome
  obtain ⟨_, _, _, below, _⟩ := rule_eq_ok_iff.mp (rule_follows.eq_ok outcome)
  exact advances_of_readsBlock (blockUpTo_sound _ _ _ _ _ below)

/-! ### More steps than lines -/

theorem runAt_clauses_nil (block : Line → Stepwise (List Clause)) (n : Nat) :
    (clauses block n).runAt ⟨[], columns⟩ = (.ok [], ⟨[], columns⟩) := by
  cases n <;> rfl

theorem runAt_blockUpTo_nil (n : Nat) : (blockUpTo n header).runAt ⟨[], columns⟩ =
    (.error (.ofFault (header.malformed 0 .blockMissing)), ⟨[], columns⟩) := by
  cases n <;> rfl

theorem clauses_enough {block block' : Line → Stepwise (List Clause)} {b n n' : Nat}
    (same : ∀ header cur, cur.rest.length ≤ b →
      (block header).runAt cur = (block' header).runAt cur)
    (advances : ∀ line, Advances (clause block line)) (few : cur.rest.length ≤ b + 1)
    (enough : cur.rest.length ≤ n) (enough' : cur.rest.length ≤ n') :
    (clauses block n).runAt cur = (clauses block' n').runAt cur := by
  induction n generalizing n' cur with
  | zero =>
    obtain ⟨lines, columns⟩ := cur
    obtain rfl := List.length_eq_zero_iff.mp (Nat.le_zero.mp enough)
    rw [runAt_clauses_nil, runAt_clauses_nil]
  | succ n ih =>
    obtain ⟨lines, columns⟩ := cur
    cases lines with
    | nil => rw [runAt_clauses_nil, runAt_clauses_nil]
    | cons line rest =>
      simp only [List.length_cons] at few enough enough'
      obtain ⟨n', rfl⟩ : ∃ k, n' = k + 1 := ⟨n' - 1, by omega⟩
      rw [clauses_succ, clauses_succ, runAt_clausesRound, runAt_clausesRound]
      split
      · -- The line itself is read, so what is left for its block is within the bound.
        refine runAt_bind_congr (runAt_clause_congr (same line _ (by simp only; omega))) ?_
        intro c cur₁ read
        have shorter : cur₁.rest.length ≤ rest.length :=
          (advances line _ c cur₁ read).1.length_le
        exact runAt_bind_congr (ih (by omega) (by omega) (by omega)) fun cs cur₂ _ => rfl
      · rfl

theorem blockUpTo_enough {n n' : Nat} (enough : cur.rest.length ≤ n)
    (enough' : cur.rest.length ≤ n') :
    (blockUpTo n header).runAt cur = (blockUpTo n' header).runAt cur := by
  induction n generalizing n' header cur with
  | zero =>
    obtain ⟨lines, columns⟩ := cur
    obtain rfl := List.length_eq_zero_iff.mp (Nat.le_zero.mp enough)
    rw [runAt_blockUpTo_nil, runAt_blockUpTo_nil]
  | succ n ih =>
    obtain ⟨lines, columns⟩ := cur
    cases lines with
    | nil => rw [runAt_blockUpTo_nil, runAt_blockUpTo_nil]
    | cons first rest =>
      simp only [List.length_cons] at enough enough'
      obtain ⟨n', rfl⟩ : ∃ k, n' = k + 1 := ⟨n' - 1, by omega⟩
      rw [blockUpTo_succ, blockUpTo_succ, runAt_blockCall, runAt_blockCall]
      split
      · refine runAt_bind_congr ?_ fun cs cur₁ _ => rfl
        refine clauses_enough (b := rest.length) ?_ ?_ (Nat.le_refl _) (Nat.le_refl _)
          (Nat.le_refl _)
        · intro header cur few
          exact ih (by omega) (by omega)
        · exact clause_advances_of_follows (blockUpTo_follows n) (blockUpTo_sound n)
      · rfl

/-- A block is read by the clauses in it, however many and however deep. -/
theorem block_eq (header : Line) : block header = blockCall clausesLeft header := by
  refine ext_runAt fun cur => ?_
  obtain ⟨lines, columns⟩ := cur
  cases lines with
  | nil => rfl
  | cons first rest =>
    rw [runAt_block, List.length_cons, blockUpTo_succ, runAt_blockCall, runAt_blockCall]
    split
    · refine runAt_bind_congr ?_ fun cs cur₁ _ => rfl
      refine clauses_enough (b := rest.length) ?_ ?_ (Nat.le_refl _) (Nat.le_refl _)
        (Nat.le_refl _)
      · intro header cur few
        exact blockUpTo_enough few (Nat.le_refl _)
      · exact clause_advances_of_follows (blockUpTo_follows _) (blockUpTo_sound _)
    · rfl

theorem clausesLeft_eq : clausesLeft = clausesRound block clausesLeft := by
  refine ext_runAt fun cur => ?_
  obtain ⟨lines, columns⟩ := cur
  cases lines with
  | nil => rfl
  | cons line rest =>
    rw [runAt_clausesLeft, List.length_cons, clauses_succ, runAt_clausesRound, runAt_clausesRound]
    split
    · refine runAt_bind_congr rfl fun c cur₁ read => ?_
      have shorter : cur₁.rest.length ≤ rest.length :=
        (clause_advances line _ c cur₁ read).1.length_le
      refine runAt_bind_congr ?_ fun cs cur₂ _ => rfl
      exact clauses_enough (b := rest.length) (fun _ _ _ => rfl) clause_advances (by omega) shorter
        (Nat.le_refl _)
    · rfl

theorem rulesUpTo_enough {n n' : Nat} (enough : cur.rest.length ≤ n)
    (enough' : cur.rest.length ≤ n') : (rulesUpTo n).runAt cur = (rulesUpTo n').runAt cur := by
  have none : ∀ {n : Nat} {columns : List Nat},
      (rulesUpTo n).runAt ⟨[], columns⟩ = (.ok [], ⟨[], columns⟩) := by
    intro n columns
    cases n <;> rfl
  induction n generalizing n' cur with
  | zero =>
    obtain ⟨lines, columns⟩ := cur
    obtain rfl := List.length_eq_zero_iff.mp (Nat.le_zero.mp enough)
    rw [none, none]
  | succ n ih =>
    obtain ⟨lines, columns⟩ := cur
    cases lines with
    | nil => rw [none, none]
    | cons line rest =>
      simp only [List.length_cons] at enough enough'
      obtain ⟨n', rfl⟩ : ∃ k, n' = k + 1 := ⟨n' - 1, by omega⟩
      rw [rulesUpTo_succ, rulesUpTo_succ, runAt_rulesRound, runAt_rulesRound]
      split
      · refine runAt_bind_congr rfl fun r cur₁ read => ?_
        have shorter : cur₁.rest.length ≤ rest.length :=
          (rule_advances line _ r cur₁ read).1.length_le
        exact runAt_bind_congr (ih (by omega) (by omega)) fun rs cur₂ _ => rfl
      · rfl

theorem rulesLeft_eq : rulesLeft = rulesRound rulesLeft := by
  refine ext_runAt fun cur => ?_
  obtain ⟨lines, columns⟩ := cur
  cases lines with
  | nil => rfl
  | cons line rest =>
    rw [runAt_rulesLeft, List.length_cons, rulesUpTo_succ, runAt_rulesRound, runAt_rulesRound]
    split
    · refine runAt_bind_congr rfl fun r cur₁ read => ?_
      have shorter : cur₁.rest.length ≤ rest.length :=
        (rule_advances line _ r cur₁ read).1.length_le
      exact runAt_bind_congr (rulesUpTo_enough shorter (Nat.le_refl _)) fun rs cur₂ _ => rfl
    · rfl

/-! ### At a line -/

theorem runAt_rulesLeft_cons (placed : line.indent = columns.headD 0) :
    rulesLeft.runAt ⟨line :: rest, columns⟩ =
      (do let r ← rule line; let rs ← rulesLeft; return r :: rs).runAt ⟨rest, columns⟩ := by
  rw [rulesLeft_eq, runAt_rulesRound, if_pos placed, ← rulesLeft_eq]

theorem runAt_block_cons (header : Line) (deeper : columns.headD 0 < first.indent) :
    (block header).runAt ⟨first :: rest, columns⟩ =
      (do let cs ← clausesLeft; closeBlock; return cs).runAt
        ⟨first :: rest, first.indent :: columns⟩ := by
  rw [block_eq, runAt_blockCall, if_pos deeper]

theorem runAt_clausesLeft_cons (placed : line.indent = columns.headD 0) :
    clausesLeft.runAt ⟨line :: rest, columns⟩ =
      (do let c ← clause block line; let cs ← clausesLeft; return c :: cs).runAt
        ⟨rest, columns⟩ := by
  rw [clausesLeft_eq, runAt_clausesRound, if_pos placed, ← clausesLeft_eq]

end Stepwise

end Reveille.RuleText
