import Mathlib.Data.List.Forall2
import Reveille.Proofs.RuleText.Parsing
import Reveille.RuleText.Stepwise

/-!
# Reading step by step is reading

The steps with one cursor come to what the readers come to that hand their cursors on. Mismatches
never get out: where one can arise the line is tried in another way, or the failure becomes a
fatal one.
-/

namespace Reveille.RuleText

variable {α β : Type} {cur cur' : Cursor} {line : Line}

@[simp] theorem Failure.isFatal_ofFault (e : ParseError) : (Failure.ofFault e).isFatal = true := by
  cases e <;> rfl

namespace Stepwise

/-! ### Outcomes of steps -/

section Outcomes

variable {m : Stepwise α} {f : α → Stepwise β} {h : Failure → Stepwise α}

theorem runAt_bind : (m >>= f).runAt cur =
    match m.runAt cur with
    | (.ok a, cur') => (f a).runAt cur'
    | (.error e, cur') => (.error e, cur') := by
  simp only [runAt, ExceptT.run, StateT.run, bind, ExceptT.bind, ExceptT.bindCont, ExceptT.mk,
    StateT.bind]
  generalize m cur = r
  obtain ⟨_ | _, _⟩ := r <;> rfl

/-- What fails is caught, but the cursor stays where the failing step left it. -/
theorem runAt_tryCatch : (tryCatch m h).runAt cur =
    match m.runAt cur with
    | (.ok a, cur') => (.ok a, cur')
    | (.error e, cur') => (h e).runAt cur' := by
  simp only [runAt, ExceptT.run, StateT.run, tryCatch, tryCatchThe, MonadExceptOf.tryCatch,
    ExceptT.tryCatch, ExceptT.mk, bind, StateT.bind]
  generalize m cur = r
  obtain ⟨_ | _, _⟩ := r <;> rfl

theorem runAt_tryCatch_ok {a : α} (outcome : m.runAt cur = (.ok a, cur')) :
    (tryCatch m h).runAt cur = (.ok a, cur') := by
  rw [runAt_tryCatch, outcome]

theorem runAt_tryCatch_error {e : Failure} (outcome : m.runAt cur = (.error e, cur')) :
    (tryCatch m h).runAt cur = (h e).runAt cur' := by
  rw [runAt_tryCatch, outcome]

@[simp] theorem runAt_pure (a : α) : (pure a : Stepwise α).runAt cur = (.ok a, cur) := rfl

@[simp] theorem runAt_get : (get : Stepwise Cursor).runAt cur = (.ok cur, cur) := rfl

@[simp] theorem runAt_peek : peek.runAt cur = (.ok cur.rest.head?, cur) := rfl

@[simp] theorem runAt_advance : advance.runAt cur = (.ok (), { cur with rest := cur.rest.tail }) :=
  rfl

end Outcomes

/-- A reading from a cursor on comes to this value, with the cursor there, or to this fault. -/
inductive Follows (m : Stepwise α) (cur : Cursor) : Except ParseError (α × Cursor) → Prop where
  | ok {a : α} {cur' : Cursor} (outcome : m.runAt cur = (.ok a, cur')) :
      Follows m cur (.ok (a, cur'))
  | error {e : ParseError} {cur' : Cursor} (outcome : m.runAt cur = (.error (.ofFault e), cur')) :
      Follows m cur (.error e)

/-- A trial comes to this value, to this fault, or to a mismatch that leaves the cursor alone. -/
inductive Tries (m : Stepwise α) (cur : Cursor) : Attempt (α × Cursor) → Prop where
  | accepted {a : α} {cur' : Cursor} (outcome : m.runAt cur = (.ok a, cur')) :
      Tries m cur (.accepted (a, cur'))
  | mismatch {line : Line} {message : String}
      (outcome : m.runAt cur = (.error (.ofMismatch line message), cur)) : Tries m cur .mismatch
  | failed {e : ParseError} {cur' : Cursor} (outcome : m.runAt cur = (.error (.ofFault e), cur')) :
      Tries m cur (.failed e)

theorem Follows.of_runAt_eq {m m' : Stepwise α} {r : Except ParseError (α × Cursor)}
    (same : m.runAt cur = m'.runAt cur') (h : Follows m' cur' r) : Follows m cur r := by
  cases h with
  | ok outcome => exact .ok (same.trans outcome)
  | error outcome => exact .error (same.trans outcome)

theorem Follows.bind {m : Stepwise α} {f : α → Stepwise β} {r : Except ParseError (α × Cursor)}
    {g : α × Cursor → Except ParseError (β × Cursor)} (first : Follows m cur r)
    (next : ∀ a cur', Follows (f a) cur' (g (a, cur'))) :
    Follows (m >>= f) cur (r >>= g) := by
  cases first with
  | error outcome => exact .error (by rw [runAt_bind, outcome])
  | @ok a cur' outcome =>
    exact .of_runAt_eq (by rw [runAt_bind, outcome]) (next a cur')

/-- A step that only changes the cursor, or looks at it, comes first. -/
theorem Follows.after {m : Stepwise α} {f : α → Stepwise β} {r : Except ParseError (β × Cursor)}
    {a : α} (first : m.runAt cur = (.ok a, cur')) (later : Follows (f a) cur' r) :
    Follows (m >>= f) cur r :=
  .of_runAt_eq (by rw [runAt_bind, first]) later

/-- A failing step comes first. -/
theorem Follows.failing {m : Stepwise α} {f : α → Stepwise β} {e : ParseError}
    (first : m.runAt cur = (.error (.ofFault e), cur')) : Follows (m >>= f) cur (.error e) :=
  .error (by rw [runAt_bind, first])

/-! ### Columns -/

theorem runAt_checkPeer (line : Line) (cur : Cursor) : (checkPeer line).runAt cur =
    if line.indent = cur.top then (.ok (), cur)
    else if cur.top < line.indent then (.error (.ofFault (line.malformed 0 .illegalNesting)), cur)
    else (.error (.ofMismatch line "not a peer entry"), cur) := by
  simp only [checkPeer, runAt_bind, runAt_get]
  split_ifs <;> rfl

theorem runAt_indent (line : Line) (cur : Cursor) : (indent line).runAt cur =
    if cur.top < line.indent then (.ok (), cur.push line.indent)
    else (.error (.ofMismatch line "not an indent"), cur) := by
  simp only [indent, runAt_bind, runAt_get]
  split_ifs <;> rfl

theorem runAt_checkUnindent (line : Line) (cur : Cursor) : (checkUnindent line).runAt cur =
    if line.indent < cur.top ∧ line.indent ≤ cur.enclosing then (.ok (), cur)
    else (.error (.ofMismatch line "not an unindent"), cur) := by
  simp only [checkUnindent, runAt_bind, runAt_get]
  split_ifs <;> rfl

/-- A line goes on with the innermost block, is refused, or leaves the block. -/
theorem runAt_isPeer (line : Line) (cur : Cursor) : (isPeer line).runAt cur =
    if line.indent = cur.top then (.ok true, cur)
    else if cur.top < line.indent then (.error (.ofFault (line.malformed 0 .illegalNesting)), cur)
    else (.ok false, cur) := by
  simp only [isPeer, runAt_tryCatch, runAt_bind, runAt_checkPeer]
  split_ifs <;> rfl

/-! ### Clauses -/

/-- A reader of blocks that hands its cursor on, and its steps. -/
def BlockFollows (block : Line → Stepwise (List Clause)) (block' : BlockReader) : Prop :=
  ∀ header cur, Follows (block header) cur (block' header cur)

theorem oneLine_tries (message : String) (f : Line → Attempt Clause) :
    Tries (oneLine message f line) cur (Alternative.ofLine f line cur) := by
  unfold oneLine Alternative.ofLine
  cases f line with
  | accepted c => exact .accepted rfl
  | mismatch => exact .mismatch rfl
  | failed e => exact .failed rfl

theorem firstMatch_follows {as : List (Line → Stepwise Clause)} {as' : List Alternative}
    (kinds : List.Forall₂ (fun a a' => Tries (a line) cur (a' line cur)) as as') :
    Follows (firstMatch line as) cur (match RuleText.firstMatch line cur as' with
      | .accepted r => .ok r
      | .failed e => .error e
      | .mismatch => .error (Clause.unrecognized line)) := by
  induction kinds with
  | nil => exact .error rfl
  | @cons a a' as as' first _ ih =>
    simp only [RuleText.firstMatch]
    generalize a' line cur = outcome at first ⊢
    cases first with
    | accepted first => exact .ok (runAt_tryCatch_ok first)
    | mismatch first => exact ih.of_runAt_eq (runAt_tryCatch_error first)
    | failed first =>
      exact .error ((runAt_tryCatch_error first).trans (by rw [Failure.isFatal_ofFault]; rfl))

section Blocks

variable {block : Line → Stepwise (List Clause)} {block' : BlockReader}
  (blocks : BlockFollows block block')
include blocks

theorem group_tries : Tries (group block line) cur (Alternative.group block' line cur) := by
  unfold group Alternative.group
  cases Quantifier.ofHeader line with
  | mismatch => exact .mismatch rfl
  | failed e => exact .failed rfl
  | accepted q =>
    have below := blocks line cur
    simp only
    generalize block' line cur = r at below ⊢
    cases below with
    | error outcome => exact .failed (by rw [runAt_bind, outcome])
    | @ok cs cur' outcome =>
      simp only
      cases grouped : q.group (cs.map Clause.toNode) with
      | ok node => exact .accepted (by rw [runAt_bind, outcome]; simp only [grouped, runAt_pure])
      | error cause => exact .failed (by rw [runAt_bind, outcome]; simp only [grouped]; rfl)

theorem clause_follows : Follows (clause block line) cur (RuleText.clause block' line cur) :=
  firstMatch_follows (.cons (oneLine_tries _ _) (.cons (oneLine_tries _ _)
    (.cons (oneLine_tries _ _) (.cons (oneLine_tries _ _) (.cons (group_tries blocks) .nil)))))

theorem clauses_follows (n : Nat) :
    Follows (clauses block n) cur (RuleText.clauses block' n cur) := by
  induction n generalizing cur with
  | zero => exact .ok rfl
  | succ n ih =>
    obtain ⟨lines, columns⟩ := cur
    cases lines with
    | nil => exact .ok rfl
    | cons line rest =>
      have peer := runAt_isPeer line ⟨line :: rest, columns⟩
      refine .after runAt_peek ?_
      simp only [RuleText.clauses]
      split at peer
      · next placed =>
        rw [if_pos placed]
        refine .after peer (.after runAt_advance ?_)
        refine (clause_follows blocks).bind fun c cur₁ => ?_
        refine ih.bind fun cs cur₂ => ?_
        exact .ok rfl
      · next off =>
        rw [if_neg off]
        split at peer
        · next deeper =>
          rw [if_pos deeper]
          exact .failing peer
        · next left =>
          rw [if_neg left]
          exact .after peer (.ok rfl)

end Blocks

theorem runAt_closeBlock (cur : Cursor) : closeBlock.runAt cur =
    match RuleText.closeBlock cur with
    | .ok cur' => (.ok (), cur')
    | .error e => (.error (.ofFault e), cur) := by
  obtain ⟨lines, columns⟩ := cur
  cases lines with
  | nil => rfl
  | cons line rest =>
    simp only [closeBlock, RuleText.closeBlock, runAt_bind, runAt_peek, List.head?_cons,
      runAt_tryCatch, runAt_checkUnindent]
    split_ifs <;> rfl

theorem blockUpTo_follows (n : Nat) : BlockFollows (blockUpTo n) (RuleText.blockUpTo n) := by
  induction n with
  | zero =>
    intro header cur
    exact .error rfl
  | succ n ih =>
    rintro header ⟨lines, columns⟩
    cases lines with
    | nil => exact .error rfl
    | cons first rest =>
      refine .after runAt_peek ?_
      simp only [RuleText.blockUpTo, List.head?_cons]
      have indented := runAt_indent first ⟨first :: rest, columns⟩
      split at indented
      · next deeper =>
        rw [if_pos deeper]
        refine .after (runAt_tryCatch_ok indented) (.after runAt_get ?_)
        refine (clauses_follows ih _).bind fun cs cur₁ => ?_
        have ended := runAt_closeBlock cur₁
        simp only
        generalize RuleText.closeBlock cur₁ = r at ended ⊢
        cases r with
        | ok cur₂ => exact .after ended (.ok rfl)
        | error e => exact .failing ended
      · next stays =>
        rw [if_neg stays]
        exact .failing (runAt_tryCatch_error indented)

theorem block_follows : BlockFollows block RuleText.block := by
  intro header cur
  exact .after runAt_get (blockUpTo_follows _ header cur)

/-! ### Rules -/

theorem rule_follows : Follows (rule line) cur (RuleText.rule line cur) := by
  unfold rule ruleIn RuleText.rule
  cases header line with
  | error e => exact .failing rfl
  | ok host =>
    refine .after rfl ?_
    refine (block_follows line cur).bind fun cs cur₁ => ?_
    simp only
    cases Rule.ofParts (ruleParts host cs) with
    | ok r => exact .ok rfl
    | error cause => exact .error rfl

/-- One round of the rules, the other rounds being these. -/
def rulesRound (later : Stepwise (List Rule)) : Stepwise (List Rule) := do
  match ← peek with
  | none => return []
  | some line =>
    tryCatch (checkPeer line) fun failure => throw failure.intoFatal
    advance
    let r ← rule line
    let rs ← later
    return r :: rs

theorem rulesUpTo_succ (n : Nat) : rulesUpTo (n + 1) = rulesRound (rulesUpTo n) := rfl

/-- Between two rules no block is open, so no line can leave one. -/
theorem runAt_rulesUpTo (n : Nat) (top : cur.top = 0) :
    ((rulesUpTo n).runAt cur).1 = (RuleText.rulesUpTo n cur).mapError Failure.ofFault := by
  induction n generalizing cur with
  | zero => rfl
  | succ n ih =>
    obtain ⟨lines, columns⟩ := cur
    cases lines with
    | nil => rfl
    | cons line rest =>
      have peer := runAt_checkPeer line ⟨line :: rest, columns⟩
      rw [rulesUpTo_succ, rulesRound]
      simp only [RuleText.rulesUpTo, runAt_bind, runAt_peek, List.head?_cons]
      split at peer
      · next placed =>
        rw [if_pos placed]
        simp only [runAt_tryCatch_ok peer, runAt_advance]
        have made := @rule_follows ⟨rest, columns⟩ line
        generalize taken : RuleText.rule line ⟨rest, columns⟩ = r at made ⊢
        cases made with
        | error outcome =>
          simp only [List.tail_cons, outcome]
          rfl
        | @ok r cur₁ outcome =>
          obtain ⟨host, cs, -, below, -⟩ := rule_eq_ok_iff.mp taken
          obtain ⟨⟨inner, -, inside⟩, -⟩ := blockUpTo_sound _ _ _ _ _ below
          have later := ih (inside.top_eq.trans top)
          simp only [List.tail_cons, outcome]
          change _ = Except.mapError Failure.ofFault (RuleText.rulesUpTo n cur₁ >>= _)
          generalize (rulesUpTo n).runAt cur₁ = outcome at later ⊢
          generalize RuleText.rulesUpTo n cur₁ = rules at later ⊢
          obtain ⟨_, cur₂⟩ := outcome
          obtain rfl := later
          cases rules <;> rfl
      · next off =>
        have right : (Cursor.mk (line :: rest) columns).top < line.indent := by omega
        rw [if_pos right] at peer
        rw [if_neg off]
        simp only [runAt_tryCatch_error peer]
        rfl

/-- The steps come to the rules of a text or to its fault. -/
theorem parseRules_eq (text : List Char) :
    parseRules text = (RuleText.parseRules text).mapError Failure.ofFault := by
  unfold parseRules parseRulesIn RuleText.parseRules
  cases Line.ofText text with
  | error e => rfl
  | ok lines => exact runAt_rulesUpTo _ rfl

end Stepwise

end Reveille.RuleText
