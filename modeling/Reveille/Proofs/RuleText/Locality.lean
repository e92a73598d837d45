import Reveille.Proofs.RuleText.Faults
import Reveille.Proofs.RuleText.Joining

/-!
# Faults and what follows them

A fault in a line is found before any later line counts. Two readings that have the same lines
before them up to some line of the text go on alike until one of them has gone past that line,
and what is found past it is never a fault within. Only a header without a block is told by what
does not follow it.
-/

namespace Reveille.RuleText

open Reveille.Text

variable {n : Nat} {cur cur' : Cursor} {α β : Type}

/-! ### Readings that stay within the first lines -/

/-- A fault in one of the first `n` lines of a text, other than that the lines have come to an
end. -/
def ParseError.Within (n : Nat) (e : ParseError) : Prop :=
  ∃ line column cause, line ≤ n ∧ cause ≠ .blockMissing ∧ e = .malformed line column cause

/-- None of the first `n` lines is left to read. -/
def Cursor.Past (n : Nat) (cur : Cursor) : Prop :=
  ∀ l ∈ cur.rest, n < l.number

/-- As far as the first `n` lines go, the two have the same left to read. -/
structure Cursor.Beside (n : Nat) (cur cur' : Cursor) : Prop where
  columns : cur'.columns = cur.columns
  rest : ∃ lines later later', cur.rest = lines ++ later ∧ cur'.rest = lines ++ later' ∧
    ∀ l ∈ later, n < l.number

/-- The reading goes past the first `n` lines, without a fault within them. -/
inductive Passes (n : Nat) : Except ParseError (α × Cursor) → Prop where
  | ok {a : α} {cur : Cursor} (past : cur.Past n) : Passes n (.ok (a, cur))
  | error {e : ParseError} (beyond : ¬ e.Within n) : Passes n (.error e)

/-- The first reading passes the first `n` lines, or both come to the same. -/
inductive Locally (n : Nat) :
    Except ParseError (α × Cursor) → Except ParseError (α × Cursor) → Prop where
  | ok {a : α} {cur cur' : Cursor} (beside : cur.Beside n cur') :
      Locally n (.ok (a, cur)) (.ok (a, cur'))
  | error (e : ParseError) : Locally n (.error e) (.error e)
  | passes {r r' : Except ParseError (α × Cursor)} (past : Passes n r) : Locally n r r'

/-- The same for trials. -/
inductive Attempt.Locally (n : Nat) : Attempt (α × Cursor) → Attempt (α × Cursor) → Prop where
  | accepted {a : α} {cur cur' : Cursor} (beside : cur.Beside n cur') :
      Locally n (.accepted (a, cur)) (.accepted (a, cur'))
  | mismatch : Locally n .mismatch .mismatch
  | failed (e : ParseError) : Locally n (.failed e) (.failed e)
  | past {a : α} {cur : Cursor} {r' : Attempt (α × Cursor)} (past : cur.Past n) :
      Locally n (.accepted (a, cur)) r'
  | beyond {e : ParseError} {r' : Attempt (α × Cursor)} (beyond : ¬ e.Within n) :
      Locally n (.failed e) r'

theorem not_within_blockMissing (header : Line) :
    ¬ (header.malformed 0 .blockMissing).Within n := by
  rintro ⟨line, column, cause, -, reached, same⟩
  cases same
  exact reached rfl

theorem not_within_parts (line : Nat) (cause : PartsError) :
    ¬ (ParseError.parts line cause).Within n := by
  rintro ⟨_, _, _, -, -, same⟩
  cases same

theorem Complaint.not_within {l : Line} (beyond : n < l.number) (c : Complaint) :
    ¬ (c.about l).Within n := by
  cases c with
  | parts cause => exact not_within_parts l.number cause
  | malformed offset cause =>
    rintro ⟨line, column, _, within, -, same⟩
    cases same
    exact absurd beyond (Nat.not_lt.mpr within)

/-- Unless the first lines are done with, the same line comes next. -/
theorem Cursor.Beside.past_or_cons (beside : cur.Beside n cur') :
    cur.Past n ∨ ∃ line rest rest' columns, cur = ⟨line :: rest, columns⟩ ∧
      cur' = ⟨line :: rest', columns⟩ ∧ Cursor.Beside n ⟨rest, columns⟩ ⟨rest', columns⟩ := by
  obtain ⟨lines, columns⟩ := cur
  obtain ⟨lines', columns'⟩ := cur'
  obtain ⟨rfl, lines, later, later', rfl, rfl, beyond⟩ := beside
  cases lines with
  | nil => exact .inl beyond
  | cons line lines =>
    exact .inr ⟨line, _, _, _, rfl, rfl, rfl, lines, later, later', rfl, rfl, beyond⟩

theorem Cursor.Beside.push (beside : cur.Beside n cur') (column : Nat) :
    (cur.push column).Beside n (cur'.push column) :=
  ⟨congrArg (column :: ·) beside.columns, beside.rest⟩

theorem Cursor.Beside.pop (beside : cur.Beside n cur') : cur.pop.Beside n cur'.pop :=
  ⟨congrArg List.tail beside.columns, beside.rest⟩

theorem Locally.bind {r r' : Except ParseError (α × Cursor)}
    {f f' : α × Cursor → Except ParseError (β × Cursor)} (first : Locally n r r')
    (next : ∀ a cur cur', r = .ok (a, cur) → r' = .ok (a, cur') → cur.Beside n cur' →
      Locally n (f (a, cur)) (f' (a, cur')))
    (after : ∀ a cur, r = .ok (a, cur) → cur.Past n → Passes n (f (a, cur))) :
    Locally n (r >>= f) (r' >>= f') := by
  cases first with
  | ok beside => exact next _ _ _ rfl rfl beside
  | error e => exact .error e
  | passes past =>
    cases past with
    | ok past => exact .passes (after _ _ rfl past)
    | error beyond => exact .passes (.error beyond)

theorem Passes.bind {r : Except ParseError (α × Cursor)}
    {f : α × Cursor → Except ParseError (β × Cursor)} (first : Passes n r)
    (next : ∀ a cur, cur.Past n → Passes n (f (a, cur))) : Passes n (r >>= f) := by
  cases first with
  | ok past => exact next _ _ past
  | error beyond => exact .error beyond

/-! ### Past the first lines -/

/-- A line past the first `n`, beside itself. -/
def Beyond (n : Nat) (l l' : Line) : Prop :=
  l = l' ∧ n < l.number

theorem layout_beyond (n : Nat) : Layout (Beyond n) Eq where
  text := by
    rintro l _ ⟨rfl, -⟩
    rfl
  column := by
    rintro l _ ⟨rfl, -⟩
    rfl
  zero := rfl
  order := by
    rintro a _ b _ rfl rfl
    exact Iff.rfl

theorem Cursor.Past.agree (past : cur.Past n) : cur.Agree (Beyond n) Eq cur :=
  ⟨List.forall₂_same.mpr fun l mem => ⟨rfl, past l mem⟩, List.forall₂_same.mpr fun _ _ => rfl⟩

theorem Cursor.Agree.past (alike : cur.Agree (Beyond n) Eq cur') : cur.Past n := by
  intro l mem
  obtain ⟨i, within, rfl⟩ := List.mem_iff_getElem.mp mem
  have within' : i < cur'.rest.length := by rw [← alike.rest.length_eq]; exact within
  exact ((List.forall₂_iff_get.mp alike.rest).2 i within within').2

theorem not_within_of_agree {Val : α → β → Prop} {r : Except ParseError α}
    {r' : Except ParseError β} (h : Agree (Beyond n) Val r r') {e : ParseError}
    (fault : r = .error e) : ¬ e.Within n := by
  cases h with
  | ok _ => cases fault
  | error same _ =>
    cases fault
    exact Complaint.not_within same.2 _

/-- What is read of lines past the first `n` is past them, and so are the faults in it. -/
theorem passes_of_agree {r r' : Except ParseError (α × Cursor)}
    (h : Agree (Beyond n) (ReadAlike (Beyond n) Eq) r r') : Passes n r := by
  cases h with
  | ok related => exact .ok related.2.past
  | error same _ => exact .error (Complaint.not_within same.2 _)

theorem clauses_passes (k m : Nat) (past : cur.Past n) :
    Passes n (clauses (blockUpTo k) m cur) :=
  passes_of_agree (clauses_agree (blockUpTo_sound k) (blockUpTo_agree (layout_beyond n) k)
    (layout_beyond n) m past.agree)

theorem closeBlock_passes (cs : List Clause) (past : cur.Past n) :
    Passes n (do return (cs, ← closeBlock cur)) := by
  have alike : Agree (Beyond n) (ReadAlike (Beyond n) Eq) (do return (cs, ← closeBlock cur))
      (do return (cs, ← closeBlock cur)) :=
    (closeBlock_agree (layout_beyond n) past.agree).bind fun _ _ _ alike => .ok ⟨rfl, alike⟩
  exact passes_of_agree alike

/-- A header counts for its block only where no lines are left. -/
theorem blockUpTo_passes (k : Nat) (header : Line) (past : cur.Past n) :
    Passes n (blockUpTo k header cur) := by
  obtain ⟨lines, columns⟩ := cur
  cases lines with
  | nil => cases k <;> exact .error (not_within_blockMissing header)
  | cons first rest =>
    cases k with
    | zero => exact .error (not_within_blockMissing header)
    | succ k =>
      have inside : Beyond n first first := ⟨rfl, past first List.mem_cons_self⟩
      exact passes_of_agree (blockUpTo_agree (layout_beyond n) (k + 1) first first _ _ inside
        past.agree)

theorem rulesUpTo_not_within {k : Nat} {e : ParseError} (past : cur.Past n)
    (fault : rulesUpTo k cur = .error e) : ¬ e.Within n :=
  not_within_of_agree (rulesUpTo_agree (layout_beyond n) k past.agree) fault

/-! ### At a line

What a reader does at the next line is told by the columns of the open blocks. -/

section Equations

variable (line : Line) (rest : List Line) (columns : List Nat)

theorem clauses_cons_eq (block : BlockReader) (m : Nat) :
    clauses block (m + 1) ⟨line :: rest, columns⟩ =
      if line.indent = columns.headD 0 then do
        let (c, cur) ← clause block line ⟨rest, columns⟩
        let (cs, cur) ← clauses block m cur
        return (c :: cs, cur)
      else if columns.headD 0 < line.indent then .error (line.malformed 0 .illegalNesting)
      else .ok ([], ⟨line :: rest, columns⟩) := rfl

theorem closeBlock_cons_eq : closeBlock ⟨line :: rest, columns⟩ =
    if line.indent < columns.headD 0 ∧ line.indent ≤ columns.tail.headD 0 then
      .ok ⟨line :: rest, columns.tail⟩
    else .error (line.malformed 0 .illegalNesting) := rfl

theorem blockUpTo_cons_eq (k : Nat) (header : Line) :
    blockUpTo (k + 1) header ⟨line :: rest, columns⟩ =
      if columns.headD 0 < line.indent then do
        let (cs, cur) ← clauses (blockUpTo k) (line :: rest).length
          ⟨line :: rest, line.indent :: columns⟩
        return (cs, ← closeBlock cur)
      else .error (line.malformed 0 .blockExpected) := rfl

theorem rulesUpTo_cons_eq (k : Nat) : rulesUpTo (k + 1) ⟨line :: rest, columns⟩ =
    if line.indent = columns.headD 0 then do
      let (r, cur) ← rule line ⟨rest, columns⟩
      let rs ← rulesUpTo k cur
      return r :: rs
    else .error (line.malformed 0 .illegalNesting) := rfl

end Equations

/-! ### Clauses and blocks -/

/-- The readers go on alike from cursors with at most so many lines left. -/
def BlockReader.Locally (n k k' : Nat) (block block' : BlockReader) : Prop :=
  ∀ header cur cur', cur.Beside n cur' → cur.rest.length ≤ k → cur'.rest.length ≤ k' →
    RuleText.Locally n (block header cur) (block' header cur')

section Blocks

variable {k k' : Nat} {block block' : BlockReader} (blocks : block.Locally n k k' block')
  {line : Line} (beside : cur.Beside n cur') (few : cur.rest.length ≤ k)
  (few' : cur'.rest.length ≤ k')
include blocks beside few few'

theorem groupAlternative_locally : Attempt.Locally n (Alternative.group block line cur)
    (Alternative.group block' line cur') := by
  have below := blocks line cur cur' beside few few'
  unfold Alternative.group
  cases Quantifier.ofHeader line with
  | mismatch => exact .mismatch
  | failed e => exact .failed e
  | accepted q =>
    simp only
    generalize block line cur = r at below ⊢
    generalize block' line cur' = r' at below ⊢
    cases below with
    | error e => exact .failed e
    | @ok cs cur₁ cur₁' beside =>
      simp only
      cases q.group (cs.map Clause.toNode) with
      | ok node => exact .accepted beside
      | error cause => exact .failed _
    | passes past =>
      cases past with
      | error beyond => exact .beyond beyond
      | @ok cs cur₁ past =>
        simp only
        cases q.group (cs.map Clause.toNode) with
        | ok node => exact .past past
        | error cause => exact .beyond (not_within_parts line.number cause)

theorem clause_locally : Locally n (clause block line cur) (clause block' line cur') := by
  have group : Attempt.Locally n (Alternative.group block line cur)
      (Alternative.group block' line cur') := groupAlternative_locally blocks beside few few'
  -- The kinds that take one line do not look at the lines that are left.
  have tried : ∀ fs : List (Line → Attempt Clause), Attempt.Locally n
      (firstMatch line cur (fs.map .ofLine ++ [Alternative.group block]))
      (firstMatch line cur' (fs.map .ofLine ++ [Alternative.group block'])) := by
    intro fs
    induction fs with
    | nil =>
      simp only [List.map_nil, List.nil_append, firstMatch]
      generalize Alternative.group block line cur = r at group ⊢
      generalize Alternative.group block' line cur' = r' at group ⊢
      cases group with
      | accepted beside => exact .accepted beside
      | mismatch => exact .mismatch
      | failed e => exact .failed e
      | past past => exact .past past
      | beyond beyond => exact .beyond beyond
    | cons f fs ih =>
      simp only [List.map_cons, List.cons_append, firstMatch, Alternative.ofLine]
      cases f line with
      | accepted c => exact .accepted beside
      | mismatch => exact ih
      | failed e => exact .failed e
  have outcome := tried Clause.oneLine
  unfold clause alternatives
  generalize firstMatch line cur _ = r at outcome ⊢
  generalize firstMatch line cur' _ = r' at outcome ⊢
  cases outcome with
  | accepted beside => exact .ok beside
  | mismatch => exact .error _
  | failed e => exact .error e
  | past past => exact .passes (.ok past)
  | beyond beyond => exact .passes (.error beyond)

end Blocks

theorem clause_rest_length_le {block : BlockReader} (sound : block.Sound) {line : Line} {c : Clause}
    (read : clause block line cur = .ok (c, cur')) : cur'.rest.length ≤ cur.rest.length := by
  rcases clause_eq_ok_iff.mp read with ⟨-, rfl⟩ | ⟨q, cs, -, below, -, -⟩
  · exact Nat.le_refl _
  · obtain ⟨⟨_, _, inside⟩, -⟩ := sound _ _ _ _ below
    exact inside.length_le

theorem clauses_locally {k k' m m' : Nat}
    (blocks : (blockUpTo k).Locally n k k' (blockUpTo k')) (beside : cur.Beside n cur')
    (few : cur.rest.length ≤ k + 1) (few' : cur'.rest.length ≤ k' + 1)
    (enough : cur.rest.length ≤ m) (enough' : cur'.rest.length ≤ m') :
    Locally n (clauses (blockUpTo k) m cur) (clauses (blockUpTo k') m' cur') := by
  induction m generalizing m' cur cur' with
  | zero =>
    have none : cur.rest = [] := List.length_eq_zero_iff.mp (Nat.le_zero.mp enough)
    exact .passes (.ok fun l mem => by rw [none] at mem; cases mem)
  | succ m ih =>
    rcases beside.past_or_cons with past | ⟨line, rest, rest', columns, rfl, rfl, later⟩
    · exact .passes (clauses_passes k (m + 1) past)
    · simp only [List.length_cons] at few few' enough enough'
      obtain ⟨m', rfl⟩ : ∃ i, m' = i + 1 := ⟨m' - 1, by omega⟩
      have few : rest.length ≤ k := by omega
      have few' : rest'.length ≤ k' := by omega
      rw [clauses_cons_eq, clauses_cons_eq]
      by_cases placed : line.indent = columns.headD 0
      · rw [if_pos placed, if_pos placed]
        refine (clause_locally blocks later few few').bind ?_ ?_
        · intro c cur₁ cur₁' read read' beside
          have shorter : cur₁.rest.length ≤ rest.length :=
            clause_rest_length_le (blockUpTo_sound k) read
          have shorter' : cur₁'.rest.length ≤ rest'.length :=
            clause_rest_length_le (blockUpTo_sound k') read'
          refine (ih beside (by omega) (by omega) (by omega) (by omega)).bind ?_ ?_
          · intro cs cur₂ cur₂' _ _ beside
            exact .ok beside
          · intro cs cur₂ _ past
            exact .ok past
        · intro c cur₁ _ past
          exact (clauses_passes k m past).bind fun cs cur₂ past => .ok past
      · rw [if_neg placed, if_neg placed]
        by_cases deeper : columns.headD 0 < line.indent
        · rw [if_pos deeper, if_pos deeper]
          exact .error _
        · rw [if_neg deeper, if_neg deeper]
          exact .ok beside

theorem closeBlock_locally (cs : List Clause) (beside : cur.Beside n cur') :
    Locally n (do return (cs, ← closeBlock cur)) (do return (cs, ← closeBlock cur')) := by
  rcases beside.past_or_cons with past | ⟨line, rest, rest', columns, rfl, rfl, -⟩
  · exact .passes (closeBlock_passes cs past)
  · rw [closeBlock_cons_eq, closeBlock_cons_eq]
    by_cases left : line.indent < columns.headD 0 ∧ line.indent ≤ columns.tail.headD 0
    · rw [if_pos left, if_pos left]
      exact .ok beside.pop
    · rw [if_neg left, if_neg left]
      exact .error _

theorem blockUpTo_locally (k k' : Nat) : (blockUpTo k).Locally n k k' (blockUpTo k') := by
  induction k generalizing k' with
  | zero =>
    intro header cur cur' beside few few'
    exact .passes (.error (not_within_blockMissing header))
  | succ k ih =>
    intro header cur cur' beside few few'
    rcases beside.past_or_cons with past | ⟨first, rest, rest', columns, rfl, rfl, -⟩
    · exact .passes (blockUpTo_passes (k + 1) header past)
    · obtain ⟨k', rfl⟩ : ∃ i, k' = i + 1 := ⟨k' - 1, by simp at few'; omega⟩
      rw [blockUpTo_cons_eq, blockUpTo_cons_eq]
      by_cases deeper : columns.headD 0 < first.indent
      · rw [if_pos deeper, if_pos deeper]
        have inside := beside.push first.indent
        refine (clauses_locally (ih k') inside few few' (Nat.le_refl _) (Nat.le_refl _)).bind ?_ ?_
        · intro cs cur₁ cur₁' _ _ beside
          exact closeBlock_locally cs beside
        · intro cs cur₁ _ past
          exact closeBlock_passes cs past
      · rw [if_neg deeper, if_neg deeper]
        exact .error _

/-! ### Rules -/

theorem rule_locally (line : Line) (beside : cur.Beside n cur') :
    Locally n (rule line cur) (rule line cur') := by
  unfold rule
  cases header line with
  | error e => exact .error e
  | ok host =>
    have below : Locally n (block line cur) (block line cur') :=
      blockUpTo_locally _ _ line cur cur' beside (Nat.le_refl _) (Nat.le_refl _)
    refine below.bind ?_ ?_
    · intro cs cur₁ cur₁' _ _ beside
      simp only
      cases Rule.ofParts (ruleParts host cs) with
      | ok r => exact .ok beside
      | error cause => exact .error _
    · intro cs cur₁ _ past
      simp only
      cases Rule.ofParts (ruleParts host cs) with
      | ok r => exact .ok past
      | error cause => exact .error (not_within_parts line.number cause)

theorem cons_eq_error_iff {k : Nat} {r : Rule} {e : ParseError} :
    (do
      let (r, cur) ← (.ok (r, cur) : Except ParseError (Rule × Cursor))
      let rs ← rulesUpTo k cur
      return r :: rs) = .error e ↔ rulesUpTo k cur = .error e := by
  change (rulesUpTo k cur >>= fun rs => pure (r :: rs)) = _ ↔ _
  constructor
  · intro h
    rcases bind_eq_error_iff.mp h with failed | ⟨_, _, done⟩
    · exact failed
    · cases done
  · exact fun failed => bind_eq_error_iff.mpr (.inl failed)

theorem rulesUpTo_local {k k' : Nat} {e : ParseError} (beside : cur.Beside n cur')
    (enough : cur.rest.length ≤ k) (enough' : cur'.rest.length ≤ k')
    (fault : rulesUpTo k cur = .error e) (within : e.Within n) :
    rulesUpTo k' cur' = .error e := by
  induction k generalizing k' cur cur' with
  | zero => cases fault
  | succ k ih =>
    rcases beside.past_or_cons with past | ⟨line, rest, rest', columns, rfl, rfl, later⟩
    · exact absurd within (rulesUpTo_not_within past fault)
    · simp only [List.length_cons] at enough enough'
      obtain ⟨k', rfl⟩ : ∃ i, k' = i + 1 := ⟨k' - 1, by omega⟩
      rw [rulesUpTo_cons_eq] at fault ⊢
      by_cases placed : line.indent = columns.headD 0
      · rw [if_pos placed] at fault ⊢
        have made := rule_locally line later
        generalize taken : rule line ⟨rest, columns⟩ = r at made fault
        generalize taken' : rule line ⟨rest', columns⟩ = r' at made ⊢
        cases made with
        | error e => exact fault
        | @ok r cur₁ cur₁' beside =>
          have shorter : cur₁.rest.length ≤ rest.length := rule_rest_length_le taken
          have shorter' : cur₁'.rest.length ≤ rest'.length := rule_rest_length_le taken'
          have failed : rulesUpTo k cur₁ = .error e := cons_eq_error_iff.mp fault
          have failed' : rulesUpTo k' cur₁' = .error e := ih beside (by omega) (by omega) failed
          exact cons_eq_error_iff.mpr failed'
        | passes past =>
          cases past with
          | error beyond =>
            cases fault
            exact absurd within beyond
          | @ok r cur₁ past =>
            have failed : rulesUpTo k cur₁ = .error e := cons_eq_error_iff.mp fault
            exact absurd within (rulesUpTo_not_within past failed)
      · rw [if_neg placed] at fault ⊢
        exact fault

/-! ### Texts -/

theorem trimEnd_content_trimEnd (raw : List Char) :
    trimEnd (content (trimEnd raw)) = trimEnd (content raw) := by
  unfold content
  induction raw with
  | nil => rfl
  | cons c cs ih =>
    rw [trimEnd_cons]
    by_cases mark : c = '#'
    · subst mark
      have solid : ¬ (isBlank '#' = true ∧ trimEnd cs = []) := fun h => by cases h.1
      rw [if_neg solid]
      rfl
    · have kept : ∀ s, (c :: s).takeWhile (· ≠ '#') = c :: s.takeWhile (· ≠ '#') := by
        intro s
        simp [mark]
      rw [kept, trimEnd_cons, ← ih]
      split
      · next idle =>
        rw [idle.2]
        simp [idle.1, trimEnd]
      · rw [kept, trimEnd_cons]

/-- Blanks at the end of a line do not count, so neither does the way in which it ends. -/
theorem significant?_trimEnd (number : Nat) (raw : List Char) :
    significant? number (trimEnd raw) = significant? number raw := by
  have same := trimEnd_content_trimEnd raw
  have text : trim (content (trimEnd raw)) = trim (content raw) := by
    rw [← trimStart_trimEnd, same, trimStart_trimEnd]
  unfold significant?
  rw [text]
  split
  · rfl
  · next counts =>
    rw [← takeWhile_trimEnd counts, ← same, takeWhile_trimEnd (by rw [text]; exact counts)]

theorem significantFrom_map_trimEnd (number : Nat) (raws : List (List Char)) :
    significantFrom number (raws.map trimEnd) = significantFrom number raws := by
  induction raws generalizing number with
  | nil => rfl
  | cons raw raws ih =>
    rw [List.map_cons, significantFrom, significantFrom, significant?_trimEnd, ih]

theorem significantFrom_append (number : Nat) (raws raws' : List (List Char)) :
    significantFrom number (raws ++ raws') =
      significantFrom number raws ++ significantFrom (number + raws.length) raws' := by
  induction raws generalizing number with
  | nil => rfl
  | cons raw raws ih =>
    rw [List.cons_append, significantFrom, significantFrom, ih, List.append_assoc, List.length_cons,
      Nat.add_assoc, Nat.add_comm 1]

/-- The significant lines among the first `n` lines, and those after them. -/
theorem significantLines_cut (n : Nat) (text : List Char) :
    ∃ later, significantLines text =
        significantFrom 1 (((text.splitOn '\n').take n).map trimEnd) ++ later ∧
      ∀ l ∈ later, n < l.number := by
  refine ⟨significantFrom (1 + ((text.splitOn '\n').take n).length) ((text.splitOn '\n').drop n),
    ?_, fun l mem => ?_⟩
  · rw [significantFrom_map_trimEnd, ← significantFrom_append, List.take_append_drop]
    rfl
  · obtain ⟨i, raw, place, counts⟩ := mem_significantFrom mem
    have numbered := number_of_significant? counts
    have long : n + i < (text.splitOn '\n').length := by
      rw [List.getElem?_drop] at place
      exact (List.getElem?_eq_some_iff.mp place).1
    rw [List.length_take] at numbered
    omega

theorem parseRules_of_spacesOnly {text : List Char} (spaces : SpacesOnly text) :
    parseRules text = rulesOfLines (significantLines text) := by
  rw [parseRules, ofText_eq_ok_iff.mpr ⟨spaces, rfl⟩]
  rfl

/-- A fault in a line is the fault of every text with the same lines up to that one, blanks at
their ends left aside, as long as only spaces indent its lines. -/
theorem parseRules_fault_local (text text' : List Char) (line column : Nat) (cause : Malformation)
    (spaces : SpacesOnly text) (spaces' : SpacesOnly text')
    (fault : parseRules text = .error (.malformed line column cause))
    (reached : cause ≠ .blockMissing)
    (same : ((text.splitOn '\n').take line).map trimEnd =
      ((text'.splitOn '\n').take line).map trimEnd) :
    parseRules text' = .error (.malformed line column cause) := by
  obtain ⟨later, cut, beyond⟩ := significantLines_cut line text
  obtain ⟨later', cut', -⟩ := significantLines_cut line text'
  have beside : Cursor.Beside line ⟨significantLines text, [0]⟩ ⟨significantLines text', [0]⟩ :=
    ⟨rfl, _, later, later', cut, by rw [same]; exact cut', beyond⟩
  rw [parseRules_of_spacesOnly spaces] at fault
  rw [parseRules_of_spacesOnly spaces']
  exact rulesUpTo_local beside (Nat.le_refl _) (Nat.le_refl _) fault
    ⟨line, column, cause, Nat.le_refl _, reached, rfl⟩

/-- A line at a column of no block, in the middle of a rule. -/
def stray : List Char :=
  "wake 00:11:22:33:44:55:\n    any:\n        now Mon\n      hold off 1 s\n    now Tue\n".toList

/-- The same up to that line, but for the ends of the lines, and then a line that is no clause. -/
def strayAgain : List Char :=
  "wake 00:11:22:33:44:55:\r\n    any:  \r\n        now Mon\r\n      hold off 1 s\r\nyesterday".toList

theorem parseRules_fault_local_stray :
    (SpacesOnly stray ∧ SpacesOnly strayAgain ∧
      parseRules stray = .error (.malformed 4 7 .illegalNesting) ∧
      Malformation.illegalNesting ≠ .blockMissing ∧
      ((stray.splitOn '\n').take 4).map trimEnd = ((strayAgain.splitOn '\n').take 4).map trimEnd) ∧
    parseRules strayAgain = .error (.malformed 4 7 .illegalNesting) := by
  have lines : Line.ofText stray = .ok [⟨1, 0, "wake 00:11:22:33:44:55:".toList⟩,
    ⟨2, 4, "any:".toList⟩, ⟨3, 8, "now Mon".toList⟩, ⟨4, 6, "hold off 1 s".toList⟩,
    ⟨5, 4, "now Tue".toList⟩] := by decide +kernel
  have lines' : Line.ofText strayAgain = .ok [⟨1, 0, "wake 00:11:22:33:44:55:".toList⟩,
    ⟨2, 4, "any:".toList⟩, ⟨3, 8, "now Mon".toList⟩, ⟨4, 6, "hold off 1 s".toList⟩,
    ⟨5, 0, "yesterday".toList⟩] := by decide +kernel
  have spaces := (ofText_eq_ok_iff.mp lines).1
  have spaces' := (ofText_eq_ok_iff.mp lines').1
  have fault : parseRules stray = .error (.malformed 4 7 .illegalNesting) := by decide +kernel
  have reached : Malformation.illegalNesting ≠ .blockMissing := by decide
  have same : ((stray.splitOn '\n').take 4).map trimEnd =
      ((strayAgain.splitOn '\n').take 4).map trimEnd := by decide +kernel
  exact ⟨⟨spaces, spaces', fault, reached, same⟩,
    parseRules_fault_local stray strayAgain 4 7 _ spaces spaces' fault reached same⟩

end Reveille.RuleText
