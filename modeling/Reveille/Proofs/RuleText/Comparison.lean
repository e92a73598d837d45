import Mathlib.Data.List.Forall2
import Reveille.Proofs.RuleText.Complaint

/-!
# Two readings side by side

Two readings of lines that correspond take the same steps, from one clause up to a whole text:
every comparison with the columns of the open blocks comes out the same in both. What a block
holds is never nothing, so the complaints about groups and rules are about too many clauses.
-/

namespace Reveille.RuleText

open Grammar

variable {Same : Line → Line → Prop} {Col : Nat → Nat → Prop} {l l' : Line} {cur cur' : Cursor}

/-- Two cursors before lines that correspond, with blocks open at columns that correspond. -/
structure Cursor.Agree (Same : Line → Line → Prop) (Col : Nat → Nat → Prop) (cur cur' : Cursor) :
    Prop where
  rest : List.Forall₂ Same cur.rest cur'.rest
  columns : List.Forall₂ Col cur.columns cur'.columns

/-- The same was read, up to cursors that agree. -/
def ReadAlike (Same : Line → Line → Prop) (Col : Nat → Nat → Prop) {α : Type}
    (r r' : α × Cursor) : Prop :=
  r.1 = r'.1 ∧ r.2.Agree Same Col r'.2

def BlockReader.Agree (Same : Line → Line → Prop) (Col : Nat → Nat → Prop)
    (block block' : BlockReader) : Prop :=
  ∀ header header' cur cur', Same header header' → Cursor.Agree Same Col cur cur' →
    RuleText.Agree Same (ReadAlike Same Col) (block header cur) (block' header' cur')

/-! ### Columns -/

theorem tail_agree {columns columns' : List Nat} (h : List.Forall₂ Col columns columns') :
    List.Forall₂ Col columns.tail columns'.tail := by
  cases h with
  | nil => exact .nil
  | cons _ later => exact later

theorem Cursor.Agree.pop (beside : cur.Agree Same Col cur') : cur.pop.Agree Same Col cur'.pop :=
  ⟨beside.rest, tail_agree beside.columns⟩

theorem headD_agree (layout : Layout Same Col) {columns columns' : List Nat}
    (h : List.Forall₂ Col columns columns') : Col (columns.headD 0) (columns'.headD 0) := by
  cases h with
  | nil => exact layout.zero
  | cons first _ => exact first

theorem closeBlock_agree (layout : Layout Same Col) (beside : cur.Agree Same Col cur') :
    Agree Same (Cursor.Agree Same Col) (closeBlock cur) (closeBlock cur') := by
  have top : Col cur.top cur'.top := headD_agree layout beside.columns
  have around : Col cur.enclosing cur'.enclosing := headD_agree layout (tail_agree beside.columns)
  have popped := beside.pop
  obtain ⟨lines, columns⟩ := cur
  obtain ⟨lines', columns'⟩ := cur'
  cases beside.rest with
  | nil => exact .ok popped
  | cons same _ =>
    have left := layout.order (layout.column same) top
    have within := layout.order around (layout.column same)
    simp only [closeBlock, ← Nat.not_lt, left, within]
    split
    · exact .ok popped
    · exact .malformed same (Nat.zero_le _) rfl

/-! ### Clauses -/

theorem group_eq_error_iff {q : Quantifier} {cs : List (Node Condition)} {cause : PartsError} :
    q.group cs = .error cause ↔ q = .not ∧ cs.length ≠ 1 ∧ cause = .notArity cs.length := by
  cases q with
  | all => simp [Quantifier.group]
  | any => simp [Quantifier.group]
  | not => rcases cs with _ | ⟨c, _ | ⟨d, cs⟩⟩ <;> simp [Quantifier.group, Node.negate, eq_comm]

theorem firstMatch_agree {as as' : List Alternative} (kinds : List.Forall₂
    (fun a a' => Attempt.Agree Same (ReadAlike Same Col) (a l cur) (a' l' cur')) as as') :
    Attempt.Agree Same (ReadAlike Same Col) (firstMatch l cur as) (firstMatch l' cur' as') := by
  induction kinds with
  | nil => exact .mismatch
  | @cons a a' _ _ first _ ih =>
    simp only [firstMatch]
    generalize a l cur = r at first ⊢
    generalize a' l' cur' = r' at first ⊢
    cases first with
    | accepted related => exact .accepted related
    | mismatch => exact ih
    | failed same fits => exact .failed same fits

section Blocks

variable {block block' : BlockReader} (sound : block.Sound) (blocks : block.Agree Same Col block')
  (layout : Layout Same Col)
include sound blocks layout

theorem groupAlternative_agree (same : Same l l') (beside : cur.Agree Same Col cur') :
    Attempt.Agree Same (ReadAlike Same Col) (Alternative.group block l cur)
      (Alternative.group block' l' cur') := by
  have headers := ofHeader_agree layout same
  have below := blocks l l' cur cur' same beside
  unfold Alternative.group
  generalize named : Quantifier.ofHeader l = r at headers ⊢
  generalize Quantifier.ofHeader l' = r' at headers ⊢
  cases headers with
  | mismatch => exact .mismatch
  | failed same fits => exact .failed same fits
  | @accepted q _ related =>
    subst related
    generalize taken : block l cur = body at below ⊢
    generalize block' l' cur' = body' at below ⊢
    cases below with
    | error same fits => exact .failed same fits
    | @ok a b related =>
      obtain ⟨cs, rest⟩ := a
      obtain ⟨_, rest'⟩ := b
      obtain ⟨rfl, beside⟩ := related
      cases grouped : q.group (cs.map Clause.toNode) with
      | ok node =>
        simp only [grouped]
        exact .accepted ⟨rfl, beside⟩
      | error cause =>
        simp only [grouped]
        obtain ⟨rfl, arity, rfl⟩ := group_eq_error_iff.mp grouped
        have some := List.length_pos_iff.mpr (sound _ _ _ _ taken).2.1
        rw [List.length_map] at arity ⊢
        exact .failed (c := .parts (.notArity cs.length)) same
          (.arity (ofHeader_eq_accepted_iff.mp named) (by omega))

theorem clause_agree (same : Same l l') (beside : cur.Agree Same Col cur') :
    Agree Same (ReadAlike Same Col) (clause block l cur) (clause block' l' cur') := by
  have oneLine : List.Forall₂ (fun a a' : Alternative =>
      Attempt.Agree Same (ReadAlike Same Col) (a l cur) (a' l' cur'))
      (Clause.oneLine.map .ofLine) (Clause.oneLine.map .ofLine) := by
    rw [List.forall₂_map_left_iff, List.forall₂_map_right_iff, List.forall₂_same]
    intro f kind
    refine (oneLine_agree layout same f kind).map ?_
    rintro c _ rfl
    exact ⟨rfl, beside⟩
  have tried := firstMatch_agree (List.rel_append oneLine
    (.cons (groupAlternative_agree sound blocks layout same beside) .nil))
  unfold clause alternatives
  generalize firstMatch l cur _ = r at tried ⊢
  generalize firstMatch l' cur' _ = r' at tried ⊢
  cases tried with
  | accepted related => exact .ok related
  | mismatch => exact unrecognized_agree layout same
  | failed same fits => exact .error same fits

theorem clauses_agree (n : Nat) (beside : cur.Agree Same Col cur') :
    Agree Same (ReadAlike Same Col) (clauses block n cur) (clauses block' n cur') := by
  induction n generalizing cur cur' with
  | zero => exact .ok ⟨rfl, beside⟩
  | succ n ih =>
    have top : Col cur.top cur'.top := headD_agree layout beside.columns
    obtain ⟨lines, columns⟩ := cur
    obtain ⟨lines', columns'⟩ := cur'
    cases beside.rest with
    | nil => exact .ok ⟨rfl, beside⟩
    | @cons line line' rest rest' same later =>
      have after : Cursor.Agree Same Col ⟨rest, columns⟩ ⟨rest', columns'⟩ :=
        ⟨later, beside.columns⟩
      simp only [clauses, layout.eq_iff (layout.column same) top,
        layout.order top (layout.column same)]
      split
      · refine (clause_agree sound blocks layout same after).bind ?_
        rintro ⟨c, cur₁⟩ ⟨_, cur₁'⟩ - ⟨rfl, beside⟩
        refine (ih beside).bind ?_
        rintro ⟨cs, cur₂⟩ ⟨_, cur₂'⟩ - ⟨rfl, beside⟩
        exact .ok ⟨rfl, beside⟩
      · split
        · exact .malformed same (Nat.zero_le _) rfl
        · exact .ok ⟨rfl, beside⟩

end Blocks

section Texts

variable (layout : Layout Same Col)
include layout

theorem blockUpTo_agree (n : Nat) : (blockUpTo n).Agree Same Col (blockUpTo n) := by
  induction n with
  | zero =>
    intro header header' cur cur' same beside
    exact .malformed same (Nat.zero_le _) rfl
  | succ n ih =>
    intro header header' cur cur' same beside
    have top : Col cur.top cur'.top := headD_agree layout beside.columns
    obtain ⟨lines, columns⟩ := cur
    obtain ⟨lines', columns'⟩ := cur'
    cases beside.rest with
    | nil => exact .malformed same (Nat.zero_le _) rfl
    | @cons first first' rest rest' same later =>
      have length := later.length_eq
      simp only [blockUpTo, layout.order top (layout.column same), List.length_cons, length]
      split
      · have inside : Cursor.Agree Same Col ⟨first :: rest, first.indent :: columns⟩
            ⟨first' :: rest', first'.indent :: columns'⟩ :=
          ⟨.cons same later, .cons (layout.column same) beside.columns⟩
        refine (clauses_agree (blockUpTo_sound n) ih layout _ inside).bind ?_
        rintro ⟨cs, cur₁⟩ ⟨_, cur₁'⟩ - ⟨rfl, beside⟩
        refine (closeBlock_agree layout beside).bind ?_
        intro cur₂ cur₂' _ beside
        exact .ok ⟨rfl, beside⟩
      · exact .malformed same (Nat.zero_le _) rfl

/-! ### Rules -/

theorem block_agree : block.Agree Same Col block := by
  intro header header' cur cur' same beside
  unfold block
  rw [beside.rest.length_eq]
  exact blockUpTo_agree layout _ _ _ _ _ same beside

theorem rule_agree (same : Same l l') (beside : cur.Agree Same Col cur') :
    Agree Same (ReadAlike Same Col) (rule l cur) (rule l' cur') := by
  unfold rule
  refine (header_agree layout same).bind ?_
  rintro host _ named rfl
  refine (block_agree layout l l' cur cur' same beside).bind ?_
  rintro ⟨cs, cur₁⟩ ⟨_, cur₁'⟩ - ⟨rfl, beside⟩
  cases made : Rule.ofParts (ruleParts host cs) with
  | ok r =>
    simp only [made]
    exact .ok ⟨rfl, beside⟩
  | error cause =>
    simp only [made]
    obtain ⟨n, several, rfl⟩ := ofParts_ruleParts_eq_error made
    exact .error (c := .parts (.duplicateHoldOff n)) same
      (.holdOffs (header_eq_ok_iff.mp named) several)

theorem rulesUpTo_agree (n : Nat) (beside : cur.Agree Same Col cur') :
    Agree Same Eq (rulesUpTo n cur) (rulesUpTo n cur') := by
  induction n generalizing cur cur' with
  | zero => exact .ok rfl
  | succ n ih =>
    have top : Col cur.top cur'.top := headD_agree layout beside.columns
    obtain ⟨lines, columns⟩ := cur
    obtain ⟨lines', columns'⟩ := cur'
    cases beside.rest with
    | nil => exact .ok rfl
    | @cons line line' rest rest' same later =>
      have after : Cursor.Agree Same Col ⟨rest, columns⟩ ⟨rest', columns'⟩ :=
        ⟨later, beside.columns⟩
      simp only [rulesUpTo, layout.eq_iff (layout.column same) top]
      split
      · refine (rule_agree layout same after).bind ?_
        rintro ⟨r, cur₁⟩ ⟨_, cur₁'⟩ - ⟨rfl, beside⟩
        refine (ih beside).bind ?_
        rintro rs _ - rfl
        exact .ok rfl
      · exact .malformed same (Nat.zero_le _) rfl

/-- Lines that correspond, one by one, are read alike. -/
theorem rulesOfLines_agree {lines lines' : List Line} (h : List.Forall₂ Same lines lines') :
    Agree Same Eq (rulesOfLines lines) (rulesOfLines lines') := by
  unfold rulesOfLines
  rw [h.length_eq]
  exact rulesUpTo_agree layout _ ⟨h, .cons layout.zero .nil⟩

end Texts

end Reveille.RuleText
