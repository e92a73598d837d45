import Reveille.Proofs.RuleText.Parsing
import Reveille.Proofs.Text.Offsets

/-!
# Two readings side by side

A reading looks at lines through their texts and through the order of their columns only. So two
readings of lines that correspond in both take the same steps: they come to the same rules, or
to the same complaint about lines that correspond. Compared with itself, a reading tells which
complaints there can be, and about which lines.
-/

namespace Reveille.RuleText

open Grammar Reveille.Net Reveille.Text

/-! ### Complaints -/

/-- The fault lies in the blanks before a line. -/
def Malformation.isIndentation : Malformation → Bool
  | .tabIndent | .blankIndent => true
  | _ => false

/-- What is wrong with a line, wherever it stands: its text, from so many bytes on, or what the
clauses below it make up. -/
inductive Complaint where
  | malformed (offset : Nat) (cause : Malformation)
  | parts (cause : PartsError)

namespace Complaint

/-- The complaint, about a line. -/
def about (line : Line) : Complaint → ParseError
  | .malformed offset cause => line.malformed offset cause
  | .parts cause => .parts line.number cause

/-- The complaints there can be about a line of this text. -/
inductive Fits (text : List Char) : Complaint → Prop where
  | malformed {offset : Nat} {cause : Malformation} (within : offset ≤ byteLength text)
      (inText : cause.isIndentation = false) : Fits text (.malformed offset cause)
  | holdOffs {host : Host} {n : Nat} (header : IsRuleHeader text host) (several : 2 ≤ n) :
      Fits text (.parts (.duplicateHoldOff n))
  | arity {n : Nat} (header : IsGroupHeader text .not) (several : 2 ≤ n) :
      Fits text (.parts (.notArity n))

end Complaint

/-! ### Outcomes that agree -/

/-- Lines that correspond have the same text, and columns that correspond are in the same
order. -/
structure Layout (Same : Line → Line → Prop) (Col : Nat → Nat → Prop) : Prop where
  text : ∀ {l l' : Line}, Same l l' → l'.text = l.text
  column : ∀ {l l' : Line}, Same l l' → Col l.indent l'.indent
  zero : Col 0 0
  order : ∀ {a a' b b' : Nat}, Col a a' → Col b b' → (a < b ↔ a' < b')

theorem Layout.eq_iff {Same : Line → Line → Prop} {Col : Nat → Nat → Prop}
    (layout : Layout Same Col) {a a' b b' : Nat} (first : Col a a') (second : Col b b') :
    a = b ↔ a' = b' := by
  have below := layout.order first second
  have above := layout.order second first
  omega

/-- Two results are related, or there is the same complaint about lines that correspond. -/
inductive Agree (Same : Line → Line → Prop) {α β : Type} (Val : α → β → Prop) :
    Except ParseError α → Except ParseError β → Prop where
  | ok {a : α} {b : β} (related : Val a b) : Agree Same Val (.ok a) (.ok b)
  | error {l l' : Line} {c : Complaint} (same : Same l l') (fits : c.Fits l.text) :
      Agree Same Val (.error (c.about l)) (.error (c.about l'))

/-- Two trials come to related values, to the same complaint, or both to a mismatch. -/
inductive Attempt.Agree (Same : Line → Line → Prop) {α β : Type} (Val : α → β → Prop) :
    Attempt α → Attempt β → Prop where
  | accepted {a : α} {b : β} (related : Val a b) : Agree Same Val (.accepted a) (.accepted b)
  | mismatch : Agree Same Val .mismatch .mismatch
  | failed {l l' : Line} {c : Complaint} (same : Same l l') (fits : c.Fits l.text) :
      Agree Same Val (.failed (c.about l)) (.failed (c.about l'))

variable {Same : Line → Line → Prop} {Col : Nat → Nat → Prop} {l l' : Line}

section Outcomes

variable {α β α' β' : Type} {Val : α → β → Prop} {Val' : α' → β' → Prop}

namespace Agree

theorem bind {r : Except ParseError α} {r' : Except ParseError β}
    {f : α → Except ParseError α'} {f' : β → Except ParseError β'} (first : Agree Same Val r r')
    (next : ∀ a b, r = .ok a → Val a b → Agree Same Val' (f a) (f' b)) :
    Agree Same Val' (r >>= f) (r' >>= f') := by
  cases first with
  | ok related => exact next _ _ rfl related
  | error same fits => exact .error same fits

theorem map {r : Except ParseError α} {r' : Except ParseError β} {f : α → α'} {f' : β → β'}
    (first : Agree Same Val r r') (next : ∀ a b, Val a b → Val' (f a) (f' b)) :
    Agree Same Val' (r.map f) (r'.map f') := by
  cases first with
  | ok related => exact .ok (next _ _ related)
  | error same fits => exact .error same fits

theorem malformed (same : Same l l') {offset : Nat} (within : offset ≤ byteLength l.text)
    {cause : Malformation} (inText : cause.isIndentation = false) :
    Agree Same Val (.error (l.malformed offset cause)) (.error (l'.malformed offset cause)) :=
  .error same (.malformed within inText)

theorem attempt {r : Except ParseError α} {r' : Except ParseError β} (h : Agree Same Val r r') :
    Attempt.Agree Same Val (.ofExcept r) (.ofExcept r') := by
  cases h with
  | ok related => exact .accepted related
  | error same fits => exact .failed same fits

end Agree

theorem Attempt.Agree.map {r : Attempt α} {r' : Attempt β} {f : α → α'} {f' : β → β'}
    (h : Attempt.Agree Same Val r r') (next : ∀ a b, Val a b → Val' (f a) (f' b)) :
    Attempt.Agree Same Val' (r.map f) (r'.map f') := by
  cases h with
  | accepted related => exact .accepted (next _ _ related)
  | mismatch => exact .mismatch
  | failed same fits => exact .failed same fits

end Outcomes

/-! ### Single lines -/

section Lines

variable {ps : List Piece} (same : Same l l') (within : ∀ p ∈ ps, p.offset ≤ byteLength l.text)
include same

theorem timeOfDay_agree {p : Piece} (within : p.offset ≤ byteLength l.text) :
    Agree Same Eq (Clause.timeOfDay l p) (Clause.timeOfDay l' p) := by
  unfold Clause.timeOfDay
  split
  · exact .ok rfl
  · exact .malformed same within rfl

include within

theorem interval_agree : Agree Same Eq (Clause.interval l ps) (Clause.interval l' ps) := by
  unfold Clause.interval
  split
  · next amount unit =>
    cases readNat? maxWord amount.chars with
    | none => exact .malformed same (within amount (by simp)) rfl
    | some n =>
      cases Clause.unitSeconds? unit.chars with
      | none => exact .malformed same (within unit (by simp)) rfl
      | some k =>
        simp only
        split
        · exact .ok rfl
        · exact .malformed same (Nat.zero_le _) rfl
  · exact .malformed same (Nat.zero_le _) rfl

theorem window_agree : Agree Same Eq (Clause.window l ps) (Clause.window l' ps) := by
  unfold Clause.window
  split
  · next first middle last =>
    split
    · exact .malformed same (Nat.zero_le _) rfl
    · refine (timeOfDay_agree same (within first (by simp))).bind ?_
      rintro start _ - rfl
      refine (timeOfDay_agree same (within last (by simp))).bind ?_
      rintro stop _ - rfl
      split
      · exact .ok rfl
      · exact .malformed same (within last (by simp)) rfl
  · exact .malformed same (Nat.zero_le _) rfl

theorem weekdays_agree (days : List Calendar.Weekday) :
    Agree Same Eq (Clause.weekdays l days ps) (Clause.weekdays l' days ps) := by
  induction ps generalizing days with
  | nil => exact .ok rfl
  | cons p ps ih =>
    rw [List.forall_mem_cons] at within
    unfold Clause.weekdays
    split
    · exact ih within.2 _
    · exact .malformed same within.1 rfl

theorem dayList_agree : Agree Same Eq (Clause.dayList l ps) (Clause.dayList l' ps) := by
  unfold Clause.dayList
  split
  · exact .malformed same (Nat.zero_le _) rfl
  · refine (weekdays_agree same within []).map ?_
    rintro days _ rfl
    rfl

theorem headerHost_agree : Agree Same Eq (headerHost l ps) (headerHost l' ps) := by
  unfold headerHost
  cases macAt : ps[1]? with
  | none => exact .malformed same (Nat.zero_le _) rfl
  | some macWord =>
    cases read : Mac.ofText? macWord.chars with
    | none =>
      simp only [read]
      exact .malformed same (within _ (List.mem_of_getElem? macAt)) rfl
    | some mac =>
      simp only [read]
      have address : Agree Same Eq (headerAddress l ps[2]?) (headerAddress l' ps[2]?) := by
        unfold headerAddress
        split
        · exact .ok rfl
        · next p addressAt =>
          split
          · exact .ok rfl
          · exact .malformed same (within p (List.mem_of_getElem? addressAt)) rfl
      refine address.bind ?_
      rintro a _ - rfl
      split
      · exact .ok rfl
      · next p extraAt => exact .malformed same (within p (List.mem_of_getElem? extraAt)) rfl

end Lines

section Readers

variable (layout : Layout Same Col) (same : Same l l')
include layout same

theorem words_eq : l'.words = l.words := by
  rw [Line.words, layout.text same, Line.words]

theorem header_agree : Agree Same Eq (header l) (header l') := by
  unfold header
  rw [words_eq layout same, layout.text same]
  split
  · split
    · next text colon =>
      refine headerHost_agree same fun p mem => Nat.le_trans (words_offset_le p mem) ?_
      rw [dropLast?_eq_some_iff.mp colon, byteLength_append]
      exact Nat.le_add_right _ _
    · exact .malformed same (Nat.zero_le _) rfl
  · refine .malformed same ?_ rfl
    cases found : l.words with
    | nil => exact Nat.zero_le _
    | cons p ps => exact words_offset_le p (by rw [← Line.words, found]; exact List.mem_cons_self)

theorem oneLine_agree : ∀ f ∈ Clause.oneLine, Attempt.Agree Same Eq (f l) (f l') := by
  have later : ∀ n, ∀ p ∈ l.words.drop n, p.offset ≤ byteLength l.text := fun n p mem =>
    words_offset_le p (List.mem_of_mem_drop mem)
  simp only [Clause.oneLine, List.forall_mem_cons, List.not_mem_nil, false_implies, implies_true,
    and_true]
  refine ⟨?_, ?_, ?_, ?_⟩
  · unfold Clause.timeWindow
    rw [layout.text same]
    split
    · exact (window_agree same split_trim_offset_le).attempt
    · exact .mismatch
  · unfold Clause.inactivity
    rw [words_eq layout same]
    split
    · refine ((interval_agree same (later 1)).map ?_).attempt
      rintro n _ rfl
      rfl
    · exact .mismatch
  · unfold Clause.holdOffClause
    rw [words_eq layout same]
    split
    · split
      · refine ((interval_agree same (later 2)).map ?_).attempt
        rintro n _ rfl
        rfl
      · exact .failed same (.malformed (Nat.zero_le _) rfl)
    · exact .mismatch
  · unfold Clause.dayRestriction
    rw [words_eq layout same]
    split
    · simp only [List.drop_drop]
      split
      · refine ((dayList_agree same (later 2)).map ?_).attempt
        rintro n _ rfl
        rfl
      · refine ((dayList_agree same (later 1)).map ?_).attempt
        rintro n _ rfl
        rfl
    · exact .mismatch

theorem ofHeader_agree :
    Attempt.Agree Same Eq (Quantifier.ofHeader l) (Quantifier.ofHeader l') := by
  unfold Quantifier.ofHeader
  rw [layout.text same]
  split
  · split
    · exact .accepted rfl
    · exact .mismatch
  · split
    · exact .failed same (.malformed (Nat.zero_le _) rfl)
    · exact .mismatch

theorem unrecognized_agree {α β : Type} {Val : α → β → Prop} :
    Agree Same Val (.error (Clause.unrecognized l)) (.error (Clause.unrecognized l')) := by
  unfold Clause.unrecognized
  rw [words_eq layout same, layout.text same]
  simp only
  split
  · exact .malformed same (Nat.zero_le _) rfl
  · exact .malformed same (Nat.zero_le _) rfl

end Readers

end Reveille.RuleText
