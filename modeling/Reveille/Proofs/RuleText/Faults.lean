import Reveille.Proofs.RuleText.Comparison
import Reveille.Proofs.RuleText.Stepwise

/-!
# Where faults point

Every failure of a reading points into the text: to the first character that indents a line and
is no space, to a place in what counts of a line, or to the header of a rule or of a group.
-/

namespace Reveille.RuleText

open Grammar Reveille.Net Reveille.Text

/-! ### Indentation -/

/-- What is wrong with a character that is no space in the indentation of a line. -/
def indentation (c : Char) : Malformation :=
  if c = '\t' then .tabIndent else .blankIndent

theorem forbidden?_eq_some {i j : Nat} {cs : List Char} {cause : Malformation}
    (h : Line.forbidden? i cs = some (j, cause)) :
    ∃ k c rest, cs = List.replicate k ' ' ++ c :: rest ∧ c ≠ ' ' ∧ j = i + k ∧
      cause = indentation c := by
  induction cs generalizing i with
  | nil => cases h
  | cons c cs ih =>
    unfold Line.forbidden? at h
    split at h
    · next space =>
      obtain ⟨k, d, rest, rfl, other, rfl, rfl⟩ := ih h
      exact ⟨k + 1, d, rest, by rw [space]; rfl, other, by omega, rfl⟩
    · next other =>
      cases h
      exact ⟨0, c, cs, rfl, other, rfl, rfl⟩

/-- The line counts, and after so many spaces it is indented by this other blank. -/
structure Misindented (raw : List Char) (spaces : Nat) (c : Char) : Prop where
  counts : trim (content raw) ≠ []
  after : List.replicate spaces ' ' ++ [c] <+: content raw
  blank : isBlank c = true
  other : c ≠ ' '

theorem ofRaw?_eq_error {number : Nat} {raw : List Char} {e : ParseError}
    (h : Line.ofRaw? number raw = .error e) :
    ∃ k c, Misindented raw k c ∧ e = .malformed number (k + 1) (indentation c) := by
  unfold Line.ofRaw? at h
  change (if trimStart (trimEnd (content raw)) = [] then _ else _) = _ at h
  rw [trimStart_trimEnd] at h
  split at h
  · cases h
  · next counts =>
    split at h
    · next i cause found =>
      cases h
      change Line.forbidden? 0 ((trimEnd (content raw)).takeWhile isBlank) = _ at found
      rw [takeWhile_trimEnd counts] at found
      obtain ⟨k, c, rest, cut, other, rfl, rfl⟩ := forbidden?_eq_some found
      have inside : List.replicate k ' ' ++ [c] <+: (content raw).takeWhile isBlank :=
        ⟨rest, by rw [cut, List.append_assoc]; rfl⟩
      refine ⟨k, c, ⟨counts, inside.trans (List.takeWhile_prefix _), ?_, other⟩, by rw [Nat.zero_add]⟩
      exact List.mem_takeWhile_imp (inside.subset (by simp))
    · cases h

theorem ofRaws_eq_error {number : Nat} {raws : List (List Char)} {e : ParseError}
    (h : Line.ofRaws number raws = .error e) :
    ∃ before raw after, raws = before ++ raw :: after ∧ (∀ r ∈ before, IndentedBySpaces r) ∧
      Line.ofRaw? (number + before.length) raw = .error e := by
  induction raws generalizing number with
  | nil => cases h
  | cons raw raws ih =>
    rw [Line.ofRaws] at h
    cases first : Line.ofRaw? number raw with
    | error e' =>
      rw [first] at h
      cases h
      exact ⟨[], raw, raws, rfl, by simp, first⟩
    | ok line? =>
      have spaces := (ofRaw?_eq_ok_iff.mp first).1
      rw [first] at h
      cases later : Line.ofRaws (number + 1) raws with
      | ok lines =>
        rw [later] at h
        cases h
      | error e' =>
        rw [later] at h
        cases h
        obtain ⟨before, bad, after, rfl, others, found⟩ := ih later
        refine ⟨raw :: before, bad, after, rfl, List.forall_mem_cons.mpr ⟨spaces, others⟩, ?_⟩
        rw [List.length_cons, ← Nat.add_assoc, Nat.add_right_comm]
        exact found

/-! ### Lines -/

theorem mem_significantFrom {number : Nat} {raws : List (List Char)} {l : Line}
    (mem : l ∈ significantFrom number raws) :
    ∃ (i : Nat) (raw : List Char), raws[i]? = some raw ∧ significant? (number + i) raw = some l := by
  induction raws generalizing number with
  | nil => cases mem
  | cons raw raws ih =>
    rcases List.mem_append.mp mem with here | later
    · exact ⟨0, raw, rfl, Option.mem_toList.mp here⟩
    · obtain ⟨i, raw, found, counts⟩ := ih later
      exact ⟨i + 1, raw, found, by rw [← counts, Nat.add_assoc, Nat.add_comm 1 i]⟩

theorem number_of_significant? {number : Nat} {raw : List Char} {l : Line}
    (counts : significant? number raw = some l) : l.number = number := by
  unfold significant? at counts
  split at counts
  · cases counts
  · cases counts
    rfl

/-- The failures there can be, each pointing into the text. -/
inductive Located (text : List Char) : Failure → Prop where
  /-- The first line that something else than spaces indents, at the first such blank. -/
  | indentation {before after : List (List Char)} {raw : List Char} {spaces : Nat} {c : Char}
      (cut : text.splitOn '\n' = before ++ raw :: after)
      (first : ∀ r ∈ before, IndentedBySpaces r) (bad : Misindented raw spaces c) :
      Located text (.fatal (before.length + 1) (spaces + 1) (indentation c).message)
  /-- A place in what counts of a line, or its end. -/
  | line {i offset : Nat} {raw : List Char} {l : Line} {cause : Malformation}
      (spaces : SpacesOnly text) (place : (text.splitOn '\n')[i]? = some raw)
      (counts : significant? (i + 1) raw = some l) (within : offset ≤ byteLength l.text)
      (inText : cause.isIndentation = false) :
      Located text (.fatal (i + 1) (l.indent + offset + 1) cause.message)
  /-- The header of a rule with several hold-offs. -/
  | holdOffs {i n : Nat} {raw : List Char} {l : Line} {host : Host} (spaces : SpacesOnly text)
      (place : (text.splitOn '\n')[i]? = some raw) (counts : significant? (i + 1) raw = some l)
      (header : IsRuleHeader l.text host) (several : 2 ≤ n) :
      Located text (.configuration (i + 1) (.duplicateHoldOff n))
  /-- The header of a `not:` with several conditions. -/
  | arity {i n : Nat} {raw : List Char} {l : Line} (spaces : SpacesOnly text)
      (place : (text.splitOn '\n')[i]? = some raw) (counts : significant? (i + 1) raw = some l)
      (header : IsGroupHeader l.text .not) (several : 2 ≤ n) :
      Located text (.configuration (i + 1) (.notArity n))

/-- A line side by side with itself. -/
theorem layout_diagonal (lines : List Line) :
    Layout (fun l l' => l = l' ∧ l ∈ lines) Eq where
  text := by
    rintro l _ ⟨rfl, -⟩
    rfl
  column := by
    rintro l _ ⟨rfl, -⟩
    rfl
  zero := rfl
  order := by
    rintro a _ b _ rfl rfl
    exact Iff.rfl

theorem Agree.of_error {Same : Line → Line → Prop} {α β : Type} {Val : α → β → Prop}
    {e : ParseError} {r : Except ParseError β} (h : Agree Same Val (.error e) r) :
    ∃ (l l' : Line) (c : Complaint), Same l l' ∧ c.Fits l.text ∧ e = c.about l := by
  cases h with
  | error same fits => exact ⟨_, _, _, same, fits, rfl⟩

/-- The fault of lines is a complaint about one of them. -/
theorem rulesOfLines_eq_error {lines : List Line} {e : ParseError}
    (h : rulesOfLines lines = .error e) :
    ∃ l ∈ lines, ∃ c : Complaint, c.Fits l.text ∧ e = c.about l := by
  have alike := rulesOfLines_agree (layout_diagonal lines)
    (List.forall₂_same.mpr fun l mem => ⟨rfl, mem⟩)
  rw [h] at alike
  obtain ⟨l, _, c, ⟨-, mem⟩, fits, rfl⟩ := alike.of_error
  exact ⟨l, mem, c, fits, rfl⟩

theorem located_of_malformed {text : List Char} {e : ParseError} (h : Line.ofText text = .error e) :
    Located text (.ofFault e) := by
  rw [Line.ofText, map_chars_split] at h
  obtain ⟨before, raw, after, cut, first, h⟩ := ofRaws_eq_error h
  obtain ⟨k, c, bad, rfl⟩ := ofRaw?_eq_error h
  rw [Nat.add_comm 1 before.length]
  exact .indentation cut first bad

theorem located_of_complaint {text : List Char} (spaces : SpacesOnly text) {l : Line}
    (mem : l ∈ significantLines text) {c : Complaint} (fits : c.Fits l.text) :
    Located text (.ofFault (c.about l)) := by
  obtain ⟨i, raw, place, counts⟩ := mem_significantFrom mem
  rw [Nat.add_comm 1 i] at counts
  have numbered := number_of_significant? counts
  cases fits with
  | malformed within inText =>
    rw [Complaint.about, Line.malformed, Failure.ofFault, numbered]
    exact .line spaces place counts within inText
  | holdOffs header several =>
    rw [Complaint.about, Failure.ofFault, numbered]
    exact .holdOffs spaces place counts header several
  | arity header several =>
    rw [Complaint.about, Failure.ofFault, numbered]
    exact .arity spaces place counts header several

/-- A text has rules, or the reading step by step fails for good at a place in the text. A
mismatch is never what it comes to, and neither is a rule or a group without conditions. -/
theorem parseRules_located (text : List Char) :
    (∃ rules, Stepwise.parseRules text = .ok rules ∧ parseRules text = .ok rules) ∨
    ∃ fault, Stepwise.parseRules text = .error (.ofFault fault) ∧ parseRules text = .error fault ∧
      (Failure.ofFault fault).isFatal = true ∧ Located text (.ofFault fault) := by
  rw [Stepwise.parseRules_eq]
  cases read : parseRules text with
  | ok rules => exact .inl ⟨rules, rfl, rfl⟩
  | error fault =>
    refine .inr ⟨fault, rfl, rfl, Failure.isFatal_ofFault fault, ?_⟩
    unfold parseRules at read
    cases counted : Line.ofText text with
    | error e =>
      rw [counted] at read
      cases read
      exact located_of_malformed counted
    | ok lines =>
      rw [counted] at read
      obtain ⟨spaces, rfl⟩ := ofText_eq_ok_iff.mp counted
      obtain ⟨l, mem, c, fits, rfl⟩ := rulesOfLines_eq_error read
      exact located_of_complaint spaces mem fits

end Reveille.RuleText
