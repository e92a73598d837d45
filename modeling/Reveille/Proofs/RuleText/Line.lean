import Reveille.Proofs.Outcomes
import Reveille.Proofs.Text.Blank
import Reveille.RuleText.Line

/-!
# The significant lines of a text

A line is significant if something is left of it once its comment and the blanks at both ends
are gone. `Line.ofText` reads exactly the significant lines, and fails exactly if one of them is
indented by something else than spaces.
-/

namespace Reveille.RuleText

open Reveille.Text

def content (raw : List Char) : List Char :=
  raw.takeWhile (· ≠ '#')

/-- Number, column and text of a line that is significant. -/
def significant? (number : Nat) (raw : List Char) : Option Line :=
  if trim (content raw) = [] then none
  else some ⟨number, ((content raw).takeWhile isBlank).length, trim (content raw)⟩

def significantFrom (number : Nat) : List (List Char) → List Line
  | [] => []
  | raw :: raws => (significant? number raw).toList ++ significantFrom (number + 1) raws

/-- The significant lines of a text, in order. -/
def significantLines (text : List Char) : List Line :=
  significantFrom 1 (text.splitOn '\n')

/-- Only spaces stand before what counts of the line. -/
def IndentedBySpaces (raw : List Char) : Prop :=
  trim (content raw) ≠ [] → ∀ c ∈ (content raw).takeWhile isBlank, c = ' '

/-- Every significant line is indented by spaces only. -/
def SpacesOnly (text : List Char) : Prop :=
  ∀ raw ∈ text.splitOn '\n', IndentedBySpaces raw

/-! ### Indentation -/

theorem takeWhile_trimEnd {s : List Char} (some : trim s ≠ []) :
    (trimEnd s).takeWhile isBlank = s.takeWhile isBlank := by
  rw [← trimStart_trimEnd] at some
  induction s with
  | nil => rfl
  | cons c cs ih =>
    rw [trimEnd_cons] at some ⊢
    by_cases blank : isBlank c = true
    · by_cases rest : trimEnd cs = []
      · simp [blank, rest, trimStart] at some
      · simp only [blank, rest, and_false, if_false, List.takeWhile_cons, if_true] at some ⊢
        rw [ih (by simpa [trimStart, blank] using some)]
    · simp [blank]

theorem forbidden?_eq_none_iff {i : Nat} {cs : List Char} :
    Line.forbidden? i cs = none ↔ ∀ c ∈ cs, c = ' ' := by
  induction cs generalizing i with
  | nil => simp [Line.forbidden?]
  | cons c cs ih =>
    by_cases space : c = ' '
    · simp [Line.forbidden?, space, ih]
    · simp [Line.forbidden?, space]

/-! ### Reading lines -/

theorem ofRaw?_eq_ok_iff {number : Nat} {raw : List Char} {line? : Option Line} :
    Line.ofRaw? number raw = .ok line? ↔
      IndentedBySpaces raw ∧ line? = significant? number raw := by
  unfold Line.ofRaw? IndentedBySpaces significant? content
  generalize raw.takeWhile (· ≠ '#') = s
  simp only [trimStart_trimEnd]
  by_cases none : trim s = []
  · simp [none, eq_comm]
  · rw [if_neg none, if_neg none, takeWhile_trimEnd none]
    split
    · next found =>
      have bad : ¬ ∀ c ∈ s.takeWhile isBlank, c = ' ' := by
        rw [← forbidden?_eq_none_iff (i := 0), found]
        simp
      simp only [reduceCtorEq, false_iff, not_and]
      exact fun spaces => absurd (spaces none) bad
    · next clean =>
      have spaces := forbidden?_eq_none_iff.mp clean
      constructor
      · intro h
        exact ⟨fun _ => spaces, (Except.ok.inj h).symm⟩
      · rintro ⟨-, rfl⟩
        rfl

theorem ofRaws_eq_ok_iff {number : Nat} {raws : List (List Char)} {lines : List Line} :
    Line.ofRaws number raws = .ok lines ↔
      (∀ raw ∈ raws, IndentedBySpaces raw) ∧ lines = significantFrom number raws := by
  induction raws generalizing number lines with
  | nil => simp [Line.ofRaws, significantFrom, eq_comm]
  | cons raw raws ih =>
    rw [Line.ofRaws, List.forall_mem_cons, significantFrom]
    constructor
    · intro h
      obtain ⟨line?, first, h⟩ := bind_eq_ok_iff.mp h
      obtain ⟨rest, later, h⟩ := bind_eq_ok_iff.mp h
      obtain ⟨spaces, rfl⟩ := ofRaw?_eq_ok_iff.mp first
      obtain ⟨others, rfl⟩ := ih.mp later
      cases h
      exact ⟨⟨spaces, others⟩, rfl⟩
    · rintro ⟨⟨spaces, others⟩, rfl⟩
      rw [ofRaw?_eq_ok_iff.mpr ⟨spaces, rfl⟩, ih.mpr ⟨others, rfl⟩]
      rfl

theorem ofText_eq_ok_iff {text : List Char} {lines : List Line} :
    Line.ofText text = .ok lines ↔ SpacesOnly text ∧ lines = significantLines text := by
  rw [Line.ofText, map_chars_split, ofRaws_eq_ok_iff]
  rfl

end Reveille.RuleText
