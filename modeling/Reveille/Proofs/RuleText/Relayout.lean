import Mathlib.Order.Monotone.Basic
import Reveille.Proofs.RuleText.Comparison

/-!
# Changes of layout

Blank lines, comments, the ends of lines and the width of each step of indentation are free: a
text is read through its significant lines and the order of their columns. Two texts that agree
in these have the same rules, or the same complaint about lines that correspond.
-/

namespace Reveille.RuleText

variable {lines lines' : List Line} {f : Nat → Nat}

/-- One by one the lines have the same text, and the columns of the second ones are those of the
first ones under the function. -/
def Relaid (f : Nat → Nat) (lines lines' : List Line) : Prop :=
  List.Forall₂ (fun l l' => l'.text = l.text ∧ l'.indent = f l.indent) lines lines'

/-- The columns of the lines, and the column at which rules start. -/
def columnsOf (lines : List Line) : Set Nat :=
  {column | column = 0 ∨ ∃ l ∈ lines, l.indent = column}

/-- The lines stand at the same place in the two lists. -/
def Counterparts (lines lines' : List Line) (l l' : Line) : Prop :=
  ∃ i : Nat, lines[i]? = some l ∧ lines'[i]? = some l'

theorem forall₂_counterparts (relaid : Relaid f lines lines') :
    List.Forall₂ (fun l l' => Counterparts lines lines' l l' ∧ l'.text = l.text ∧
      l'.indent = f l.indent) lines lines' := by
  obtain ⟨length, alike⟩ := List.forall₂_iff_get.mp relaid
  refine List.forall₂_iff_get.mpr ⟨length, fun i within within' => ⟨⟨i, ?_, ?_⟩, alike i within _⟩⟩
  · exact List.getElem?_eq_getElem within
  · exact List.getElem?_eq_getElem within'

theorem layout_of_relaid (origin : f 0 = 0) (increasing : StrictMonoOn f (columnsOf lines)) :
    Layout (fun l l' => Counterparts lines lines' l l' ∧ l'.text = l.text ∧ l'.indent = f l.indent)
      (fun column column' => column ∈ columnsOf lines ∧ column' = f column) where
  text same := same.2.1
  column := by
    rintro l l' ⟨⟨i, here, -⟩, -, placed⟩
    exact ⟨.inr ⟨l, List.mem_of_getElem? here, rfl⟩, placed⟩
  zero := ⟨.inl rfl, origin.symm⟩
  order := by
    rintro a _ b _ ⟨first, rfl⟩ ⟨second, rfl⟩
    exact (increasing.lt_iff_lt first second).symm

/-- Two texts whose significant lines differ in their places and, by a function that keeps their
order, in their columns only: they have the same rules, or both fail with the same complaint
about the same of these lines. -/
theorem parseRules_relaid (text text' : List Char) (f : Nat → Nat) (spaces : SpacesOnly text)
    (spaces' : SpacesOnly text') (origin : f 0 = 0)
    (increasing : StrictMonoOn f (columnsOf (significantLines text)))
    (relaid : Relaid f (significantLines text) (significantLines text')) :
    (∃ rules, parseRules text = .ok rules ∧ parseRules text' = .ok rules) ∨
    ∃ (i : Nat) (l l' : Line) (complaint : Complaint),
      (significantLines text)[i]? = some l ∧ (significantLines text')[i]? = some l' ∧
      parseRules text = .error (complaint.about l) ∧
      parseRules text' = .error (complaint.about l') := by
  have alike := rulesOfLines_agree (layout_of_relaid origin increasing)
    (forall₂_counterparts relaid)
  have read : ∀ {t : List Char}, SpacesOnly t → parseRules t = rulesOfLines (significantLines t) :=
    fun spaces => by rw [parseRules, ofText_eq_ok_iff.mpr ⟨spaces, rfl⟩]; rfl
  rw [read spaces, read spaces']
  generalize rulesOfLines (significantLines text) = r at alike ⊢
  generalize rulesOfLines (significantLines text') = r' at alike ⊢
  cases alike with
  | @ok rules _ same => exact .inl ⟨rules, rfl, congrArg _ same.symm⟩
  | @error l l' complaint same _ =>
    obtain ⟨i, here, there⟩ := same.1
    exact .inr ⟨i, l, l', complaint, here, there, rfl, rfl⟩

/-- A rule with a line that belongs to no block. -/
def astray : List Char :=
  "wake 00:11:22:33:44:55:\n    any:\n        now Mon\n      now Tue\n".toList

/-- The same in steps of other widths, with a comment, a blank line and other ends of lines. -/
def astrayAgain : List Char :=
  "# desk\r\nwake 00:11:22:33:44:55: # host\r\n any:\r\n   now Mon  \r\n\r\n  now Tue".toList

theorem parseRules_relaid_astray :
    (SpacesOnly astray ∧ SpacesOnly astrayAgain ∧
      StrictMonoOn (fun c => c / 2 - 1) (columnsOf (significantLines astray)) ∧
      Relaid (fun c => c / 2 - 1) (significantLines astray) (significantLines astrayAgain)) ∧
    ((∃ rules, parseRules astray = .ok rules ∧ parseRules astrayAgain = .ok rules) ∨
    ∃ (i : Nat) (l l' : Line) (complaint : Complaint),
      (significantLines astray)[i]? = some l ∧ (significantLines astrayAgain)[i]? = some l' ∧
      parseRules astray = .error (complaint.about l) ∧
      parseRules astrayAgain = .error (complaint.about l')) := by
  have lines : Line.ofText astray = .ok [⟨1, 0, "wake 00:11:22:33:44:55:".toList⟩,
    ⟨2, 4, "any:".toList⟩, ⟨3, 8, "now Mon".toList⟩, ⟨4, 6, "now Tue".toList⟩] := by decide +kernel
  have lines' : Line.ofText astrayAgain = .ok [⟨2, 0, "wake 00:11:22:33:44:55:".toList⟩,
    ⟨3, 1, "any:".toList⟩, ⟨4, 3, "now Mon".toList⟩, ⟨6, 2, "now Tue".toList⟩] := by decide +kernel
  obtain ⟨spaces, read⟩ := ofText_eq_ok_iff.mp lines
  obtain ⟨spaces', read'⟩ := ofText_eq_ok_iff.mp lines'
  have increasing : StrictMonoOn (fun c => c / 2 - 1) (columnsOf (significantLines astray)) := by
    have among : ∀ c ∈ columnsOf (significantLines astray), c = 0 ∨ c = 4 ∨ c = 8 ∨ c = 6 := by
      rw [← read]
      rintro c (rfl | ⟨l, mem, rfl⟩)
      · exact .inl rfl
      · revert l
        decide
    intro a first b second below
    have := among a first
    have := among b second
    simp only
    omega
  have relaid : Relaid (fun c => c / 2 - 1) (significantLines astray)
      (significantLines astrayAgain) := by
    rw [← read, ← read']
    exact .cons ⟨rfl, rfl⟩ (.cons ⟨rfl, rfl⟩ (.cons ⟨rfl, rfl⟩ (.cons ⟨rfl, rfl⟩ .nil)))
  exact ⟨⟨spaces, spaces', increasing, relaid⟩,
    parseRules_relaid astray astrayAgain _ spaces spaces' rfl increasing relaid⟩

end Reveille.RuleText
