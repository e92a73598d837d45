import Reveille.Proofs.RuleText.Comparison

/-!
# Joined texts

A text that has rules can be followed by another text. The end of its last block, however deep,
is then the first line of the other text instead of the end of all lines, and what comes after it
is read as if it stood alone. Its faults are reported so many lines further down.
-/

namespace Reveille.RuleText

open Grammar Reveille.Text

/-- The line, so many lines further down. -/
def Line.down (n : Nat) (l : Line) : Line :=
  { l with number := l.number + n }

/-- The fault, so many lines further down. -/
def ParseError.down (n : Nat) : ParseError → ParseError
  | .malformed line column cause => .malformed (line + n) column cause
  | .parts line cause => .parts (line + n) cause

/-! ### Lines -/

theorem ofRaw?_add (number n : Nat) (raw : List Char) :
    Line.ofRaw? (number + n) raw =
      ((Line.ofRaw? number raw).map (Option.map (Line.down n))).mapError (ParseError.down n) := by
  unfold Line.ofRaw?
  simp only
  split
  · rfl
  · split
    · rfl
    · rfl

theorem ofRaws_add (number n : Nat) (raws : List (List Char)) :
    Line.ofRaws (number + n) raws =
      ((Line.ofRaws number raws).map (List.map (Line.down n))).mapError (ParseError.down n) := by
  induction raws generalizing number with
  | nil => rfl
  | cons raw raws ih =>
    rw [Line.ofRaws, Line.ofRaws, ofRaw?_add, Nat.add_right_comm, ih]
    cases Line.ofRaw? number raw with
    | error e => rfl
    | ok line? =>
      cases Line.ofRaws (number + 1) raws with
      | error e => rfl
      | ok lines => cases line? <;> rfl

theorem ofRaws_append (number : Nat) (raws raws' : List (List Char)) {lines : List Line}
    (read : Line.ofRaws number raws = .ok lines) :
    Line.ofRaws number (raws ++ raws') =
      (Line.ofRaws (number + raws.length) raws').map (lines ++ ·) := by
  induction raws generalizing number lines with
  | nil =>
    cases read
    rw [List.nil_append, List.length_nil, Nat.add_zero]
    cases Line.ofRaws number raws' <;> rfl
  | cons raw raws ih =>
    obtain ⟨line?, first, read⟩ := bind_eq_ok_iff.mp read
    obtain ⟨rest, later, read⟩ := bind_eq_ok_iff.mp read
    cases read
    rw [List.cons_append, Line.ofRaws, first, ih (number + 1) later, List.length_cons,
      Nat.add_assoc, Nat.add_comm 1]
    cases Line.ofRaws (number + (raws.length + 1)) raws' with
    | error e => rfl
    | ok lines => exact congrArg Except.ok (List.append_assoc _ _ _).symm

/-- The lines of the second text come after those of the first one, further down by the line
breaks of the first and the one between them. -/
theorem ofText_joined {a : List Char} {lines : List Line} (read : Line.ofText a = .ok lines)
    (b : List Char) : Line.ofText (a ++ '\n' :: b) =
      ((Line.ofText b).map fun lines' => lines ++ lines'.map (Line.down (a.count '\n' + 1))).mapError
        (ParseError.down (a.count '\n' + 1)) := by
  have length : (a.splitOn '\n').length = a.count '\n' + 1 := by
    rw [← map_chars_split, List.length_map]
    exact length_splitFrom '\n' 0 a
  unfold Line.ofText at read ⊢
  rw [map_chars_split] at read ⊢
  rw [map_chars_split, List.splitOn_append_cons_self, ofRaws_append 1 _ _ read, length, ofRaws_add]
  cases Line.ofRaws 1 (b.splitOn '\n') <;> rfl

/-! ### Rules -/

theorem Complaint.about_down (c : Complaint) (n : Nat) (l : Line) :
    c.about (l.down n) = (c.about l).down n := by
  cases c <;> rfl

theorem rulesOfLines_down (n : Nat) (lines : List Line) :
    rulesOfLines (lines.map (Line.down n)) = (rulesOfLines lines).mapError (ParseError.down n) := by
  have layout : Layout (fun l l' => l' = l.down n) Eq :=
    ⟨fun same => by rw [same]; rfl, fun same => by rw [same]; rfl, rfl,
      fun first second => by rw [first, second]⟩
  have lowered : List.Forall₂ (fun l l' => l' = l.down n) lines (lines.map (Line.down n)) :=
    List.forall₂_map_right_iff.mpr (List.forall₂_same.mpr fun _ _ => rfl)
  have alike := rulesOfLines_agree layout lowered
  generalize rulesOfLines lines = r at alike ⊢
  generalize rulesOfLines (lines.map (Line.down n)) = r' at alike ⊢
  cases alike with
  | ok same => exact congrArg Except.ok same.symm
  | @error l _ c same =>
    rw [same, c.about_down]
    rfl

theorem rule_rest_length_le {line : Line} {cur cur' : Cursor} {r : Rule}
    (h : rule line cur = .ok (r, cur')) : cur'.rest.length ≤ cur.rest.length := by
  obtain ⟨_, _, _, below, _⟩ := rule_eq_ok_iff.mp h
  obtain ⟨⟨_, _, inside⟩, _⟩ := blockUpTo_sound _ _ _ _ _ below
  exact inside.length_le

/-- As many steps as there are lines are enough. -/
theorem rulesUpTo_eq_of_le {n m : Nat} {cur : Cursor} (enough : cur.rest.length ≤ n)
    (enough' : cur.rest.length ≤ m) : rulesUpTo n cur = rulesUpTo m cur := by
  obtain ⟨lines, columns⟩ := cur
  induction n generalizing m lines columns with
  | zero =>
    obtain rfl := List.length_eq_zero_iff.mp (Nat.le_zero.mp enough)
    cases m <;> rfl
  | succ n ih =>
    cases lines with
    | nil => cases m <;> rfl
    | cons line rest =>
      obtain ⟨m, rfl⟩ : ∃ k, m = k + 1 := ⟨m - 1, by simp at enough'; omega⟩
      simp only [List.length_cons, Nat.add_le_add_iff_right] at enough enough'
      simp only [rulesUpTo]
      split
      · cases made : rule line ⟨rest, columns⟩ with
        | error e => rfl
        | ok r =>
          obtain ⟨r, cur⟩ := r
          have shorter : cur.rest.length ≤ rest.length := rule_rest_length_le made
          have same : rulesUpTo n cur = rulesUpTo m cur :=
            ih cur.rest cur.columns (Nat.le_trans shorter enough) (Nat.le_trans shorter enough')
          show (rulesUpTo n cur >>= fun rs => pure (r :: rs)) = _
          rw [same]
          rfl
      · rfl

theorem rulesOfLines_append {lines lines' : List Line} {rules : List Rule}
    (read : rulesOfLines lines = .ok rules) (start : ∀ l ∈ lines'.head?, l.indent = 0) :
    rulesOfLines (lines ++ lines') = (rulesOfLines lines').map (rules ++ ·) := by
  obtain ⟨trees, derived, rfl⟩ := rules_of_rulesUpTo (Nat.le_refl _) read
  obtain ⟨n, spare⟩ := Nat.exists_eq_add_of_le derived.length_le
  unfold rulesOfLines
  rw [List.length_append, spare, Nat.add_assoc, rulesUpTo_append derived start]
  exact congrArg _ (rulesUpTo_eq_of_le (Nat.le_add_left _ _) (Nat.le_refl _))

theorem head_column_of_rulesOfLines {lines : List Line} {rules : List Rule}
    (read : rulesOfLines lines = .ok rules) : ∀ l ∈ lines.head?, l.indent = 0 := by
  obtain ⟨trees, derived, -⟩ := rules_of_rulesUpTo (Nat.le_refl _) read
  exact derived.head_column

/-- What is read of two texts together, if the first one has rules and the second one starts at
column 0. -/
theorem parseRules_append {a b : List Char} {rules : List Rule} (read : parseRules a = .ok rules)
    (start : ∀ l ∈ (significantLines b).head?, l.indent = 0) :
    parseRules (a ++ '\n' :: b) =
      ((parseRules b).map (rules ++ ·)).mapError (ParseError.down (a.count '\n' + 1)) := by
  obtain ⟨lines, counted, read⟩ := bind_eq_ok_iff.mp read
  unfold parseRules
  rw [ofText_joined counted]
  cases found : Line.ofText b with
  | error e => rfl
  | ok lines' =>
    obtain ⟨-, rfl⟩ := ofText_eq_ok_iff.mp found
    have start' : ∀ l ∈ ((significantLines b).map (Line.down (a.count '\n' + 1))).head?,
        l.indent = 0 := by
      rw [List.head?_map]
      rintro _ mem
      obtain ⟨l, first, rfl⟩ := Option.map_eq_some_iff.mp mem
      exact start l first
    refine (rulesOfLines_append read start').trans ?_
    rw [rulesOfLines_down]
    change _ = ((rulesOfLines (significantLines b)).map (rules ++ ·)).mapError _
    cases rulesOfLines (significantLines b) <;> rfl

/-- A text with rules can be joined to another. If the other one has rules too, so has the whole,
all of them in order. If it starts at column 0 and has a fault, the whole has that fault, further
down, and no rule of it is added to a registry. -/
theorem parseRules_joined (a b : List Char) (rules : List Rule)
    (read : parseRules a = .ok rules) :
    (∀ rules', parseRules b = .ok rules' →
      parseRules (a ++ '\n' :: b) = .ok (rules ++ rules') ∧
      ∀ reg, (loadRules (a ++ '\n' :: b) reg).1 = (loadRules b (loadRules a reg).1).1) ∧
    ∀ e, parseRules b = .error e → (∀ l ∈ (significantLines b).head?, l.indent = 0) →
      parseRules (a ++ '\n' :: b) = .error (e.down (a.count '\n' + 1)) ∧
      ∀ reg, loadRules (a ++ '\n' :: b) reg = (reg, .error (e.down (a.count '\n' + 1))) := by
  refine ⟨fun rules' read' => ?_, fun e fault start => ?_⟩
  · have start : ∀ l ∈ (significantLines b).head?, l.indent = 0 := by
      obtain ⟨lines', counted, read'⟩ := bind_eq_ok_iff.mp read'
      obtain ⟨-, rfl⟩ := ofText_eq_ok_iff.mp counted
      exact head_column_of_rulesOfLines read'
    have whole : parseRules (a ++ '\n' :: b) = .ok (rules ++ rules') := by
      rw [parseRules_append read start, read']
      rfl
    refine ⟨whole, fun reg => ?_⟩
    simp only [loadRules, whole, read, read', Registry.addAll, List.append_assoc]
  · have whole : parseRules (a ++ '\n' :: b) = .error (e.down (a.count '\n' + 1)) := by
      rw [parseRules_append read start, fault]
      rfl
    refine ⟨whole, fun reg => ?_⟩
    simp only [loadRules, whole]

/-- A rule that ends two blocks deep. -/
def mondays : List Char :=
  "wake 00:11:22:33:44:55:\n    any:\n        now Mon # and no other day".toList

def quietly : List Char :=
  "\nwake 00:11:22:33:44:66:\n  inactivity 5 min\n".toList

/-- A rule with a fault on its third line. -/
def lightly : List Char :=
  "wake 00:11:22:33:44:66:\n\n  inactivity 5 lightyears".toList

def onMondays : Rule :=
  Rule.make ⟨none, ⟨0, 17, 34, 51, 68, 85⟩⟩ 0 ⟨[.any [.leaf (.dayOfWeek [.mon])]]⟩

def whenQuiet : Rule :=
  Rule.make ⟨none, ⟨0, 17, 34, 51, 68, 102⟩⟩ 0 ⟨[.leaf (.inactiveFor 300)]⟩

theorem parseRules_joined_mondays :
    (parseRules mondays = .ok [onMondays] ∧ parseRules quietly = .ok [whenQuiet] ∧
      parseRules lightly = .error (.malformed 3 16 (.unit "lightyears")) ∧
      ∀ l ∈ (significantLines lightly).head?, l.indent = 0) ∧
    parseRules (mondays ++ '\n' :: quietly) = .ok [onMondays, whenQuiet] ∧
    (loadRules (mondays ++ '\n' :: quietly) ⟨[whenQuiet]⟩).1 =
      (loadRules quietly (loadRules mondays ⟨[whenQuiet]⟩).1).1 ∧
    loadRules (mondays ++ '\n' :: lightly) ⟨[whenQuiet]⟩ =
      (⟨[whenQuiet]⟩, .error (.malformed 6 16 (.unit "lightyears"))) :=
  have read : parseRules mondays = .ok [onMondays] := by decide +kernel
  have read' : parseRules quietly = .ok [whenQuiet] := by decide +kernel
  have fault : parseRules lightly = .error (.malformed 3 16 (.unit "lightyears")) := by decide +kernel
  have start : ∀ l ∈ (significantLines lightly).head?, l.indent = 0 := by decide
  have good := (parseRules_joined mondays quietly _ read).1 _ read'
  have bad := (parseRules_joined mondays lightly _ read).2 _ fault start
  ⟨⟨read, read', fault, start⟩, good.1, good.2 _, bad.2 _⟩

end Reveille.RuleText
