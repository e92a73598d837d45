import Reveille.Calendar.Fields
import Reveille.Proofs.RuleText.Calls
import Reveille.Proofs.Text.Slots

/-!
# Literals of rule texts

A time reads the same from its fields one by one. An interval is read exactly if its amount is a
numeral, its unit is known and the seconds they make fit 64 bits; otherwise its clause fails for
good, and with it the text, at the line of the clause.
-/

namespace Reveille.Calendar

open Reveille.Text

theorem readField?_eq_twoDigits? (s : List Char) : readField? s = TimeOfDay.twoDigits? s := by
  refine Option.ext fun n => ?_
  have field : IsField (n + 1) s n ↔ _ := isField_iff
  rw [readField?_eq_some_iff]
  constructor
  · rintro ⟨a, b, rfl, first, second, value⟩
    exact (field.mp ⟨a, b, rfl, first, second, value, Nat.lt_succ_self n⟩).1
  · intro read
    obtain ⟨a, b, rfl, first, second, value, -⟩ := field.mpr ⟨read, Nat.lt_succ_self n⟩
    exact ⟨a, b, rfl, first, second, value⟩

theorem fill_eq_map_mapM {α : Type} {read : List Char → Option α} {slots : List α}
    {parts : List (List Char)} (room : parts.length ≤ slots.length) :
    fill read slots parts = (parts.mapM read).map (· ++ slots.drop parts.length) := by
  refine Option.ext fun values => ?_
  rw [fill_eq_some_iff room, Option.map_eq_some_iff]
  simp only [mapM_eq_some_iff, eq_comm]

/-- The parts are as many as the fields, and the slots that are left over hold zero. -/
theorem read?_eq_ofLiteral? (s : List Char) : TimeOfDay.read? s = TimeOfDay.ofLiteral? s := by
  unfold TimeOfDay.read? TimeOfDay.ofLiteral?
  rw [funext readField?_eq_twoDigits?]
  cases (split ':' s).map Piece.chars with
  | nil => rfl
  | cons part parts =>
    by_cases few : (part :: parts).length ≤ 3
    · have filled : fill TimeOfDay.twoDigits? [0, 0, 0] (part :: parts) = _ := fill_eq_map_mapM few
      cases fields : (part :: parts).mapM TimeOfDay.twoDigits? with
      | none => simp [filled, fields]
      | some values =>
        have count := (mapM_eq_some_iff.mp fields).length_eq
        rw [count] at few filled
        match values with
        | [] => cases count
        | [h] => simp [filled, fields, count]
        | [h, m] => simp [filled, fields, count]
        | [h, m, s] => simp [filled, fields, count]
        | h :: m :: s :: x :: more =>
          simp only [List.length_cons] at few
          omega
    · have many : ((part :: parts).isEmpty || 3 < (part :: parts).length) = true := by
        rw [Bool.or_eq_true, decide_eq_true_eq]
        exact .inr (Nat.lt_of_not_le few)
      rw [if_pos many]
      cases fields : (part :: parts).mapM TimeOfDay.twoDigits? with
      | none => rfl
      | some values =>
        have count := (mapM_eq_some_iff.mp fields).length_eq
        match values with
        | [] | [_] | [_, _] | [_, _, _] => simp [count] at few
        | h :: m :: s :: x :: more => rfl

end Reveille.Calendar

namespace Reveille.RuleText

open Grammar Reveille.Text

variable {cur : Cursor} {line : Line} {amount unit : List Char} {made : Nat → Clause}

/-! ### Intervals -/

def IsUnit (unit : List Char) (seconds : Nat) : Prop :=
  (unit = "sec".toList ∨ unit = "s".toList) ∧ seconds = 1 ∨
    (unit = "min".toList ∨ unit = "m".toList) ∧ seconds = 60 ∨
    (unit = "hour".toList ∨ unit = "h".toList) ∧ seconds = 3600

theorem isInterval_iff {n : Nat} : IsInterval amount unit n ↔
    ∃ value k, IsNumeral (Nat.pow 2 64 - 1) amount value ∧ IsUnit unit k ∧
      value * k ≤ Nat.pow 2 64 - 1 ∧ n = value * k := by
  have known : ∀ {k}, (∃ name, (name, k) ∈ units ∧ name.toList = unit) ↔ IsUnit unit k := by
    intro k
    simp only [units, IsUnit, List.mem_cons, Prod.mk.injEq, List.not_mem_nil, or_false]
    constructor
    · rintro ⟨name, mem, rfl⟩
      rcases mem with ⟨rfl, rfl⟩ | ⟨rfl, rfl⟩ | ⟨rfl, rfl⟩ | ⟨rfl, rfl⟩ | ⟨rfl, rfl⟩ | ⟨rfl, rfl⟩
      all_goals simp
    · rintro (⟨rfl | rfl, rfl⟩ | ⟨rfl | rfl, rfl⟩ | ⟨rfl | rfl, rfl⟩)
      all_goals exact ⟨_, by simp, rfl⟩
  constructor
  · rintro ⟨value, name, k, numeral, mem, named, rfl, small⟩
    exact ⟨value, k, numeral, known.mp ⟨name, mem, named⟩, small, rfl⟩
  · rintro ⟨value, k, numeral, factor, small, rfl⟩
    obtain ⟨name, mem, named⟩ := known.mpr factor
    exact ⟨value, name, k, numeral, mem, named, rfl, small⟩

theorem interval_eq_error {ps : List Piece} {e : ParseError}
    (h : Clause.interval line ps = .error e) : ∃ offset cause, e = line.malformed offset cause := by
  unfold Clause.interval at h
  split at h
  · split at h
    · cases h
      exact ⟨_, _, rfl⟩
    · split at h
      · cases h
        exact ⟨_, _, rfl⟩
      · split at h
        · cases h
        · cases h
          exact ⟨_, _, rfl⟩
  · cases h
    exact ⟨_, _, rfl⟩

theorem timeOfDay_eq_error {p : Piece} {e : ParseError}
    (h : Clause.timeOfDay line p = .error e) : ∃ offset cause, e = line.malformed offset cause := by
  unfold Clause.timeOfDay at h
  split at h
  · cases h
  · cases h
    exact ⟨_, _, rfl⟩

theorem window_eq_error {ps : List Piece} {e : ParseError}
    (h : Clause.window line ps = .error e) : ∃ offset cause, e = line.malformed offset cause := by
  unfold Clause.window at h
  split at h
  · split at h
    · cases h
      exact ⟨_, _, rfl⟩
    · rcases bind_eq_error_iff.mp h with first | ⟨start, -, h⟩
      · exact timeOfDay_eq_error first
      · rcases bind_eq_error_iff.mp h with last | ⟨stop, -, h⟩
        · exact timeOfDay_eq_error last
        · split at h
          · cases h
          · cases h
            exact ⟨_, _, rfl⟩
  · cases h
    exact ⟨_, _, rfl⟩

/-- Clauses of an amount and a unit, and what is made of the seconds. -/
inductive TakesInterval (amount unit : List Char) : List (List Char) → (Nat → Clause) → Prop where
  | inactivity : TakesInterval amount unit ["inactivity".toList, amount, unit]
      fun n => .node (.leaf (.inactiveFor n))
  | holdOff : TakesInterval amount unit ["hold".toList, "off".toList, amount, unit] .holdOff

theorem angle_notMem_of_takesInterval {n : Nat}
    (takes : TakesInterval amount unit (wordChars line.text) made)
    (interval : IsInterval amount unit n) : '<' ∉ line.text := by
  apply angle_notMem_of_words
  obtain ⟨clean, clean'⟩ := angle_notMem_of_isInterval interval
  generalize wordChars line.text = ws at takes
  cases takes with
  | inactivity => simp [clean, clean']
  | holdOff => simp [clean, clean']

theorem trial_of_takesInterval (takes : TakesInterval amount unit (wordChars line.text) made) :
    ∃ (k : Kind) (ps : List Piece), k ≠ .window ∧ k.Claims line ∧
      ps.map Piece.chars = [amount, unit] ∧
      ∀ cur, (k.trial Stepwise.block line).runAt cur = match Clause.interval line ps with
        | .ok n => (.ok (made n), cur)
        | .error e => (.error (.ofFault e), cur) := by
  generalize words : wordChars line.text = ws at takes
  cases takes with
  | inactivity =>
    obtain ⟨starts, shape⟩ := startsWith_of_words (map_chars_line_words.trans words)
    refine ⟨.inactivity, _, by decide, startsWith_iff_head?.mp starts, shape, fun cur => ?_⟩
    rw [Kind.trial, Stepwise.oneLine, Clause.inactivity, if_pos starts]
    cases Clause.interval line (line.words.drop 1) <;> rfl
  | holdOff =>
    obtain ⟨starts, later⟩ := startsWith_of_words (map_chars_line_words.trans words)
    obtain ⟨off, shape⟩ := startsWith_of_words later
    rw [List.drop_drop] at shape
    refine ⟨.holdOff, _, by decide, startsWith_iff_head?.mp starts, shape, fun cur => ?_⟩
    rw [Kind.trial, Stepwise.oneLine, Clause.holdOffClause, if_pos starts, if_pos off]
    cases Clause.interval line (line.words.drop 2) <;> rfl

/-- A line with the sign of a window that starts as another clause fails as a window. -/
theorem runAt_clause_of_angle {k : Kind} (angle : '<' ∈ line.text) (other : k ≠ .window)
    (claims : k.Claims line) : ∃ offset cause, (Stepwise.clause Stepwise.block line).runAt cur =
      (.error (.ofFault (line.malformed offset cause)), cur) := by
  cases read : Clause.window line ((split '<' line.text).map Piece.trim) with
  | ok c =>
    have accepted : Clause.timeWindow line = .accepted c := by
      rw [Clause.timeWindow, if_pos angle, read]
      rfl
    have starts := Kind.ofStart?_of_window accepted
    rw [Kind.ofStart?_of_claims claims other] at starts
    exact absurd (Option.some.inj starts) other
  | error e =>
    obtain ⟨offset, cause, rfl⟩ := window_eq_error read
    have tried : (Kind.window.trial Stepwise.block line).runAt cur =
        (.error (.ofFault (line.malformed offset cause)), cur) := by
      rw [Kind.trial, Stepwise.oneLine, Clause.timeWindow, if_pos angle, read]
      rfl
    exact ⟨offset, cause, Stepwise.runAt_tryCatch_error tried⟩

/-- Without that sign the line claims to be of its own kind only. -/
theorem runAt_clause_of_takesInterval (absent : '<' ∉ line.text)
    (takes : TakesInterval amount unit (wordChars line.text) made) (cur : Cursor) :
    ∃ ps : List Piece, ps.map Piece.chars = [amount, unit] ∧
      (Stepwise.clause Stepwise.block line).runAt cur = match Clause.interval line ps with
        | .ok n => (.ok (made n), cur)
        | .error e => (.error (.ofFault e), cur) := by
  obtain ⟨k, ps, other, claims, shape, tried⟩ := trial_of_takesInterval takes
  have others : ∀ k' ≠ k, ¬ k'.Claims line := fun k' =>
    Kind.not_claims_of_ofStart? (Kind.ofStart?_of_claims claims other) fun _ => absent
  refine ⟨ps, shape, ?_⟩
  rw [← tried cur]
  exact Stepwise.runAt_clauseIn_of_claims Stepwise.block_final (Kind.mem_all k) claims others

theorem runAt_clause_of_isInterval {n : Nat}
    (takes : TakesInterval amount unit (wordChars line.text) made)
    (interval : IsInterval amount unit n) (cur : Cursor) :
    (Stepwise.clause Stepwise.block line).runAt cur = (.ok (made n), cur) := by
  have absent := angle_notMem_of_takesInterval takes interval
  obtain ⟨ps, shape, outcome⟩ := runAt_clause_of_takesInterval absent takes cur
  rw [outcome, interval_eq_ok_iff.mpr ⟨amount, unit, shape, interval⟩]

theorem runAt_clause_of_not_isInterval
    (takes : TakesInterval amount unit (wordChars line.text) made)
    (none : ∀ n, ¬ IsInterval amount unit n) (cur : Cursor) :
    ∃ offset cause, (Stepwise.clause Stepwise.block line).runAt cur =
      (.error (.ofFault (line.malformed offset cause)), cur) := by
  by_cases angle : '<' ∈ line.text
  · obtain ⟨k, ps, other, claims, -⟩ := trial_of_takesInterval takes
    exact runAt_clause_of_angle angle other claims
  · obtain ⟨ps, shape, outcome⟩ := runAt_clause_of_takesInterval angle takes cur
    cases read : Clause.interval line ps with
    | ok n =>
      obtain ⟨amount', unit', shape', interval⟩ := interval_eq_ok_iff.mp read
      rw [shape] at shape'
      cases shape'
      exact absurd interval (none n)
    | error e =>
      obtain ⟨offset, cause, rfl⟩ := interval_eq_error read
      rw [read] at outcome
      exact ⟨offset, cause, outcome⟩

/-- A time literal is one to three fields of two digits, read field by field or at once. A clause of
an amount and a unit is accepted exactly if the amount is a numeral, the unit is known and the
seconds fit 64 bits, and then it holds these seconds. Otherwise it fails for good, and so does every
text whose reading comes to it, at the line of the clause. -/
theorem literals_exact :
    (∀ s t, (Calendar.TimeOfDay.read? s = some t ↔ Calendar.IsTime s t) ∧
      Calendar.TimeOfDay.ofLiteral? s = Calendar.TimeOfDay.read? s) ∧
    ∀ line amount unit made, TakesInterval amount unit (wordChars line.text) made →
      (∀ cur c cur', (Stepwise.clause Stepwise.block line).runAt cur = (.ok c, cur') ↔
        ∃ value k, IsNumeral (Nat.pow 2 64 - 1) amount value ∧ IsUnit unit k ∧
          value * k ≤ Nat.pow 2 64 - 1 ∧ c = made (value * k) ∧ cur' = cur) ∧
      ∀ cur, (¬ ∃ value k, IsNumeral (Nat.pow 2 64 - 1) amount value ∧ IsUnit unit k ∧
          value * k ≤ Nat.pow 2 64 - 1) →
        ∃ column message,
          (Stepwise.clause Stepwise.block line).runAt cur =
            (.error (.fatal line.number column message), cur) ∧
          ∀ text, Reached text (.clause line) cur →
            Stepwise.parseRules text = .error (.fatal line.number column message) := by
  constructor
  · intro s t
    rw [Calendar.read?_eq_ofLiteral?]
    exact ⟨Calendar.ofLiteral?_eq_some_iff, rfl⟩
  · intro line amount unit made takes
    constructor
    · intro cur c cur'
      constructor
      · intro outcome
        by_cases some : ∃ n, IsInterval amount unit n
        · obtain ⟨n, interval⟩ := some
          obtain ⟨value, k, numeral, factor, small, rfl⟩ := isInterval_iff.mp interval
          rw [runAt_clause_of_isInterval takes interval] at outcome
          cases outcome
          exact ⟨value, k, numeral, factor, small, rfl, rfl⟩
        · obtain ⟨offset, cause, failed⟩ :=
            runAt_clause_of_not_isInterval takes (not_exists.mp some) cur
          rw [failed] at outcome
          cases outcome
      · rintro ⟨value, k, numeral, factor, small, rfl, rfl⟩
        have interval := isInterval_iff.mpr ⟨value, k, numeral, factor, small, rfl⟩
        exact runAt_clause_of_isInterval takes interval _
    · intro cur none
      have never : ∀ n, ¬ IsInterval amount unit n := by
        intro n interval
        obtain ⟨value, k, numeral, factor, small, -⟩ := isInterval_iff.mp interval
        exact none ⟨value, k, numeral, factor, small⟩
      obtain ⟨offset, cause, failed⟩ := runAt_clause_of_not_isInterval takes never cur
      refine ⟨_, _, failed, ?_⟩
      intro text reached
      exact parseRules_of_reached reached (congrArg Prod.fst failed)

/-- One hour more than the seconds of 64 bits hold. -/
def endless : List Char :=
  "wake 00:11:22:33:44:55:\n  hold off 5124095576030432 hour".toList

theorem literals_exact_limit :
    Calendar.TimeOfDay.read? "09:05".toList = some ⟨32700, 0⟩ ∧
    (Stepwise.clause Stepwise.block ⟨2, 2, "inactivity +5124095576030431 h".toList⟩).runAt
      ⟨[], [2, 0]⟩ = (.ok (.node (.leaf (.inactiveFor 18446744073709551600))), ⟨[], [2, 0]⟩) ∧
    ∃ column message, Stepwise.parseRules endless = .error (.fatal 2 column message) := by
  obtain ⟨times, intervals⟩ := literals_exact
  refine ⟨?_, ?_, ?_⟩
  · have nine : Calendar.IsField 24 ['0', '9'] 9 :=
      ⟨'0', '9', rfl, by decide, by decide, by decide, by decide⟩
    have five : Calendar.IsField 60 ['0', '5'] 5 :=
      ⟨'0', '5', rfl, by decide, by decide, by decide, by decide⟩
    exact (times _ _).1.mpr (.minute nine five)
  · have words : wordChars "inactivity +5124095576030431 h".toList =
        ["inactivity".toList, "+5124095576030431".toList, "h".toList] := by decide +kernel
    have takes : TakesInterval "+5124095576030431".toList "h".toList
        (wordChars "inactivity +5124095576030431 h".toList)
        fun n => .node (.leaf (.inactiveFor n)) := words ▸ .inactivity
    have numeral : IsNumeral (Nat.pow 2 64 - 1) "+5124095576030431".toList 5124095576030431 :=
      readNat?_eq_some_iff.mp (by decide +kernel)
    exact ((intervals ⟨2, 2, _⟩ _ _ _ takes).1 _ _ _).mpr
      ⟨5124095576030431, 3600, numeral, .inr (.inr ⟨.inr rfl, rfl⟩), by decide, rfl, rfl⟩
  · have words : wordChars "hold off 5124095576030432 hour".toList =
        ["hold".toList, "off".toList, "5124095576030432".toList, "hour".toList] := by
      decide +kernel
    have takes : TakesInterval "5124095576030432".toList "hour".toList
        (wordChars "hold off 5124095576030432 hour".toList) .holdOff := words ▸ .holdOff
    have tooLong : ¬ ∃ value k, IsNumeral (Nat.pow 2 64 - 1) "5124095576030432".toList value ∧
        IsUnit "hour".toList k ∧ value * k ≤ Nat.pow 2 64 - 1 := by
      rintro ⟨value, k, numeral, factor, small⟩
      have read : readNat? (Nat.pow 2 64 - 1) "5124095576030432".toList =
          some 5124095576030432 := by decide +kernel
      rw [readNat?_eq_some_iff.mpr numeral] at read
      obtain rfl := Option.some.inj read
      rcases factor with ⟨name, -⟩ | ⟨name, -⟩ | ⟨-, rfl⟩
      · exact absurd name (by decide)
      · exact absurd name (by decide)
      · exact absurd small (by decide)
    have counted : Line.ofText endless = .ok [⟨1, 0, "wake 00:11:22:33:44:55:".toList⟩,
        ⟨2, 2, "hold off 5124095576030432 hour".toList⟩] := by decide +kernel
    have named : header ⟨1, 0, "wake 00:11:22:33:44:55:".toList⟩ =
        .ok ⟨none, ⟨0, 17, 34, 51, 68, 85⟩⟩ := by decide +kernel
    have reached : Reached endless (.clause ⟨2, 2, "hold off 5124095576030432 hour".toList⟩)
        ⟨[], [2, 0]⟩ :=
      ((((Reached.start counted).call (.rule rfl)).call (.ofRule named)).call
        (.clauses (by decide))).call (.clause rfl)
    obtain ⟨column, message, -, failed⟩ := (intervals ⟨2, 2, _⟩ _ _ _ takes).2 ⟨[], [2, 0]⟩ tooLong
    exact ⟨column, message, failed endless reached⟩

end Reveille.RuleText
