import Reveille.Proofs.RuleText.Alternatives
import Reveille.Proofs.RuleText.Stepwise

/-!
# Trying kinds of clauses

What a line claims to be is decided by its first word and by the sign `<`. A trial of a kind that
the line does not claim mismatches where the cursor is, and a trial of a kind that it claims never
mismatches. A line that one kind accepts claims no other, which is why the order of the trials does
not matter to the texts that have rules.
-/

namespace Reveille.Text

theorem head?_wordChars (s : List Char) :
    (wordChars s).head?.bind List.head? = (trimStart s).head? := by
  induction s with
  | nil => rfl
  | cons c cs ih =>
    by_cases blank : isBlank c = true
    · rw [trimStart, List.dropWhile_cons_of_pos blank]
      simpa [wordChars, List.splitOnP_cons_eq_if_modifyHead, blank, trimStart] using ih
    · rw [trimStart, List.dropWhile_cons_of_neg blank]
      cases parts : cs.splitOnP isBlank with
      | nil => simp at parts
      | cons p ps => simp [wordChars, List.splitOnP_cons_eq_if_modifyHead, blank, parts]

/-- What is left of a text without its blanks starts where the text starts to count. -/
theorem head?_trimStart_append {s rest : List Char} {c : Char} {cs : List Char}
    (left : trim s = c :: cs) : (trimStart (s ++ rest)).head? = some c := by
  induction s with
  | nil => cases left
  | cons d ds ih =>
    by_cases blank : isBlank d = true
    · rw [trim, trimStart, List.dropWhile_cons_of_pos blank] at left
      rw [List.cons_append, trimStart, List.dropWhile_cons_of_pos blank]
      exact ih left
    · rw [trim, trimStart, List.dropWhile_cons_of_neg blank, trimEnd_cons,
        if_neg fun both => blank both.1] at left
      rw [List.cons_append, trimStart, List.dropWhile_cons_of_neg blank, List.head?_cons]
      exact congrArg some (List.cons.inj left).1

end Reveille.Text

namespace Reveille.RuleText

open Grammar Reveille.Calendar Reveille.Text

variable {α β : Type} {line : Line} {cur cur' : Cursor} {k k' : Kind} {c : Clause}

theorem exists_digit_of_isTime {s : List Char} {t : TimeOfDay} (time : IsTime s t) :
    ∃ d ds, s = d :: ds ∧ d.isDigit = true := by
  cases time with
  | hour hour =>
    obtain ⟨a, b, rfl, digit, -⟩ := hour
    exact ⟨a, [b], rfl, digit⟩
  | minute hour =>
    obtain ⟨a, b, rfl, digit, -⟩ := hour
    exact ⟨a, _, rfl, digit⟩
  | second hour =>
    obtain ⟨a, b, rfl, digit, -⟩ := hour
    exact ⟨a, _, rfl, digit⟩

namespace Kind

theorem mem_all (k : Kind) : k ∈ all := by
  cases k <;> decide

/-! ### Claims -/

/-- What makes a line one of this kind, well formed or not. -/
def Claims (line : Line) : Kind → Prop
  | .window => '<' ∈ line.text
  | .inactivity => (wordChars line.text).head? = some "inactivity".toList
  | .holdOff => (wordChars line.text).head? = some "hold".toList
  | .days => (wordChars line.text).head? = some "now".toList
  | .group => Quantifier.ofHeader line ≠ .mismatch

/-- The kind whose clauses start with the word. -/
def ofWord? (w : List Char) : Option Kind :=
  if (w.headD ' ').isDigit then some .window
  else if w = "inactivity".toList then some .inactivity
  else if w = "hold".toList then some .holdOff
  else if w = "now".toList then some .days
  else if ["all", "any", "not", "all:", "any:", "not:"].any (·.toList = w) then some .group
  else none

def ofStart? (line : Line) : Option Kind :=
  (wordChars line.text).head?.bind ofWord?

theorem ofStart?_eq {w : List Char} (first : (wordChars line.text).head? = some w) :
    ofStart? line = ofWord? w := by
  rw [ofStart?, first]
  rfl

theorem ofStart?_of_header (some : Quantifier.ofHeader line ≠ .mismatch) :
    ofStart? line = .some .group := by
  cases header : Quantifier.ofHeader line with
  | mismatch => exact absurd header some
  | accepted q =>
    rcases head?_wordChars_of_isGroupHeader (ofHeader_eq_accepted_iff.mp header) with first | first
    · rw [ofStart?_eq first]
      cases q <;> decide
    · rw [ofStart?_eq first]
      cases q <;> decide
  | failed e =>
    -- Only a keyword without its colon is a group that fails.
    unfold Quantifier.ofHeader at header
    split at header
    · split at header <;> cases header
    · split at header
      · next q found =>
        rw [ofStart?, ofKeyword?_eq_some_iff.mp found]
        cases q <;> decide
      · cases header

/-- Apart from time windows, lines say first of what kind they are. -/
theorem ofStart?_of_claims (claims : k.Claims line) (other : k ≠ .window) :
    ofStart? line = some k := by
  cases k with
  | window => exact absurd rfl other
  | inactivity =>
    rw [ofStart?_eq claims]
    decide
  | holdOff =>
    rw [ofStart?_eq claims]
    decide
  | days =>
    rw [ofStart?_eq claims]
    decide
  | group => exact ofStart?_of_header claims

/-- A line that starts as a kind claims no other, if only windows have the sign `<`. -/
theorem not_claims_of_ofStart? (starts : ofStart? line = some k)
    (absent : k ≠ .window → '<' ∉ line.text) (other : k' ≠ k) : ¬ k'.Claims line := by
  intro claims
  by_cases window : k' = .window
  · subst window
    exact absent other.symm claims
  · rw [ofStart?_of_claims claims window] at starts
    exact other (Option.some.inj starts)

theorem ofStart?_of_window (accepted : Clause.timeWindow line = .accepted c) :
    ofStart? line = some .window := by
  obtain ⟨a, b, e, start, stop, whole, time, -⟩ := timeWindow_eq_accepted_iff.mp accepted
  obtain ⟨d, ds, left, digit⟩ := exists_digit_of_isTime time
  have starts := head?_wordChars line.text
  rw [whole, head?_trimStart_append left, ← whole] at starts
  obtain ⟨w, first, head⟩ := Option.bind_eq_some_iff.mp starts
  rw [ofStart?_eq first, ofWord?, if_pos]
  rw [List.headD_eq_head?_getD, head]
  exact digit

/-- The line is a clause of one line of this kind, or the header of a group. -/
def Accepts (line : Line) : Kind → Prop
  | .window => ∃ c, Clause.timeWindow line = .accepted c
  | .inactivity => ∃ c, Clause.inactivity line = .accepted c
  | .holdOff => ∃ c, Clause.holdOffClause line = .accepted c
  | .days => ∃ c, Clause.dayRestriction line = .accepted c
  | .group => ∃ q, Quantifier.ofHeader line = .accepted q

theorem angle_notMem_of_accepts (accepts : k.Accepts line) (other : k ≠ .window) :
    '<' ∉ line.text := by
  cases k with
  | window => exact absurd rfl other
  | inactivity =>
    obtain ⟨_, accepted⟩ := accepts
    obtain ⟨amount, unit, n, words, interval, -⟩ := inactivity_eq_accepted_iff.mp accepted
    apply angle_notMem_of_words
    rw [words]
    simp [angle_notMem_of_isInterval interval]
  | holdOff =>
    obtain ⟨_, accepted⟩ := accepts
    obtain ⟨amount, unit, n, words, interval, -⟩ := holdOffClause_eq_accepted_iff.mp accepted
    apply angle_notMem_of_words
    rw [words]
    simp [angle_notMem_of_isInterval interval]
  | days =>
    obtain ⟨_, accepted⟩ := accepts
    obtain ⟨names, days, -, named, ⟨words, -⟩ | ⟨words, -⟩⟩ :=
      dayRestriction_eq_accepted_iff.mp accepted
    · apply angle_notMem_of_words
      rw [words]
      exact List.forall_mem_cons.mpr ⟨by decide, angle_notMem_of_nameDays named⟩
    · apply angle_notMem_of_words
      rw [words]
      exact List.forall_mem_cons.mpr ⟨by decide,
        List.forall_mem_cons.mpr ⟨by decide, angle_notMem_of_nameDays named⟩⟩
  | group =>
    obtain ⟨q, accepted⟩ := accepts
    exact angle_notMem_of_isGroupHeader (ofHeader_eq_accepted_iff.mp accepted)

theorem ofStart?_of_accepts (accepts : k.Accepts line) : ofStart? line = some k := by
  have accepted : ∀ {word : String} {r : Attempt Clause},
      (∃ c, (if Clause.startsWith word line.words = true then r else .mismatch) = .accepted c) →
      (wordChars line.text).head? = some word.toList := by
    rintro word r ⟨c, outcome⟩
    split at outcome
    · next starts => exact startsWith_iff_head?.mp starts
    · cases outcome
  cases k with
  | window =>
    obtain ⟨c, accepts⟩ := accepts
    exact ofStart?_of_window accepts
  | inactivity => exact ofStart?_of_claims (k := .inactivity) (accepted accepts) (by decide)
  | holdOff => exact ofStart?_of_claims (k := .holdOff) (accepted accepts) (by decide)
  | days => exact ofStart?_of_claims (k := .days) (accepted accepts) (by decide)
  | group =>
    obtain ⟨q, header⟩ := accepts
    apply ofStart?_of_header
    intro missed
    rw [header] at missed
    cases missed

theorem not_claims_of_accepts (accepts : k.Accepts line) (other : k' ≠ k) : ¬ k'.Claims line :=
  not_claims_of_ofStart? (ofStart?_of_accepts accepts) (angle_notMem_of_accepts accepts) other

/-! ### Trials -/

variable {block block' : Line → Stepwise (List Clause)}

theorem runAt_oneLine {message : String} {f : Line → Attempt Clause} :
    (Stepwise.oneLine message f line).runAt cur = (.ok c, cur') ↔
      f line = .accepted c ∧ cur' = cur := by
  unfold Stepwise.oneLine
  constructor
  · intro h
    split at h
    · next accepted =>
      cases h
      exact ⟨accepted, rfl⟩
    · cases h
    · cases h
  · rintro ⟨accepted, rfl⟩
    rw [accepted]
    rfl

theorem accepts_of_trial (outcome : (k.trial block line).runAt cur = (.ok c, cur')) :
    k.Accepts line := by
  cases k with
  | window => exact ⟨c, (runAt_oneLine.mp outcome).1⟩
  | inactivity => exact ⟨c, (runAt_oneLine.mp outcome).1⟩
  | holdOff => exact ⟨c, (runAt_oneLine.mp outcome).1⟩
  | days => exact ⟨c, (runAt_oneLine.mp outcome).1⟩
  | group =>
    cases header : Quantifier.ofHeader line with
    | accepted q => exact ⟨q, header⟩
    | mismatch =>
      rw [trial, Stepwise.group, header] at outcome
      cases outcome
    | failed e =>
      rw [trial, Stepwise.group, header] at outcome
      cases outcome

/-- A trial of a kind that the line does not claim leaves everything as it is. -/
theorem trial_of_not_claims (silent : ¬ k.Claims line) :
    (k.trial block line).runAt cur = (.error (.ofMismatch line k.denial), cur) := by
  have oneLine : ∀ {message : String} {f : Line → Attempt Clause}, f line = .mismatch →
      (Stepwise.oneLine message f line).runAt cur = (.error (.ofMismatch line message), cur) := by
    intro message f missed
    rw [Stepwise.oneLine, missed]
    rfl
  cases k with
  | window => exact oneLine (if_neg silent)
  | inactivity => exact oneLine (if_neg (silent ∘ startsWith_iff_head?.mp))
  | holdOff => exact oneLine (if_neg (silent ∘ startsWith_iff_head?.mp))
  | days => exact oneLine (if_neg (silent ∘ startsWith_iff_head?.mp))
  | group =>
    rw [trial, Stepwise.group, not_not.mp silent]
    rfl

theorem claims_of_trial (outcome : (k.trial block line).runAt cur = (.ok c, cur')) :
    k.Claims line := by
  by_contra silent
  rw [trial_of_not_claims silent] at outcome
  cases outcome

theorem trial_of_other {at_ : Cursor} (outcome : (k.trial block line).runAt cur = (.ok c, cur'))
    (other : k' ≠ k) :
    (k'.trial block' line).runAt at_ = (.error (.ofMismatch line k'.denial), at_) :=
  trial_of_not_claims (not_claims_of_accepts (accepts_of_trial outcome) other)

end Kind

/-! ### Failures that are final -/

namespace Stepwise

/-- A reading whose failures are all fatal. -/
def Final (m : Stepwise α) : Prop :=
  ∀ cur e cur', m.runAt cur = (.error e, cur') → e.isFatal = true

variable {m m' : Stepwise α} {f f' : α → Stepwise β}

theorem Final.pure (a : α) : Final (Pure.pure a : Stepwise α) := by
  intro cur e cur' failed
  cases failed

theorem Final.bind (first : Final m) (later : ∀ a, Final (f a)) : Final (m >>= f) := by
  intro cur e cur' failed
  rw [runAt_bind] at failed
  cases outcome : m.runAt cur with
  | mk r cur₁ =>
    rw [outcome] at failed
    cases r with
    | ok a => exact later a cur₁ e cur' failed
    | error e' =>
      cases failed
      exact first cur e cur' outcome

theorem Final.tryCatch {h : Failure → Stepwise α} (handled : ∀ e, Final (h e)) :
    Final (tryCatch m h) := by
  intro cur e cur' failed
  rw [runAt_tryCatch] at failed
  cases outcome : m.runAt cur with
  | mk r cur₁ =>
    rw [outcome] at failed
    cases r with
    | ok a => cases failed
    | error e' => exact handled e' cur₁ e cur' failed

theorem Final.throw {e : Failure} (fatal : e.isFatal = true) : Final (throw e : Stepwise α) := by
  intro cur e' cur' failed
  cases failed
  exact fatal

theorem Final.refuse (line : Line) (cause : Malformation) :
    Final (Stepwise.refuse line cause : Stepwise α) :=
  .throw (Failure.isFatal_ofFault _)

theorem Final.peek : Final peek :=
  fun _ _ _ failed => by cases failed

theorem Final.advance : Final advance :=
  fun _ _ _ failed => by cases failed

theorem Final.get : Final (get : Stepwise Cursor) :=
  fun _ _ _ failed => by cases failed

/-- Where a mismatch is followed by another try, the failures are those of the other try. -/
theorem Final.orElse {later : Stepwise α} (final : Final later) :
    Final (tryCatchThe Failure m fun failure =>
      if failure.isFatal then throwThe Failure failure else later) := by
  refine .tryCatch fun failure => ?_
  split
  · next fatal => exact .throw fatal
  · exact final

/-- What is tried may mismatch, but the trials together never do. -/
theorem firstMatch_final (as : List (Line → Stepwise Clause)) : Final (firstMatch line as) := by
  induction as with
  | nil => exact .throw (Failure.isFatal_ofFault _)
  | cons a as ih => exact .orElse ih

variable {block : Line → Stepwise (List Clause)}

theorem oneLine_final {message : String} {f : Line → Attempt Clause}
    (claimed : f line ≠ .mismatch) : Final (oneLine message f line) := by
  unfold oneLine
  cases outcome : f line with
  | accepted c => exact .pure c
  | mismatch => exact absurd outcome claimed
  | failed e => exact .throw (Failure.isFatal_ofFault e)

theorem group_final (blocks : ∀ header, Final (block header))
    (claimed : Quantifier.ofHeader line ≠ .mismatch) : Final (group block line) := by
  unfold group
  cases header : Quantifier.ofHeader line with
  | mismatch => exact absurd header claimed
  | failed e => exact .throw (Failure.isFatal_ofFault e)
  | accepted q =>
    refine .bind (blocks line) fun cs => ?_
    cases q.group (cs.map Clause.toNode) with
    | ok node => exact .pure _
    | error cause => exact .throw rfl

/-- A trial of the kind that the line claims to be does not mismatch, however much it reads. -/
theorem trial_final (blocks : ∀ header, Final (block header)) (claims : k.Claims line) :
    Final (k.trial block line) := by
  have decided : ∀ r : Except ParseError Clause, Attempt.ofExcept r ≠ .mismatch := by
    intro r
    cases r <;> simp [Attempt.ofExcept]
  cases k with
  | window =>
    apply oneLine_final
    unfold Clause.timeWindow
    rw [if_pos (show '<' ∈ line.text from claims)]
    exact decided _
  | inactivity =>
    apply oneLine_final
    rw [Clause.inactivity, if_pos (startsWith_iff_head?.mpr claims)]
    exact decided _
  | holdOff =>
    apply oneLine_final
    rw [Clause.holdOffClause, if_pos (startsWith_iff_head?.mpr claims)]
    split
    · exact decided _
    · intro missed
      cases missed
  | days =>
    apply oneLine_final
    rw [Clause.dayRestriction, if_pos (startsWith_iff_head?.mpr claims)]
    simp only
    split
    · exact decided _
    · exact decided _
  | group => exact group_final blocks claims

theorem trial_keeps {e : Failure} (blocks : ∀ header, Final (block header))
    (failed : (k.trial block line).runAt cur = (.error e, cur')) (missed : e.isFatal = false) :
    cur' = cur := by
  by_cases claims : k.Claims line
  · rw [trial_final blocks claims cur e cur' failed] at missed
    cases missed
  · rw [Kind.trial_of_not_claims claims] at failed
    cases failed
    rfl

end Stepwise

end Reveille.RuleText
