import Reveille.Proofs.RuleText.Trials

/-!
# The order of the trials

Rules may be read with the kinds of clauses tried in any order. In every order blocks fail for
good, so one kind accepts a line in all orders or in none, and what is accepted line by line makes
up the same rules.
-/

namespace Reveille.RuleText.Stepwise

variable {α β : Type} {line : Line} {cur cur' : Cursor} {c : Clause} {k : Kind}
  {order order' : List Kind} {m m' : Stepwise α} {f f' : α → Stepwise β}

/-! ### Blocks fail for good -/

theorem isPeer_final : Final (isPeer line) :=
  .orElse (.pure false)

theorem closeBlock_final : Final closeBlock := by
  intro cur e cur' failed
  rw [runAt_closeBlock] at failed
  split at failed
  · cases failed
  · cases failed
    exact Failure.isFatal_ofFault _

section Reader

variable {block : Line → Stepwise (List Clause)}

theorem clausesIn_final (n : Nat) : Final (clausesIn order block n) := by
  induction n with
  | zero => exact .pure []
  | succ n ih =>
    refine .bind .peek fun next => ?_
    cases next with
    | none => exact .pure []
    | some line =>
      refine .bind isPeer_final fun peer => ?_
      split
      · refine .bind .advance fun _ => ?_
        refine .bind (firstMatch_final _) fun c => ?_
        exact .bind ih fun cs => .pure _
      · exact .pure []

theorem blockUpToIn_final (n : Nat) (header : Line) : Final (blockUpToIn order n header) := by
  cases n with
  | zero => exact .refuse header .blockMissing
  | succ n =>
    refine .bind .peek fun next => ?_
    cases next with
    | none => exact .refuse header .blockMissing
    | some first =>
      refine .bind (.tryCatch fun _ => .refuse first .blockExpected) fun _ => ?_
      refine .bind .get fun _ => ?_
      refine .bind (clausesIn_final _) fun cs => ?_
      exact .bind closeBlock_final fun _ => .pure cs

theorem blockIn_final (header : Line) : Final (blockIn order header) :=
  .bind .get fun _ => blockUpToIn_final _ header

/-! ### The order of the trials -/

/-- Where a line claims to be of one kind only, the trial of that kind is all there is. -/
theorem runAt_clauseIn_of_claims (blocks : ∀ header, Final (block header)) (mem : k ∈ order)
    (claims : k.Claims line) (others : ∀ k' ≠ k, ¬ k'.Claims line) :
    (clauseIn order block line).runAt cur = (k.trial block line).runAt cur := by
  unfold clauseIn
  induction order with
  | nil => cases mem
  | cons k' ks ih =>
    rw [List.map_cons, firstMatch]
    by_cases same : k' = k
    · subst same
      cases tried : (k'.trial block line).runAt cur with
      | mk r cur₁ =>
        cases r with
        | ok c => exact runAt_tryCatch_ok tried
        | error e =>
          rw [runAt_tryCatch_error tried, trial_final blocks claims cur e cur₁ tried]
          rfl
    · have later : k ∈ ks := (List.mem_cons.mp mem).resolve_left (Ne.symm same)
      rw [runAt_tryCatch_error (Kind.trial_of_not_claims (others k' same))]
      exact ih later

/-- The kinds together accept exactly what one of them accepts. -/
theorem runAt_clauseIn (blocks : ∀ header, Final (block header)) :
    (clauseIn order block line).runAt cur = (.ok c, cur') ↔
      ∃ k ∈ order, (k.trial block line).runAt cur = (.ok c, cur') := by
  constructor
  · intro h
    unfold clauseIn at h
    induction order with
    | nil => cases h
    | cons k ks ih =>
      rw [List.map_cons, firstMatch] at h
      cases tried : (k.trial block line).runAt cur with
      | mk r cur₁ =>
        cases r with
        | ok c₁ =>
          rw [runAt_tryCatch_ok tried] at h
          cases h
          exact ⟨k, List.mem_cons_self, tried⟩
        | error e =>
          rw [runAt_tryCatch_error tried] at h
          split at h
          · cases h
          · next missed =>
            -- What mismatched has read nothing, so the next trial starts where this one did.
            obtain rfl := trial_keeps blocks tried (Bool.eq_false_iff.mpr missed)
            obtain ⟨k', mem, accepted⟩ := ih h
            exact ⟨k', List.mem_cons_of_mem _ mem, accepted⟩
  · rintro ⟨k, mem, accepted⟩
    have others : ∀ k' ≠ k, ¬ k'.Claims line :=
      fun k' => Kind.not_claims_of_accepts (Kind.accepts_of_trial accepted)
    rw [runAt_clauseIn_of_claims blocks mem (Kind.claims_of_trial accepted) others]
    exact accepted

/-- Readings that accept the same, from every cursor on. They may fail in different ways. -/
def Alike (m m' : Stepwise α) : Prop :=
  ∀ cur a cur', m.runAt cur = (.ok a, cur') ↔ m'.runAt cur = (.ok a, cur')

theorem Alike.refl (m : Stepwise α) : Alike m m :=
  fun _ _ _ => Iff.rfl

theorem runAt_bind_eq_ok_iff {b : β} : (m >>= f).runAt cur = (.ok b, cur') ↔
    ∃ a cur₁, m.runAt cur = (.ok a, cur₁) ∧ (f a).runAt cur₁ = (.ok b, cur') := by
  rw [runAt_bind]
  cases outcome : m.runAt cur with
  | mk r cur₁ =>
    cases r with
    | ok a =>
      constructor
      · intro h
        exact ⟨a, cur₁, rfl, h⟩
      · rintro ⟨_, _, same, h⟩
        cases same
        exact h
    | error e =>
      constructor
      · intro h
        cases h
      · rintro ⟨_, _, same, -⟩
        cases same

theorem Alike.bind (first : Alike m m') (later : ∀ a, Alike (f a) (f' a)) :
    Alike (m >>= f) (m' >>= f') := by
  intro cur b cur'
  rw [runAt_bind_eq_ok_iff, runAt_bind_eq_ok_iff]
  constructor
  · rintro ⟨a, cur₁, now, next⟩
    exact ⟨a, cur₁, (first _ _ _).mp now, (later a _ _ _).mp next⟩
  · rintro ⟨a, cur₁, now, next⟩
    exact ⟨a, cur₁, (first _ _ _).mpr now, (later a _ _ _).mpr next⟩

theorem trial_alike {block block' : Line → Stepwise (List Clause)}
    (alike : ∀ header, Alike (block header) (block' header)) (k : Kind) (line : Line) :
    Alike (k.trial block line) (k.trial block' line) := by
  cases k with
  | window | inactivity | holdOff | days => exact .refl _
  | group =>
    change Alike (group block line) (group block' line)
    unfold group
    cases Quantifier.ofHeader line with
    | mismatch | failed => exact .refl _
    | accepted q => exact .bind (alike line) fun cs => .refl _

section Orders

variable (same : order.Perm order')
include same

theorem clauseIn_alike {block block' : Line → Stepwise (List Clause)}
    (blocks : ∀ header, Final (block header)) (blocks' : ∀ header, Final (block' header))
    (alike : ∀ header, Alike (block header) (block' header)) (line : Line) :
    Alike (clauseIn order block line) (clauseIn order' block' line) := by
  intro cur c cur'
  rw [runAt_clauseIn blocks, runAt_clauseIn blocks']
  constructor
  · rintro ⟨k, mem, accepted⟩
    exact ⟨k, same.mem_iff.mp mem, (trial_alike alike k line _ _ _).mp accepted⟩
  · rintro ⟨k, mem, accepted⟩
    exact ⟨k, same.mem_iff.mpr mem, (trial_alike alike k line _ _ _).mpr accepted⟩

theorem clausesIn_alike {block block' : Line → Stepwise (List Clause)}
    (blocks : ∀ header, Final (block header)) (blocks' : ∀ header, Final (block' header))
    (alike : ∀ header, Alike (block header) (block' header)) (n : Nat) :
    Alike (clausesIn order block n) (clausesIn order' block' n) := by
  induction n with
  | zero => exact .refl _
  | succ n ih =>
    refine .bind (.refl _) fun next => ?_
    cases next with
    | none => exact .refl _
    | some line =>
      refine .bind (.refl _) fun peer => ?_
      split
      · refine .bind (.refl _) fun _ => ?_
        refine .bind (clauseIn_alike same blocks blocks' alike line) fun c => ?_
        exact .bind ih fun cs => .refl _
      · exact .refl _

theorem blockUpToIn_alike (n : Nat) (header : Line) :
    Alike (blockUpToIn order n header) (blockUpToIn order' n header) := by
  induction n generalizing header with
  | zero => exact .refl _
  | succ n ih =>
    refine .bind (.refl _) fun next => ?_
    cases next with
    | none => exact .refl _
    | some first =>
      refine .bind (.refl _) fun _ => .bind (.refl _) fun cur => ?_
      exact .bind (clausesIn_alike same (blockUpToIn_final n) (blockUpToIn_final n) ih _)
        fun cs => .refl _

theorem ruleIn_alike (line : Line) : Alike (ruleIn order line) (ruleIn order' line) := by
  refine .bind (.refl _) fun host => .bind ?_ fun cs => .refl _
  exact .bind (.refl _) fun cur => blockUpToIn_alike same _ line

theorem rulesUpToIn_alike (n : Nat) : Alike (rulesUpToIn order n) (rulesUpToIn order' n) := by
  induction n with
  | zero => exact .refl _
  | succ n ih =>
    refine .bind (.refl _) fun next => ?_
    cases next with
    | none => exact .refl _
    | some line =>
      refine .bind (.refl _) fun _ => .bind (.refl _) fun _ => ?_
      exact .bind (ruleIn_alike same line) fun r => .bind ih fun rs => .refl _

theorem parseRulesIn_eq_ok_iff (text : List Char) (rules : List Rule) :
    parseRulesIn order text = .ok rules ↔ parseRulesIn order' text = .ok rules := by
  unfold parseRulesIn
  cases Line.ofText text with
  | error e => exact Iff.rfl
  | ok lines =>
    have alike := rulesUpToIn_alike same lines.length ⟨lines, [0]⟩ rules
    constructor
    · intro h
      exact congrArg Prod.fst ((alike _).mp (Prod.ext h rfl))
    · intro h
      exact congrArg Prod.fst ((alike _).mpr (Prod.ext h rfl))

end Orders

end Reader

theorem block_final (header : Line) : Final (block header) :=
  blockIn_final header

/-- A trial that mismatches leaves the cursor where it is, and the trials together never mismatch.
If one kind accepts a line, the four others mismatch on it from the same cursor. So the kinds may
be tried in any order: the same texts have the same rules. -/
theorem one_kind_accepts (order : List Kind) (same : order.Perm Kind.all) :
    (∀ line, clause block line = firstMatch line [oneLine "not a time window" Clause.timeWindow,
      oneLine "not an inactivity clause" Clause.inactivity,
      oneLine "not a hold off clause" Clause.holdOffClause,
      oneLine "not a day restriction" Clause.dayRestriction, group block]) ∧
    (∀ (k : Kind) line cur e cur', (k.trial block line).runAt cur = (.error e, cur') →
      e.isFatal = false → cur' = cur) ∧
    (∀ line cur e cur', (clause block line).runAt cur = (.error e, cur') → e.isFatal = true) ∧
    (∀ (k : Kind) line cur c cur', (k.trial block line).runAt cur = (.ok c, cur') → ∀ k' ≠ k,
      (k'.trial block line).runAt cur = (.error (.ofMismatch line k'.denial), cur)) ∧
    ∀ text rules, parseRulesIn order text = .ok rules ↔ parseRules text = .ok rules := by
  refine ⟨fun line => rfl, ?_, ?_, ?_, ?_⟩
  · intro k line cur e cur' failed missed
    exact trial_keeps block_final failed missed
  · intro line
    exact firstMatch_final _
  · intro k line cur c cur' accepted k' other
    exact Kind.trial_of_other accepted other
  · exact parseRulesIn_eq_ok_iff same

/-- A rule with a group and a hold-off. -/
def nights : List Char :=
  "wake 00:11:22:33:44:55:\n any:\n  22 < now < 23:30\n  inactivity 2 h\n hold off +5 m".toList

def nightly : Node Condition :=
  .any [.leaf (.timeBetween ⟨79200, 0⟩ ⟨84600, 0⟩), .leaf (.inactiveFor 7200)]

def atNights : Rule :=
  Rule.make ⟨none, ⟨0, 17, 34, 51, 68, 85⟩⟩ 300 ⟨[nightly]⟩

/-- Where the lines of the group are read, and where the group is left. -/
def insideGroup : Cursor :=
  ⟨[⟨3, 2, "22 < now < 23:30".toList⟩, ⟨4, 2, "inactivity 2 h".toList⟩,
    ⟨5, 1, "hold off +5 m".toList⟩], [1, 0]⟩

def pastGroup : Cursor :=
  ⟨[⟨5, 1, "hold off +5 m".toList⟩], [1, 0]⟩

theorem one_kind_accepts_backwards :
    Kind.all.reverse.Perm Kind.all ∧
    (Kind.group.trial block ⟨2, 1, "any:".toList⟩).runAt insideGroup =
      (.ok (.node nightly), pastGroup) ∧
    (Kind.days.trial block ⟨2, 1, "any:".toList⟩).runAt insideGroup =
      (.error (.mismatch 2 2 "not a day restriction"), insideGroup) ∧
    parseRulesIn Kind.all.reverse nights = .ok [atNights] := by
  have backwards : Kind.all.reverse.Perm Kind.all := List.reverse_perm _
  have accepted : (Kind.group.trial block ⟨2, 1, "any:".toList⟩).runAt insideGroup =
      (.ok (.node nightly), pastGroup) := by decide +kernel
  have read : parseRules nights = .ok [atNights] := by decide +kernel
  obtain ⟨-, -, -, others, orders⟩ := one_kind_accepts Kind.all.reverse backwards
  exact ⟨backwards, accepted, others _ _ _ _ _ accepted .days (by decide), (orders _ _).mpr read⟩

end Reveille.RuleText.Stepwise
