import Reveille.Proofs.RuleText.Header

/-!
# Telling clauses apart

A line is of at most one kind. What the kinds before it make of a line is a mismatch, so `clause`
reads a line as exactly what the grammar says it is.
-/

namespace Reveille.RuleText

open Grammar Reveille.Calendar Reveille.Net Reveille.Text

variable {line : Line}

/-! ### Signs of each kind -/

theorem angle_notMem_of_words {s : List Char} (clean : ∀ w ∈ wordChars s, '<' ∉ w) : '<' ∉ s := by
  intro mem
  obtain ⟨w, word, within⟩ := exists_word_of_mem mem (by decide)
  exact clean w word within

theorem angle_notMem_of_isInterval {amount unit : List Char} {n : Nat}
    (interval : IsInterval amount unit n) : '<' ∉ amount ∧ '<' ∉ unit := by
  obtain ⟨m, name, k, ⟨digits, shape, -, digit, -, -⟩, factor, rfl, -, -⟩ := interval
  have clean : '<' ∉ digits := fun mem => absurd (digit _ mem) (by decide)
  have known : ∀ u ∈ units, '<' ∉ u.1.toList := by decide
  refine ⟨?_, known _ factor⟩
  rcases shape with rfl | rfl
  · exact clean
  · simp [clean]

theorem angle_notMem_of_nameDays {names : List (List Char)} {days : List Weekday}
    (named : NameDays names days) : ∀ w ∈ names, '<' ∉ w := by
  induction named with
  | nil => simp
  | @cons name d _ _ named _ ih =>
    refine List.forall_mem_cons.mpr ⟨?_, ih⟩
    rcases named with rfl | rfl <;> cases d <;> decide

theorem head?_wordChars_of_isGroupHeader {s : List Char} {q : Quantifier}
    (reads : IsGroupHeader s q) :
    (wordChars s).head? = some (keyword q) ∨ (wordChars s).head? = some (keyword q ++ [':']) := by
  obtain ⟨blanks, blank, rfl⟩ := reads
  cases blanks with
  | nil =>
    right
    cases q <;> rfl
  | cons b blanks =>
    left
    rw [List.append_assoc, List.cons_append, wordChars_append_blank
      (fun c mem => isBlank_of_mem_keyword mem) (by cases q <;> decide)
      (blank b List.mem_cons_self)]
    rfl

theorem timeWindow_eq_mismatch (absent : '<' ∉ line.text) :
    Clause.timeWindow line = .mismatch :=
  if_neg absent

theorem not_startsWith_of_head? {word : String} {w : List Char}
    (first : (wordChars line.text).head? = some w) (other : word.toList ≠ w) :
    ¬ Clause.startsWith word line.words = true := by
  intro starts
  exact other (Option.some.inj ((startsWith_iff_head?.mp starts).symm.trans first))

/-! ### Trying each kind -/

theorem firstMatch_ofLine_mismatch {f : Line → Attempt Clause} {cur : Cursor}
    {as : List Alternative} (h : f line = .mismatch) :
    firstMatch line cur (.ofLine f :: as) = firstMatch line cur as := by
  simp [firstMatch, Alternative.ofLine, h, Attempt.map]

theorem firstMatch_ofLine_accepted {f : Line → Attempt Clause} {cur : Cursor}
    {as : List Alternative} {c : Clause} (h : f line = .accepted c) :
    firstMatch line cur (.ofLine f :: as) = .accepted (c, cur) := by
  simp [firstMatch, Alternative.ofLine, h, Attempt.map]

theorem inactivity_eq_mismatch {w : List Char} (first : (wordChars line.text).head? = some w)
    (other : "inactivity".toList ≠ w) : Clause.inactivity line = .mismatch :=
  if_neg (not_startsWith_of_head? first other)

theorem holdOffClause_eq_mismatch {w : List Char} (first : (wordChars line.text).head? = some w)
    (other : "hold".toList ≠ w) : Clause.holdOffClause line = .mismatch :=
  if_neg (not_startsWith_of_head? first other)

theorem dayRestriction_eq_mismatch {w : List Char} (first : (wordChars line.text).head? = some w)
    (other : "now".toList ≠ w) : Clause.dayRestriction line = .mismatch :=
  if_neg (not_startsWith_of_head? first other)

theorem firstMatch_of_dayRestriction {block : BlockReader} {cur : Cursor} {c : Clause}
    {names : List (List Char)} (words : wordChars line.text = "now".toList :: names)
    (clean : ∀ w ∈ names, '<' ∉ w) (accepted : Clause.dayRestriction line = .accepted c) :
    firstMatch line cur (alternatives block) = .accepted (c, cur) := by
  have absent : '<' ∉ line.text := angle_notMem_of_words
    (by rw [words]; exact List.forall_mem_cons.mpr ⟨by decide, clean⟩)
  have first : (wordChars line.text).head? = some "now".toList := by rw [words]; rfl
  exact (firstMatch_ofLine_mismatch (timeWindow_eq_mismatch absent)).trans
    ((firstMatch_ofLine_mismatch (inactivity_eq_mismatch first (by decide))).trans
      ((firstMatch_ofLine_mismatch (holdOffClause_eq_mismatch first (by decide))).trans
        (firstMatch_ofLine_accepted accepted)))

theorem firstMatch_of_isClause {block : BlockReader} {cur : Cursor} {c : Clause}
    (reads : IsClause line.text c) :
    firstMatch line cur (alternatives block) = .accepted (c, cur) := by
  generalize whole : line.text = s at reads
  cases reads with
  | window readFirst middle readLast order =>
    exact firstMatch_ofLine_accepted (timeWindow_eq_accepted_iff.mpr
      ⟨_, _, _, _, _, whole, readFirst, middle, readLast, order, rfl⟩)
  | inactivity words interval =>
    have absent : '<' ∉ s := angle_notMem_of_words
      (by rw [words]; simp [angle_notMem_of_isInterval interval])
    rw [← whole] at absent words
    exact (firstMatch_ofLine_mismatch (timeWindow_eq_mismatch absent)).trans
      (firstMatch_ofLine_accepted (inactivity_eq_accepted_iff.mpr
        ⟨_, _, _, words, interval, rfl⟩))
  | holdOff words interval =>
    have absent : '<' ∉ s := angle_notMem_of_words
      (by rw [words]; simp [angle_notMem_of_isInterval interval])
    rw [← whole] at absent words
    have first : (wordChars line.text).head? = some "hold".toList := by rw [words]; rfl
    exact (firstMatch_ofLine_mismatch (timeWindow_eq_mismatch absent)).trans
      ((firstMatch_ofLine_mismatch (inactivity_eq_mismatch first (by decide))).trans
        (firstMatch_ofLine_accepted (holdOffClause_eq_accepted_iff.mpr
          ⟨_, _, _, words, interval, rfl⟩)))
  | days words some named =>
    rw [← whole] at words
    exact firstMatch_of_dayRestriction words (angle_notMem_of_nameDays named)
      (dayRestriction_eq_accepted_iff.mpr ⟨_, _, some, named, .inl ⟨words, rfl⟩⟩)
  | otherDays words some named =>
    rw [← whole] at words
    exact firstMatch_of_dayRestriction words
      (List.forall_mem_cons.mpr ⟨by decide, angle_notMem_of_nameDays named⟩)
      (dayRestriction_eq_accepted_iff.mpr ⟨_, _, some, named, .inr ⟨words, rfl⟩⟩)

theorem angle_notMem_of_isGroupHeader {s : List Char} {q : Quantifier}
    (reads : IsGroupHeader s q) : '<' ∉ s := by
  obtain ⟨blanks, blank, rfl⟩ := reads
  have clean : '<' ∉ blanks := fun mem => absurd (blank _ mem) (by decide)
  have known : '<' ∉ keyword q := by cases q <;> decide
  simp [clean, known]

theorem firstMatch_of_isGroupHeader {block : BlockReader} {cur : Cursor} {q : Quantifier}
    (reads : IsGroupHeader line.text q) :
    firstMatch line cur (alternatives block) = Alternative.group block line cur := by
  have absent : '<' ∉ line.text := angle_notMem_of_isGroupHeader reads
  obtain ⟨w, first, other⟩ : ∃ w, (wordChars line.text).head? = some w ∧
      "inactivity".toList ≠ w ∧ "hold".toList ≠ w ∧ "now".toList ≠ w := by
    rcases head?_wordChars_of_isGroupHeader reads with first | first
    · exact ⟨_, first, by cases q <;> decide⟩
    · exact ⟨_, first, by cases q <;> decide⟩
  have last : firstMatch line cur [Alternative.group block] = Alternative.group block line cur := by
    rw [firstMatch]
    cases Alternative.group block line cur <;> rfl
  exact (firstMatch_ofLine_mismatch (timeWindow_eq_mismatch absent)).trans
    ((firstMatch_ofLine_mismatch (inactivity_eq_mismatch first other.1)).trans
      ((firstMatch_ofLine_mismatch (holdOffClause_eq_mismatch first other.2.1)).trans
        ((firstMatch_ofLine_mismatch (dayRestriction_eq_mismatch first other.2.2)).trans last)))

/-! ### Reading a clause -/

theorem group_eq_ok_iff {q : Quantifier} {cs : List (Node Condition)} {n : Node Condition} :
    q.group cs = .ok n ↔ (q = .not → cs.length = 1) ∧ groupNode q cs = n := by
  cases q with
  | all => simp [Quantifier.group, groupNode]
  | any => simp [Quantifier.group, groupNode]
  | not =>
    rcases cs with _ | ⟨c, _ | ⟨d, cs⟩⟩ <;> simp [Quantifier.group, groupNode, Node.negate]

theorem groupAlternative_eq_accepted_iff {block : BlockReader} {cur cur' : Cursor} {c : Clause} :
    Alternative.group block line cur = .accepted (c, cur') ↔
      ∃ q cs, IsGroupHeader line.text q ∧ block line cur = .ok (cs, cur') ∧
        (q = .not → cs.length = 1) ∧ Clause.node (groupNode q (cs.map Clause.toNode)) = c := by
  unfold Alternative.group
  constructor
  · intro h
    split at h
    · cases h
    · cases h
    · next q header =>
      split at h
      · cases h
      · next cs cur'' body =>
        split at h
        · cases h
        · next n grouped =>
          cases h
          obtain ⟨arity, rfl⟩ := group_eq_ok_iff.mp grouped
          exact ⟨q, cs, ofHeader_eq_accepted_iff.mp header, body, by simpa using arity, rfl⟩
  · rintro ⟨q, cs, header, body, arity, rfl⟩
    have grouped : q.group (cs.map Clause.toNode) = .ok (groupNode q (cs.map Clause.toNode)) :=
      group_eq_ok_iff.mpr ⟨by simpa using arity, rfl⟩
    simp only [ofHeader_eq_accepted_iff.mpr header, body, grouped]

theorem firstMatch_eq_accepted {cur : Cursor} {as : List Alternative} {r : Clause × Cursor}
    (h : firstMatch line cur as = .accepted r) : ∃ a ∈ as, a line cur = .accepted r := by
  induction as with
  | nil => cases h
  | cons a as ih =>
    rw [firstMatch] at h
    split at h
    · obtain ⟨b, mem, accepted⟩ := ih h
      exact ⟨b, List.mem_cons_of_mem _ mem, accepted⟩
    · exact ⟨a, List.mem_cons_self, h⟩

theorem isClause_of_oneLine {f : Line → Attempt Clause} {c : Clause} (kind : f ∈ Clause.oneLine)
    (h : f line = .accepted c) : IsClause line.text c := by
  simp only [Clause.oneLine, List.mem_cons, List.not_mem_nil, or_false] at kind
  rcases kind with rfl | rfl | rfl | rfl
  · obtain ⟨_, _, _, _, _, whole, first, middle, last, order, rfl⟩ :=
      timeWindow_eq_accepted_iff.mp h
    exact whole ▸ .window first middle last order
  · obtain ⟨_, _, _, words, interval, rfl⟩ := inactivity_eq_accepted_iff.mp h
    exact .inactivity words interval
  · obtain ⟨_, _, _, words, interval, rfl⟩ := holdOffClause_eq_accepted_iff.mp h
    exact .holdOff words interval
  · obtain ⟨_, _, some, named, ⟨words, rfl⟩ | ⟨words, rfl⟩⟩ :=
      dayRestriction_eq_accepted_iff.mp h
    · exact .days words some named
    · exact .otherDays words some named

/-- A clause is one line of its own, or a group header and the block below it. -/
theorem clause_eq_ok_iff {block : BlockReader} {cur cur' : Cursor} {c : Clause} :
    clause block line cur = .ok (c, cur') ↔
      IsClause line.text c ∧ cur = cur' ∨
        ∃ q cs, IsGroupHeader line.text q ∧ block line cur = .ok (cs, cur') ∧
          (q = .not → cs.length = 1) ∧ Clause.node (groupNode q (cs.map Clause.toNode)) = c := by
  have accepted : clause block line cur = .ok (c, cur') ↔
      firstMatch line cur (alternatives block) = .accepted (c, cur') := by
    unfold clause
    cases firstMatch line cur (alternatives block) <;> simp
  rw [accepted, ← groupAlternative_eq_accepted_iff]
  constructor
  · intro h
    obtain ⟨a, kind, taken⟩ := firstMatch_eq_accepted h
    rcases List.mem_append.mp kind with kind | kind
    · obtain ⟨f, plain, rfl⟩ := List.mem_map.mp kind
      unfold Alternative.ofLine at taken
      cases found : f line with
      | accepted c' =>
        rw [found] at taken
        cases taken
        exact .inl ⟨isClause_of_oneLine plain found, rfl⟩
      | mismatch => rw [found] at taken; cases taken
      | failed e => rw [found] at taken; cases taken
    · obtain rfl := List.mem_singleton.mp kind
      exact .inr taken
  · rintro (⟨reads, rfl⟩ | grouped)
    · exact firstMatch_of_isClause reads
    · obtain ⟨q, _, header, -⟩ := groupAlternative_eq_accepted_iff.mp grouped
      rw [firstMatch_of_isGroupHeader header, grouped]

/-! ### At most one reading -/

theorem isClause_unique {s : List Char} {c c' : Clause} (h : IsClause s c) (h' : IsClause s c') :
    c = c' := by
  have read : ∀ {c : Clause}, IsClause s c → firstMatch ⟨0, 0, s⟩ ⟨[], []⟩
      (alternatives fun _ cur => .ok ([], cur)) = .accepted (c, ⟨[], []⟩) :=
    fun h => firstMatch_of_isClause h
  have same := (read h).symm.trans (read h')
  cases same
  rfl

theorem isGroupHeader_unique {s : List Char} {q q' : Quantifier} (h : IsGroupHeader s q)
    (h' : IsGroupHeader s q') : q = q' := by
  have read : ∀ {q : Quantifier}, IsGroupHeader s q →
      Quantifier.ofHeader ⟨0, 0, s⟩ = .accepted q := fun h => ofHeader_eq_accepted_iff.mpr h
  have same := (read h).symm.trans (read h')
  cases same
  rfl

theorem isRuleHeader_unique {s : List Char} {host host' : Host} (h : IsRuleHeader s host)
    (h' : IsRuleHeader s host') : host = host' := by
  have read : ∀ {host : Host}, IsRuleHeader s host → header ⟨0, 0, s⟩ = .ok host :=
    fun h => header_eq_ok_iff.mpr h
  exact Except.ok.inj ((read h).symm.trans (read h'))

theorem not_isGroupHeader_of_isClause {s : List Char} {c : Clause} {q : Quantifier}
    (h : IsClause s c) : ¬ IsGroupHeader s q := by
  intro header
  -- A block that always fails fails a group, but no clause of one line.
  let failing : BlockReader := fun line _ => .error (Clause.unrecognized line)
  have read : firstMatch ⟨0, 0, s⟩ ⟨[], []⟩ (alternatives failing) = .accepted (c, ⟨[], []⟩) :=
    firstMatch_of_isClause h
  rw [firstMatch_of_isGroupHeader header] at read
  obtain ⟨_, _, _, body, -⟩ := groupAlternative_eq_accepted_iff.mp read
  cases body

end Reveille.RuleText
