import Reveille.Proofs.Outcomes
import Reveille.Proofs.RuleText.Grammar

/-!
# Reading single lines

Each kind of clause accepts exactly the lines that the grammar gives it, and so do the headers
of groups and rules. A line of one kind is a mismatch for the kinds tried before it.
-/

namespace Reveille.RuleText

open Grammar Reveille.Calendar Reveille.Net Reveille.Text

variable {line : Line}

/-! ### Trials -/

@[simp] theorem ofExcept_eq_accepted_iff {α : Type} {r : Except ParseError α} {a : α} :
    Attempt.ofExcept r = .accepted a ↔ r = .ok a := by
  cases r <;> simp [Attempt.ofExcept]

theorem map_chars_line_words : line.words.map Piece.chars = wordChars line.text :=
  map_chars_words line.text

theorem startsWith_iff {word : String} {ps : List Piece} :
    Clause.startsWith word ps = true ↔
      ps.map Piece.chars = word.toList :: (ps.drop 1).map Piece.chars := by
  cases ps <;> simp [Clause.startsWith]

theorem startsWith_iff_head? {word : String} :
    Clause.startsWith word line.words = true ↔
      (wordChars line.text).head? = some word.toList := by
  rw [← map_chars_line_words, List.head?_map]
  exact decide_eq_true_iff

theorem startsWith_of_words {word : String} {ps : List Piece} {ws : List (List Char)}
    (words : ps.map Piece.chars = word.toList :: ws) :
    Clause.startsWith word ps = true ∧ (ps.drop 1).map Piece.chars = ws := by
  cases ps with
  | nil => cases words
  | cons p ps =>
    obtain ⟨first, later⟩ := List.cons.inj words
    exact ⟨startsWith_iff.mpr (congrArg (· :: ps.map Piece.chars) first), later⟩

/-! ### Intervals -/

theorem unitSeconds?_eq_some_iff {unit : List Char} {k : Nat} :
    Clause.unitSeconds? unit = some k ↔ ∃ name, (name, k) ∈ units ∧ name.toList = unit := by
  constructor
  · intro h
    obtain ⟨⟨name, k'⟩, found, rfl⟩ := Option.map_eq_some_iff.mp h
    exact ⟨name, List.mem_of_find?_eq_some found, by simpa using List.find?_some found⟩
  · rintro ⟨name, mem, rfl⟩
    simp only [units, List.mem_cons, Prod.mk.injEq, List.not_mem_nil, or_false] at mem
    rcases mem with ⟨rfl, rfl⟩ | ⟨rfl, rfl⟩ | ⟨rfl, rfl⟩ | ⟨rfl, rfl⟩ | ⟨rfl, rfl⟩ | ⟨rfl, rfl⟩ <;>
      rfl

theorem interval_eq_ok_iff {ps : List Piece} {n : Nat} :
    Clause.interval line ps = .ok n ↔
      ∃ amount unit, ps.map Piece.chars = [amount, unit] ∧ IsInterval amount unit n := by
  constructor
  · intro h
    unfold Clause.interval at h
    split at h
    · next amount unit =>
      split at h
      · cases h
      · next m number =>
        split at h
        · cases h
        · next k factor =>
          split at h
          · next small =>
            obtain ⟨name, mem, named⟩ := unitSeconds?_eq_some_iff.mp factor
            cases h
            exact ⟨amount.chars, unit.chars, rfl, m, name, k, readNat?_eq_some_iff.mp number, mem,
              named, rfl, small⟩
          · cases h
    · cases h
  · rintro ⟨amount, unit, shape, m, name, k, number, mem, named, rfl, small⟩
    simp only [List.map_eq_cons_iff, List.map_eq_nil_iff] at shape
    obtain ⟨p, _, rfl, rfl, q, _, rfl, rfl, rfl⟩ := shape
    simp [Clause.interval, readNat?_eq_some_iff.mpr number,
      unitSeconds?_eq_some_iff.mpr ⟨name, mem, named⟩, small]

/-! ### Time windows -/

theorem timeOfDay_eq_ok_iff {p : Piece} {t : TimeOfDay} :
    Clause.timeOfDay line p = .ok t ↔ IsTime p.chars t := by
  rw [← ofLiteral?_eq_some_iff, Clause.timeOfDay]
  cases TimeOfDay.ofLiteral? p.chars <;> simp

theorem window_eq_ok_iff {ps : List Piece} {c : Clause} :
    Clause.window line ps = .ok c ↔
      ∃ first last start stop, ps.map Piece.chars = [first, "now".toList, last] ∧
        IsTime first start ∧ IsTime last stop ∧ start.before stop = true ∧
        Clause.node (.leaf (.timeBetween start stop)) = c := by
  constructor
  · intro h
    unfold Clause.window at h
    split at h
    · next first middle last =>
      by_cases now : middle.chars = "now".toList
      · rw [if_neg (by simpa using now)] at h
        obtain ⟨start, readFirst, h⟩ := bind_eq_ok_iff.mp h
        obtain ⟨stop, readLast, h⟩ := bind_eq_ok_iff.mp h
        split at h
        · next order =>
          cases h
          exact ⟨first.chars, last.chars, start, stop, by simp [now],
            timeOfDay_eq_ok_iff.mp readFirst, timeOfDay_eq_ok_iff.mp readLast, order, rfl⟩
        · cases h
      · rw [if_pos (by simpa using now)] at h
        cases h
    · cases h
  · rintro ⟨first, last, start, stop, shape, readFirst, readLast, order, rfl⟩
    simp only [List.map_eq_cons_iff, List.map_eq_nil_iff] at shape
    obtain ⟨p, _, rfl, rfl, q, _, rfl, now, r, _, rfl, rfl, rfl⟩ := shape
    rw [Clause.window, if_neg (by simpa using now)]
    refine bind_eq_ok_iff.mpr ⟨start, timeOfDay_eq_ok_iff.mpr readFirst, ?_⟩
    refine bind_eq_ok_iff.mpr ⟨stop, timeOfDay_eq_ok_iff.mpr readLast, ?_⟩
    exact if_pos order

theorem angle_notMem_of_isTime {s : List Char} {t : TimeOfDay} (time : IsTime s t) : '<' ∉ s := by
  have field : ∀ {limit n : Nat} {cs : List Char}, IsField limit cs n → '<' ∉ cs := by
    rintro limit n cs ⟨a, b, rfl, ha, hb, -, -⟩ mem
    rcases List.mem_pair.mp mem with rfl | rfl
    · exact absurd ha (by decide)
    · exact absurd hb (by decide)
  cases time with
  | hour hour => exact field hour
  | minute hour minute => simp [field hour, field minute]
  | second hour minute second => simp [field hour, field minute, field second]

theorem timeWindow_eq_accepted_iff {c : Clause} :
    Clause.timeWindow line = .accepted c ↔
      ∃ a b e start stop, line.text = a ++ '<' :: (b ++ '<' :: e) ∧ IsTime (trim a) start ∧
        trim b = "now".toList ∧ IsTime (trim e) stop ∧ start.before stop = true ∧
        Clause.node (.leaf (.timeBetween start stop)) = c := by
  have pieces : ((split '<' line.text).map Piece.trim).map Piece.chars =
      (line.text.splitOn '<').map trim := by
    rw [← map_chars_split, List.map_map, List.map_map]
    exact List.map_congr_left fun p _ => Piece.chars_trim p
  constructor
  · intro h
    unfold Clause.timeWindow at h
    split at h
    · obtain ⟨first, last, start, stop, shape, readFirst, readLast, order, rfl⟩ :=
        window_eq_ok_iff.mp (ofExcept_eq_accepted_iff.mp h)
      simp only [pieces, List.map_eq_cons_iff, List.map_eq_nil_iff] at shape
      obtain ⟨a, _, whole, rfl, b, _, rfl, now, e, _, rfl, rfl, rfl⟩ := shape
      have joined : ['<'].intercalate (line.text.splitOn '<') = line.text :=
        List.intercalate_splitOn '<'
      rw [whole] at joined
      exact ⟨a, b, e, start, stop, by simp [← joined], readFirst, now, readLast, order, rfl⟩
    · cases h
  · rintro ⟨a, b, e, start, stop, whole, readFirst, now, readLast, order, rfl⟩
    have clean : ∀ {s : List Char}, '<' ∉ trim s → '<' ∉ s :=
      fun absent mem => absent (mem_trim mem (by decide))
    have cleanA := clean (angle_notMem_of_isTime readFirst)
    have cleanB : '<' ∉ b := clean (by rw [now]; decide)
    have cleanE := clean (angle_notMem_of_isTime readLast)
    have parts : line.text.splitOn '<' = [a, b, e] :=
      (splitOn_eq_iff (by simp [cleanA, cleanB, cleanE]) (by simp)).mpr (by simp [whole])
    unfold Clause.timeWindow
    rw [if_pos (by simp [whole])]
    refine ofExcept_eq_accepted_iff.mpr (window_eq_ok_iff.mpr
      ⟨trim a, trim e, start, stop, ?_, readFirst, readLast, order, rfl⟩)
    rw [pieces, parts, ← now]
    rfl

/-! ### Intervals in clauses -/

theorem inactivity_eq_accepted_iff {c : Clause} :
    Clause.inactivity line = .accepted c ↔
      ∃ amount unit n, wordChars line.text = ["inactivity".toList, amount, unit] ∧
        IsInterval amount unit n ∧ Clause.node (.leaf (.inactiveFor n)) = c := by
  unfold Clause.inactivity
  constructor
  · intro h
    split at h
    · next starts =>
      obtain ⟨n, read, rfl⟩ := map_eq_ok_iff.mp (ofExcept_eq_accepted_iff.mp h)
      obtain ⟨amount, unit, shape, interval⟩ := interval_eq_ok_iff.mp read
      rw [startsWith_iff, map_chars_line_words, shape] at starts
      exact ⟨amount, unit, n, starts, interval, rfl⟩
    · cases h
  · rintro ⟨amount, unit, n, words, interval, rfl⟩
    obtain ⟨starts, shape⟩ := startsWith_of_words (map_chars_line_words.trans words)
    rw [if_pos starts]
    exact ofExcept_eq_accepted_iff.mpr
      (map_eq_ok_iff.mpr ⟨n, interval_eq_ok_iff.mpr ⟨amount, unit, shape, interval⟩, rfl⟩)

theorem holdOffClause_eq_accepted_iff {c : Clause} :
    Clause.holdOffClause line = .accepted c ↔
      ∃ amount unit n, wordChars line.text = ["hold".toList, "off".toList, amount, unit] ∧
        IsInterval amount unit n ∧ Clause.holdOff n = c := by
  unfold Clause.holdOffClause
  constructor
  · intro h
    split at h
    · next hold =>
      split at h
      · next off =>
        obtain ⟨n, read, rfl⟩ := map_eq_ok_iff.mp (ofExcept_eq_accepted_iff.mp h)
        obtain ⟨amount, unit, shape, interval⟩ := interval_eq_ok_iff.mp read
        rw [startsWith_iff, List.drop_drop, shape] at off
        rw [startsWith_iff, map_chars_line_words, off] at hold
        exact ⟨amount, unit, n, hold, interval, rfl⟩
      · cases h
    · cases h
  · rintro ⟨amount, unit, n, words, interval, rfl⟩
    obtain ⟨hold, later⟩ := startsWith_of_words (map_chars_line_words.trans words)
    obtain ⟨off, shape⟩ := startsWith_of_words later
    rw [List.drop_drop] at shape
    rw [if_pos hold, if_pos off]
    exact ofExcept_eq_accepted_iff.mpr
      (map_eq_ok_iff.mpr ⟨n, interval_eq_ok_iff.mpr ⟨amount, unit, shape, interval⟩, rfl⟩)

/-! ### Days -/

/-- Days added one by one, each unless it is there already. -/
theorem foldl_addDay (days acc : List Weekday) :
    days.foldl (fun acc d => if d ∈ acc then acc else acc ++ [d]) acc =
      acc ++ (days.filter (· ∉ acc)).eraseDups := by
  induction days generalizing acc with
  | nil => simp
  | cons d days ih =>
    rw [List.foldl_cons, ih]
    by_cases known : d ∈ acc
    · simp [known]
    · rw [if_neg known, List.filter_cons_of_pos (by simpa using known), List.eraseDups_cons,
        List.filter_filter, List.append_assoc, List.singleton_append]
      congr 3
      refine List.filter_congr fun e _ => ?_
      by_cases same : e = d <;> simp [same]

theorem weekdays_eq_ok_iff {acc r : List Weekday} {ps : List Piece} :
    Clause.weekdays line acc ps = .ok r ↔
      ∃ days, NameDays (ps.map Piece.chars) days ∧
        days.foldl (fun acc d => if d ∈ acc then acc else acc ++ [d]) acc = r := by
  induction ps generalizing acc with
  | nil => simp [Clause.weekdays, NameDays]
  | cons p ps ih =>
    rw [Clause.weekdays, List.map_cons]
    constructor
    · intro h
      split at h
      · next d named =>
        obtain ⟨days, later, total⟩ := ih.mp h
        exact ⟨d :: days, .cons (ofName?_eq_some_iff.mp named) later, total⟩
      · cases h
    · rintro ⟨_, _ | ⟨named, later⟩, total⟩
      rw [ofName?_eq_some_iff.mpr named]
      exact ih.mpr ⟨_, later, total⟩

theorem dayList_eq_ok_iff {ps : List Piece} {n : Node Condition} :
    Clause.dayList line ps = .ok n ↔
      ∃ days, ps.map Piece.chars ≠ [] ∧ NameDays (ps.map Piece.chars) days ∧
        Node.leaf (.dayOfWeek days.eraseDups) = n := by
  unfold Clause.dayList
  by_cases none : ps = []
  · simp [none]
  · rw [if_neg none, map_eq_ok_iff]
    constructor
    · rintro ⟨r, read, rfl⟩
      obtain ⟨days, named, rfl⟩ := weekdays_eq_ok_iff.mp read
      exact ⟨days, by simpa using none, named, by simp [foldl_addDay]⟩
    · rintro ⟨days, -, named, rfl⟩
      exact ⟨days.eraseDups, weekdays_eq_ok_iff.mpr ⟨days, named, by simp [foldl_addDay]⟩, rfl⟩

theorem not_notMem_of_nameDays {names : List (List Char)} {days : List Weekday}
    (named : NameDays names days) : "not".toList ∉ names := by
  induction named with
  | nil => simp
  | @cons name d _ _ named _ ih =>
    intro mem
    rcases List.mem_cons.mp mem with rfl | later
    · cases d <;> revert named <;> decide
    · exact ih later

theorem dayRestriction_eq_accepted_iff {c : Clause} :
    Clause.dayRestriction line = .accepted c ↔
      ∃ names days, names ≠ [] ∧ NameDays names days ∧
        (wordChars line.text = "now".toList :: names ∧
            Clause.node (.leaf (.dayOfWeek days.eraseDups)) = c ∨
          wordChars line.text = "now".toList :: "not".toList :: names ∧
            Clause.node (.not (.leaf (.dayOfWeek days.eraseDups))) = c) := by
  unfold Clause.dayRestriction
  constructor
  · intro h
    split at h
    · next now =>
      rw [startsWith_iff, map_chars_line_words] at now
      simp only at h
      split at h
      · next other =>
        obtain ⟨n, read, rfl⟩ := map_eq_ok_iff.mp (ofExcept_eq_accepted_iff.mp h)
        obtain ⟨days, some, named, rfl⟩ := dayList_eq_ok_iff.mp read
        rw [startsWith_iff.mp other] at now
        exact ⟨_, days, some, named, .inr ⟨now, rfl⟩⟩
      · obtain ⟨n, read, rfl⟩ := map_eq_ok_iff.mp (ofExcept_eq_accepted_iff.mp h)
        obtain ⟨days, some, named, rfl⟩ := dayList_eq_ok_iff.mp read
        exact ⟨_, days, some, named, .inl ⟨now, rfl⟩⟩
    · cases h
  · rintro ⟨names, days, some, named, ⟨words, rfl⟩ | ⟨words, rfl⟩⟩
    · obtain ⟨now, shape⟩ := startsWith_of_words (map_chars_line_words.trans words)
      have plain : ¬ Clause.startsWith "not" (line.words.drop 1) = true := by
        intro other
        rw [startsWith_iff, shape] at other
        exact not_notMem_of_nameDays named (other ▸ List.mem_cons_self)
      rw [if_pos now]
      simp only [if_neg plain]
      exact ofExcept_eq_accepted_iff.mpr (map_eq_ok_iff.mpr
        ⟨_, dayList_eq_ok_iff.mpr ⟨days, shape ▸ some, shape ▸ named, rfl⟩, rfl⟩)
    · obtain ⟨now, shape⟩ := startsWith_of_words (map_chars_line_words.trans words)
      obtain ⟨other, later⟩ := startsWith_of_words shape
      rw [if_pos now]
      simp only [if_pos other]
      exact ofExcept_eq_accepted_iff.mpr (map_eq_ok_iff.mpr
        ⟨_, dayList_eq_ok_iff.mpr ⟨days, later ▸ some, later ▸ named, rfl⟩, rfl⟩)

end Reveille.RuleText
