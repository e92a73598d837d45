import Reveille.Proofs.RuleText.Clause

/-!
# Reading headers

The headers of groups and of rules are exactly the lines that the grammar gives them.
-/

namespace Reveille.RuleText

open Grammar Reveille.Net Reveille.Text

variable {line : Line}

theorem dropLast?_eq_some_iff {c : Char} {s t : List Char} :
    dropLast? c s = some t ↔ s = t ++ [c] := by
  unfold dropLast?
  constructor
  · intro h
    split at h
    · next last =>
      cases h
      exact (List.dropLast_append_getLast? c last).symm
    · cases h
  · rintro rfl
    simp

theorem ofKeyword?_eq_some_iff {s : List Char} {q : Quantifier} :
    Quantifier.ofKeyword? s = some q ↔ s = keyword q := by
  constructor
  · intro h
    unfold Quantifier.ofKeyword? at h
    split at h
    · next all => cases h; exact all
    · split at h
      · next any => cases h; exact any
      · split at h
        · next other => cases h; exact other
        · cases h
  · rintro rfl
    cases q <;> rfl

theorem isBlank_of_mem_keyword {q : Quantifier} {c : Char} (mem : c ∈ keyword q) :
    isBlank c = false := by
  have solid : (keyword q).all (!isBlank ·) = true := by cases q <;> rfl
  simpa using List.all_eq_true.mp solid c mem

theorem trimEnd_eq_keyword_iff {s : List Char} {q : Quantifier} :
    trimEnd s = keyword q ↔
      ∃ blanks, (∀ c ∈ blanks, isBlank c = true) ∧ s = keyword q ++ blanks := by
  unfold trimEnd
  constructor
  · intro h
    refine ⟨(s.reverse.takeWhile isBlank).reverse, ?_, ?_⟩
    · intro c mem
      exact List.mem_takeWhile_imp (List.mem_reverse.mp mem)
    · rw [← h, ← List.reverse_append, List.takeWhile_append_dropWhile, List.reverse_reverse]
  · rintro ⟨blanks, blank, rfl⟩
    rw [List.reverse_append, List.dropWhile_append_of_pos (by simpa using blank)]
    have stop : (keyword q).reverse.dropWhile isBlank = (keyword q).reverse := by
      cases q <;> rfl
    rw [stop, List.reverse_reverse]

theorem ofHeader_eq_accepted_iff {q : Quantifier} :
    Quantifier.ofHeader line = .accepted q ↔ IsGroupHeader line.text q := by
  unfold Quantifier.ofHeader IsGroupHeader
  constructor
  · intro h
    split at h
    · next text colon =>
      split at h
      · next found =>
        cases h
        obtain ⟨blanks, blank, rfl⟩ := trimEnd_eq_keyword_iff.mp (ofKeyword?_eq_some_iff.mp found)
        exact ⟨blanks, blank, dropLast?_eq_some_iff.mp colon⟩
      · cases h
    · split at h <;> cases h
  · rintro ⟨blanks, blank, whole⟩
    rw [dropLast?_eq_some_iff.mpr whole]
    simp only [ofKeyword?_eq_some_iff.mpr (trimEnd_eq_keyword_iff.mpr ⟨blanks, blank, rfl⟩)]

theorem headerHost_eq_ok_iff {ps : List Piece} {host : Host} :
    headerHost line ps = .ok host ↔
      ∃ w m mac, Mac.ofText? m = some mac ∧
        (ps.map Piece.chars = [w, m] ∧ ⟨none, mac⟩ = host ∨
          ∃ a address, ps.map Piece.chars = [w, m, a] ∧ Address.ofText? a = some address ∧
            ⟨some address, mac⟩ = host) := by
  constructor
  · intro h
    match ps with
    | [] | [_] => cases h
    | p :: q :: ps =>
      unfold headerHost at h
      simp only [List.getElem?_cons_succ, List.getElem?_cons_zero] at h
      cases read : Mac.ofText? q.chars with
      | none => rw [read] at h; cases h
      | some mac =>
        rw [read] at h
        refine ⟨p.chars, q.chars, mac, read, ?_⟩
        match ps with
        | [] =>
          cases h
          exact .inl ⟨rfl, rfl⟩
        | r :: ps =>
          simp only [List.getElem?_cons_succ, List.getElem?_cons_zero, headerAddress] at h
          cases readAddress : Address.ofText? r.chars with
          | none => rw [readAddress] at h; cases h
          | some address =>
            rw [readAddress] at h
            match ps with
            | [] =>
              cases h
              exact .inr ⟨r.chars, address, rfl, readAddress, rfl⟩
            | _ :: _ => cases h
  · rintro ⟨w, m, mac, read, ⟨shape, rfl⟩ | ⟨a, address, shape, readAddress, rfl⟩⟩
    · simp only [List.map_eq_cons_iff, List.map_eq_nil_iff] at shape
      obtain ⟨p, _, rfl, rfl, q, _, rfl, rfl, rfl⟩ := shape
      simp [headerHost, read, headerAddress]
    · simp only [List.map_eq_cons_iff, List.map_eq_nil_iff] at shape
      obtain ⟨p, _, rfl, rfl, q, _, rfl, rfl, r, _, rfl, rfl, rfl⟩ := shape
      simp [headerHost, read, headerAddress, readAddress]

/-- A word before the colon is not the first one, so the first one starts the line. -/
theorem startsWith_iff_of_colon {word : String} {text : List Char}
    (whole : line.text = text ++ [':']) (two : 2 ≤ (wordChars text).length) :
    Clause.startsWith word line.words = true ↔ (wordChars text).head? = some word.toList := by
  rw [startsWith_iff_head?, whole, head?_wordChars_concat (by decide) two]

theorem header_eq_ok_iff {host : Host} :
    header line = .ok host ↔ IsRuleHeader line.text host := by
  unfold header
  constructor
  · intro h
    split at h
    · next wake =>
      split at h
      · next text colon =>
        have whole := dropLast?_eq_some_iff.mp colon
        obtain ⟨w, m, mac, read, found⟩ := headerHost_eq_ok_iff.mp h
        rw [map_chars_words] at found
        rcases found with ⟨shape, rfl⟩ | ⟨a, address, shape, readAddress, rfl⟩
        · have first := (startsWith_iff_of_colon whole (by simp [shape])).mp wake
          rw [shape] at first
          obtain rfl := Option.some.inj first
          exact whole ▸ .mac shape read
        · have first := (startsWith_iff_of_colon whole (by simp [shape])).mp wake
          rw [shape] at first
          obtain rfl := Option.some.inj first
          exact whole ▸ .address shape read readAddress
      · cases h
    · cases h
  · intro reads
    generalize whole : line.text = text at reads
    cases reads with
    | @mac text m mac words read =>
      have wake := (startsWith_iff_of_colon whole (by simp [words])).mpr (by rw [words]; rfl)
      rw [if_pos wake, dropLast?_eq_some_iff.mpr rfl]
      exact headerHost_eq_ok_iff.mpr
        ⟨_, m, mac, read, .inl ⟨(map_chars_words text).trans words, rfl⟩⟩
    | @address text m a mac address words read readAddress =>
      have wake := (startsWith_iff_of_colon whole (by simp [words])).mpr (by rw [words]; rfl)
      rw [if_pos wake, dropLast?_eq_some_iff.mpr rfl]
      exact headerHost_eq_ok_iff.mpr ⟨_, m, mac, read,
        .inr ⟨a, address, (map_chars_words text).trans words, readAddress, rfl⟩⟩

end Reveille.RuleText
