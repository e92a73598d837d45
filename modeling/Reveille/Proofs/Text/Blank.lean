import Mathlib.Data.List.TakeWhile
import Reveille.Text.Blank

/-!
# Pieces, words and trimming

The characters of `split` are those of `List.splitOn`, and the characters of `words` are the
parts between blanks that are not empty. Offsets play no part here.
-/

namespace Reveille.Text

/-- The words of a text: its parts between blanks, the empty ones left out. -/
def wordChars (s : List Char) : List (List Char) :=
  (s.splitOnP isBlank).filter (· ≠ [])

/-! ### Separators -/

theorem map_chars_splitFrom (sep : Char) (offset : Nat) (s : List Char) :
    (splitFrom sep offset s).map Piece.chars = s.splitOn sep := by
  induction s generalizing offset with
  | nil => rfl
  | cons c cs ih =>
    have later := ih (offset + c.utf8Size)
    rw [List.splitOn_cons_eq_if_modifyHead, ← later, splitFrom]
    by_cases same : c = sep
    · simp [same]
    · simp only [same, if_false, beq_iff_eq]
      cases found : splitFrom sep (offset + c.utf8Size) cs with
      | nil => simp [found] at later
      | cons p ps => rfl

theorem map_chars_split (sep : Char) (s : List Char) :
    (split sep s).map Piece.chars = s.splitOn sep :=
  map_chars_splitFrom sep 0 s

/-- Parts without the separator are the parts of the text they make up with it. -/
theorem splitOn_eq_iff {sep : Char} {s : List Char} {parts : List (List Char)}
    (clean : ∀ p ∈ parts, sep ∉ p) (some : parts ≠ []) :
    s.splitOn sep = parts ↔ s = [sep].intercalate parts := by
  constructor
  · rintro rfl
    exact (List.intercalate_splitOn sep).symm
  · rintro rfl
    exact List.splitOn_intercalate sep clean some

theorem notMem_of_mem_splitOn {sep : Char} {s part : List Char} (mem : part ∈ s.splitOn sep) :
    sep ∉ part := by
  induction s generalizing part with
  | nil =>
    obtain rfl : part = [] := by simpa using mem
    exact List.not_mem_nil
  | cons c cs ih =>
    rw [List.splitOn_cons_eq_if_modifyHead] at mem
    split at mem
    · rcases List.mem_cons.mp mem with rfl | mem
      · exact List.not_mem_nil
      · exact ih mem
    · next other =>
      cases parts : cs.splitOn sep with
      | nil =>
        rw [parts] at mem
        cases mem
      | cons first later =>
        rw [parts, List.modifyHead_cons] at mem
        rw [parts] at ih
        rcases List.mem_cons.mp mem with rfl | mem
        · rw [List.mem_cons, not_or]
          exact ⟨fun same => other (by simp [same]), ih List.mem_cons_self⟩
        · exact ih (List.mem_cons_of_mem _ mem)

/-! ### Words -/

theorem map_chars_wordsFrom (offset : Nat) (s : List Char) :
    (wordsFrom offset s).map Piece.chars = wordChars s := by
  induction s generalizing offset with
  | nil => rfl
  | cons c cs ih =>
    have later := ih (offset + c.utf8Size)
    simp only [wordChars] at later
    simp only [wordChars, List.splitOnP_cons_eq_if_modifyHead, wordsFrom]
    by_cases blank : isBlank c = true
    · simpa [blank] using later
    · rw [if_neg blank, if_neg blank]
      cases cs with
      | nil => simp [wordsFrom]
      | cons d ds =>
        -- `c` is a word of its own exactly if a blank follows it.
        by_cases next : isBlank d = true
        · rw [List.splitOnP_cons_eq_if_modifyHead, if_pos next] at later ⊢
          simpa [next] using later
        · rw [List.splitOnP_cons_eq_if_modifyHead, if_neg next] at later ⊢
          cases parts : ds.splitOnP isBlank with
          | nil => simp at parts
          | cons p ps =>
            simp only [parts, List.modifyHead_cons] at later ⊢
            cases found : wordsFrom (offset + c.utf8Size) (d :: ds) with
            | nil => simp [found] at later
            | cons w ws =>
              simp only [found, List.map_cons] at later
              simpa [next] using later

theorem map_chars_words (s : List Char) : (words s).map Piece.chars = wordChars s :=
  map_chars_wordsFrom 0 s

theorem exists_word_of_mem {c : Char} {s : List Char} (mem : c ∈ s) (solid : isBlank c = false) :
    ∃ w ∈ wordChars s, c ∈ w := by
  have part : ∃ p ∈ s.splitOnP isBlank, c ∈ p := by
    induction s with
    | nil => cases mem
    | cons d ds ih =>
      rw [List.splitOnP_cons_eq_if_modifyHead]
      cases parts : ds.splitOnP isBlank with
      | nil => simp at parts
      | cons p ps =>
        rw [parts] at ih
        rcases List.mem_cons.mp mem with rfl | later
        · simp [solid]
        · obtain ⟨q, hq, hc⟩ := ih later
          split
          · exact ⟨q, List.mem_cons_of_mem _ hq, hc⟩
          · rcases List.mem_cons.mp hq with rfl | hq
            · exact ⟨d :: q, List.mem_cons_self, List.mem_cons_of_mem _ hc⟩
            · exact ⟨q, List.mem_cons_of_mem _ hq, hc⟩
  obtain ⟨p, hp, hc⟩ := part
  exact ⟨p, List.mem_filter.mpr ⟨hp, by simpa using List.ne_nil_of_mem hc⟩, hc⟩

theorem wordChars_append_blank {w : List Char} (solid : ∀ c ∈ w, isBlank c = false)
    (some : w ≠ []) {b : Char} (blank : isBlank b = true) (rest : List Char) :
    wordChars (w ++ b :: rest) = w :: wordChars rest := by
  rw [wordChars, List.splitOnP_append_cons_of_forall_mem solid b blank rest]
  simp [some, wordChars]

theorem splitOnP_concat {c : Char} (solid : isBlank c = false) (s : List Char) :
    ∃ front last, s.splitOnP isBlank = front ++ [last] ∧
      (s ++ [c]).splitOnP isBlank = front ++ [last ++ [c]] := by
  induction s with
  | nil => exact ⟨[], [], rfl, by simp [List.splitOnP_cons_eq_if_modifyHead, solid]⟩
  | cons d ds ih =>
    obtain ⟨front, last, before, after⟩ := ih
    rw [List.cons_append, List.splitOnP_cons_eq_if_modifyHead, List.splitOnP_cons_eq_if_modifyHead,
      before, after]
    split
    · exact ⟨[] :: front, last, rfl, rfl⟩
    · cases front with
      | nil => exact ⟨[], d :: last, rfl, rfl⟩
      | cons p ps => exact ⟨(d :: p) :: ps, last, rfl, rfl⟩

/-- Of two or more words the first does not feel what is set at the end. -/
theorem head?_wordChars_concat {c : Char} (solid : isBlank c = false) {s : List Char}
    (two : 2 ≤ (wordChars s).length) :
    (wordChars (s ++ [c])).head? = (wordChars s).head? := by
  obtain ⟨front, last, before, after⟩ := splitOnP_concat solid s
  simp only [wordChars, before, after, List.filter_append] at two ⊢
  have short : ([last].filter (· ≠ [])).length ≤ 1 := List.length_filter_le _ _
  cases words : front.filter (· ≠ []) with
  | nil =>
    rw [words, List.nil_append] at two
    omega
  | cons w ws => rfl

/-! ### Trimming -/

theorem trimEnd_cons (c : Char) (s : List Char) :
    trimEnd (c :: s) = if isBlank c = true ∧ trimEnd s = [] then [] else c :: trimEnd s := by
  unfold trimEnd
  rw [List.reverse_cons, List.dropWhile_append]
  by_cases rest : s.reverse.dropWhile isBlank = []
  · by_cases blank : isBlank c = true <;> simp [rest, blank]
  · simp [rest]

theorem trimStart_trimEnd (s : List Char) : trimStart (trimEnd s) = trim s := by
  unfold trim
  induction s with
  | nil => rfl
  | cons c cs ih =>
    rw [trimEnd_cons]
    by_cases blank : isBlank c = true
    · have skip : trimStart (c :: cs) = trimStart cs := by simp [trimStart, blank]
      rw [skip, ← ih]
      by_cases rest : trimEnd cs = []
      · simp [blank, rest]
      · simp [rest, trimStart, blank]
    · have stop : trimStart (c :: cs) = c :: cs := by simp [trimStart, blank]
      rw [stop, trimEnd_cons]
      simp [blank, trimStart]

theorem mem_trim {c : Char} {s : List Char} (mem : c ∈ s) (solid : isBlank c = false) :
    c ∈ trim s := by
  have start : ∀ {t : List Char}, c ∈ t → c ∈ t.dropWhile isBlank := by
    intro t ht
    rw [← List.takeWhile_append_dropWhile (p := isBlank) (l := t)] at ht
    rcases List.mem_append.mp ht with front | back
    · rw [List.mem_takeWhile_imp front] at solid
      cases solid
    · exact back
  exact List.mem_reverse.mpr (start (List.mem_reverse.mpr (start mem)))

theorem trim_eq_nil_iff {s : List Char} : trim s = [] ↔ ∀ c ∈ s, isBlank c = true := by
  constructor
  · intro none c mem
    by_contra solid
    have left := mem_trim mem (Bool.eq_false_iff.mpr solid)
    rw [none] at left
    cases left
  · intro blank
    rw [trim, trimStart, List.dropWhile_eq_nil_iff.mpr blank]
    rfl

/-- A text has no words exactly if nothing is left of it without its blanks. -/
theorem trim_of_ends {c d : Char} (first : isBlank c = false) (last : isBlank d = false)
    (s : List Char) : trim (c :: s ++ [d]) = c :: s ++ [d] := by
  have start : trimStart (c :: s ++ [d]) = c :: s ++ [d] := by
    rw [trimStart, List.cons_append, List.dropWhile_cons_of_neg (by simp [first])]
  rw [trim, start, trimEnd, List.reverse_append, List.reverse_singleton, List.singleton_append,
    List.dropWhile_cons_of_neg (by simp [last]), List.reverse_cons, List.reverse_reverse]

theorem words_eq_nil_iff {s : List Char} : words s = [] ↔ trim s = [] := by
  rw [trim_eq_nil_iff, ← List.map_eq_nil_iff (f := Piece.chars), map_chars_words]
  constructor
  · intro none c mem
    by_contra solid
    obtain ⟨w, word, -⟩ := exists_word_of_mem mem (Bool.eq_false_iff.mpr solid)
    rw [none] at word
    cases word
  · intro blank
    rw [← map_chars_words, words]
    generalize 0 = offset
    induction s generalizing offset with
    | nil => rfl
    | cons c cs ih =>
      rw [List.forall_mem_cons] at blank
      rw [wordsFrom, if_pos blank.1]
      exact ih blank.2 _

theorem Piece.chars_trim (p : Piece) : p.trim.chars = Text.trim p.chars := by
  unfold Piece.trim
  split
  · next none => exact none.symm
  · rfl

end Reveille.Text
