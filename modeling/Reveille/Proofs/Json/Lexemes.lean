import Mathlib.Data.List.TakeWhile
import Reveille.Json.Reader
import Reveille.Proofs.Json5.Strings
import Reveille.Proofs.Outcomes
import Reveille.Proofs.Text.Digits

/-!
# Parts of printed JSON texts

Words, whole numbers and strings are read as they were printed, and reading goes on behind them.
Lines and columns matter to faults only: of a source that is read without fault, all that counts
is what is left of it.
-/

namespace Reveille.Json

open Reveille.Text

namespace Source

variable {s : Source} {c : Char} {cs : List Char}

theorem rest_advance (left : s.rest = c :: cs) : s.advance.rest = cs := by
  unfold advance
  rw [left]
  show (s.past c cs).rest = cs
  unfold past
  split <;> rfl

theorem rest_skipWhile (p : Char → Bool) (s : Source) :
    (s.skipWhile p).rest = s.rest.dropWhile p := by
  have go : ∀ (line column : Nat) (cs : List Char),
      (skipWhile.go p line column cs).rest = cs.dropWhile p := by
    intro line column cs
    induction cs generalizing line column with
    | nil => rfl
    | cons c cs ih =>
      unfold skipWhile.go
      by_cases held : p c = true
      · rw [if_pos held, List.dropWhile_cons_of_pos held]
        split
        · exact ih (line + 1) 0
        · exact ih line (column + c.utf8Size)
      · rw [if_neg held, List.dropWhile_cons_of_neg held]
  exact go s.line s.column s.rest

theorem skipBlanks_of_rest (left : s.rest = c :: cs) (solid : isBlank c = false) :
    s.skipBlanks = s := by
  obtain ⟨rest, line, column⟩ := s
  obtain rfl : rest = c :: cs := left
  show skipWhile.go isBlank line column (c :: cs) = _
  unfold skipWhile.go
  rw [solid]
  rfl

theorem rest_skipBytes {ds rest : List Char} (single : ∀ d ∈ ds, d.utf8Size = 1 ∧ d ≠ '\n')
    (left : s.rest = ds ++ rest) : (s.skipBytes ds.length).rest = rest := by
  have go : ∀ (line column : Nat) (ds : List Char), (∀ d ∈ ds, d.utf8Size = 1 ∧ d ≠ '\n') →
      (skipBytes.go ds.length line column (ds ++ rest)).rest = rest := by
    intro line column ds single
    induction ds generalizing line column with
    | nil => cases rest <;> rfl
    | cons d ds ih =>
      rw [List.forall_mem_cons] at single
      obtain ⟨⟨size, noFeed⟩, later⟩ := single
      rw [List.cons_append, List.length_cons]
      unfold skipBytes.go
      rw [if_neg (Nat.succ_ne_zero _), if_neg noFeed, size, if_pos (Nat.le_add_left 1 _)]
      exact ih line (column + 1) later
  obtain ⟨_, line, column⟩ := s
  obtain rfl := left
  exact go line column ds single

end Source

variable {s : Source} {rest : List Char}

theorem readWord_append {word : List Char} (left : s.rest = word ++ rest) :
    ∃ s', readWord word s = .ok s' ∧ s'.rest = rest := by
  induction word generalizing s with
  | nil => exact ⟨s, rfl, left⟩
  | cons w ws ih =>
    obtain ⟨s', read, after⟩ := ih (Source.rest_advance left)
    refine ⟨s', ?_, after⟩
    unfold readWord
    rw [left, List.cons_append]
    dsimp only
    rw [if_pos rfl, read]

/-! ### Strings -/

theorem utf8Size_hexDigit (n : Nat) : (hexDigit n).utf8Size = 1 ∧ hexDigit n ≠ '\n' := by
  have digit : ∀ d : Fin 16, (Nat.digitChar d.val).utf8Size = 1 ∧ Nat.digitChar d.val ≠ '\n' := by
    decide
  exact digit ⟨n % 16, Nat.mod_lt _ (by decide)⟩

theorem toNat_hexDigit (n : Nat) : 0x20 ≤ (hexDigit n).toNat := by
  have digit : ∀ d : Fin 16, 0x20 ≤ (Nat.digitChar d.val).toNat := by decide
  exact digit ⟨n % 16, Nat.mod_lt _ (by decide)⟩

theorem readHex_control {n : Nat} (control : n < 0x20)
    (left : s.rest = "00".toList ++ hexByte (UInt8.ofNat n) ++ rest) :
    ∃ s', readHex s = .ok (n, s') ∧ s'.rest = rest := by
  have byte : (UInt8.ofNat n).toNat = n := UInt8.toNat_ofNat_of_lt (Nat.lt_trans control (by decide))
  have four : s.rest = ['0', '0', hexDigit (n / 16), hexDigit n] ++ rest := by
    rw [left, hexByte, byte]
    rfl
  have single : ∀ d ∈ ['0', '0', hexDigit (n / 16), hexDigit n], d.utf8Size = 1 ∧ d ≠ '\n' := by
    simp only [List.forall_mem_cons, List.not_mem_nil, false_imp_iff, implies_true, and_true]
    exact ⟨by decide, by decide, utf8Size_hexDigit (n / 16), utf8Size_hexDigit n⟩
  have long : byteLength ['0', '0', hexDigit (n / 16), hexDigit n] = 4 := by
    simp only [byteLength, (utf8Size_hexDigit _).1]
    rfl
  have values : ['0', '0', hexDigit (n / 16), hexDigit n].mapM hexValue? =
      some [0, 0, n / 16 % 16, n % 16] := by
    simp only [List.mapM_cons, List.mapM_nil, Json5.hexValue?_hexDigit]
    rfl
  have taken : s.rest.take 4 = ['0', '0', hexDigit (n / 16), hexDigit n] := by
    rw [four]
    rfl
  have value : ((16 * 0 + 0) * 16 + n / 16 % 16) * 16 + n % 16 = n := by omega
  refine ⟨s.skipBytes 4, ?_, Source.rest_skipBytes single four⟩
  unfold readHex
  rw [taken, long, if_neg (Nat.lt_irrefl 4), values]
  dsimp only
  rw [value]

theorem readEscape_letter {l : Char} (known : l ∈ Json5.letters) (left : s.rest = l :: rest) :
    ∃ s', readEscape s = .ok (Json5.escapeMeaning l, s') ∧ s'.rest = rest := by
  have all : ∀ l ∈ Json5.letters, l ≠ 'u' ∧ escapeLetter? l = some (Json5.escapeMeaning l) := by
    simp only [Json5.letters, List.forall_mem_cons, List.not_mem_nil, false_imp_iff, implies_true]
    decide
  obtain ⟨noNumber, meaning⟩ := all l known
  refine ⟨s.advance, ?_, Source.rest_advance left⟩
  unfold readEscape
  rw [left]
  dsimp only
  rw [if_neg noNumber, meaning]

theorem readEscape_control {n : Nat} (control : n < 0x20)
    (left : s.rest = 'u' :: ("00".toList ++ hexByte (UInt8.ofNat n) ++ rest)) :
    ∃ s', readEscape s = .ok (Char.ofNat n, s') ∧ s'.rest = rest := by
  obtain ⟨s', hex, after⟩ := readHex_control control (Source.rest_advance left)
  have noTrail : isTrail n = false := by
    simp only [isTrail, Bool.and_eq_false_iff, decide_eq_false_iff_not]
    omega
  have noLead : isLead n = false := by
    simp only [isLead, Bool.and_eq_false_iff, decide_eq_false_iff_not]
    omega
  refine ⟨s', ?_, after⟩
  unfold readEscape
  rw [left]
  dsimp only
  rw [if_pos rfl]
  unfold readNumbered
  rw [hex]
  show (if isTrail n = true then _ else _ : Except Fault (Char × Source)) = _
  rw [if_neg (by rw [noTrail]; decide), if_pos (by rw [noLead]; decide)]
  rfl

theorem not_control_of_plain {c : Char} (plain : Json5.printedFragment c = .char c) :
    ¬c.toNat < 0x20 := by
  intro control
  unfold Json5.printedFragment at plain
  split_ifs at plain

theorem readQuoted_escapedChar (c : Char) (n : Nat) (left : s.rest = escapedChar c ++ rest) :
    ∃ s', s'.rest = rest ∧ readQuoted (n + 1) s = do
      let (cs, s) ← readQuoted n s'
      return (c :: cs, s) := by
  cases Json5.printed c with
  | letter l known meaning written read =>
    rw [written] at left
    obtain ⟨s', escape, after⟩ := readEscape_letter known (Source.rest_advance left)
    refine ⟨s', after, ?_⟩
    rw [readQuoted.eq_def]
    dsimp only
    rw [left]
    dsimp only [List.cons_append]
    rw [escape, meaning]
    rfl
  | number control written read =>
    rw [written] at left
    obtain ⟨s', escape, after⟩ := readEscape_control control (Source.rest_advance left)
    refine ⟨s', after, ?_⟩
    rw [Char.ofNat_toNat] at escape
    rw [readQuoted.eq_def]
    dsimp only
    rw [left]
    show (readEscape s.advance >>= _) = _
    rw [escape]
    rfl
  | plain noQuote noBackslash noEnd written read =>
    have noControl := not_control_of_plain read
    rw [written] at left
    refine ⟨s.advance, Source.rest_advance left, ?_⟩
    rw [readQuoted.eq_def]
    dsimp only
    rw [left, List.singleton_append]
    split
    · next none => cases none
    · next same => exact absurd (List.cons.inj same).1 noQuote
    · next same => exact absurd (List.cons.inj same).1 noBackslash
    · next same =>
      obtain ⟨rfl, -⟩ := List.cons.inj same
      rw [if_neg noControl]

theorem readQuoted_flatMap {text : List Char} {n : Nat} (enough : text.length < n)
    (left : s.rest = text.flatMap escapedChar ++ '"' :: rest) :
    ∃ s', readQuoted n s = .ok (text, s') ∧ s'.rest = rest := by
  -- A character takes one unit of fuel, however many characters it is printed with.
  induction text generalizing s n with
  | nil =>
    obtain ⟨n, rfl⟩ := Nat.exists_eq_succ_of_ne_zero (Nat.ne_zero_of_lt enough)
    refine ⟨s.advance, ?_, Source.rest_advance left⟩
    rw [readQuoted.eq_def]
    dsimp only
    rw [left]
    rfl
  | cons c cs ih =>
    obtain ⟨n, rfl⟩ := Nat.exists_eq_succ_of_ne_zero (Nat.ne_zero_of_lt enough)
    rw [List.flatMap_cons, List.append_assoc] at left
    obtain ⟨s', after, step⟩ := readQuoted_escapedChar c n left
    obtain ⟨s'', later, after'⟩ := ih (Nat.lt_of_succ_lt_succ enough) after
    refine ⟨s'', ?_, after'⟩
    rw [step, later]
    rfl

theorem readString_quotedChars {text : List Char} (left : s.rest = quotedChars text ++ rest) :
    ∃ s', readString s = .ok (String.ofList text, s') ∧ s'.rest = rest := by
  have opened : s.rest = '"' :: (text.flatMap escapedChar ++ '"' :: rest) := by
    rw [left, quotedChars, List.cons_append, List.cons_append, List.append_assoc]
    rfl
  have long := Json5.length_le_flatMap_escapedChar text
  have enough : text.length < s.rest.length := by
    rw [opened, List.length_cons, List.length_append]
    omega
  obtain ⟨s', read, after⟩ := readQuoted_flatMap enough (Source.rest_advance opened)
  refine ⟨s', ?_, after⟩
  unfold readString
  rw [read]
  rfl

/-- A printed string has no control characters. -/
theorem toNat_of_mem_quotedChars {text : List Char} {d : Char} (mem : d ∈ quotedChars text) :
    0x20 ≤ d.toNat := by
  have escaped : ∀ c, ∀ d ∈ escapedChar c, 0x20 ≤ d.toNat := by
    intro c
    cases Json5.printed c with
    | letter l known meaning written read =>
      have visible : ∀ l ∈ Json5.letters, 0x20 ≤ l.toNat := by simp [Json5.letters]
      rw [written, List.forall_mem_cons, List.forall_mem_singleton]
      exact ⟨by decide, visible l known⟩
    | number control written read =>
      rw [written, hexByte]
      simp only [List.forall_mem_append, List.forall_mem_cons, List.not_mem_nil, false_imp_iff,
        implies_true, and_true]
      exact ⟨by simp, toNat_hexDigit _, toNat_hexDigit _⟩
    | plain noQuote noBackslash noEnd written read =>
      rw [written, List.forall_mem_singleton]
      exact Nat.le_of_not_lt (not_control_of_plain read)
  rw [quotedChars] at mem
  rcases List.mem_append.mp mem with mem | last
  · rcases List.mem_cons.mp mem with rfl | mem
    · decide
    · obtain ⟨c, -, within⟩ := List.mem_flatMap.mp mem
      exact escaped c d within
  · obtain rfl := List.mem_singleton.mp last
    decide

/-! ### Numbers -/

/-- What may follow a number: nothing that could be a part of it. -/
def EndsNumber (rest : List Char) : Prop :=
  ∀ c ∈ rest.head?, c.isDigit = false ∧ c ≠ '.' ∧ c ≠ 'e' ∧ c ≠ 'E'

theorem takeDigits_eq {limit value : Nat} {cs : List Char}
    (small : cs.foldl (fun n c => 10 * n + decimalValue c) value ≤ limit) :
    takeDigits limit value cs =
      (cs.foldl (fun n c => 10 * n + decimalValue c) value, cs.length) := by
  induction cs generalizing value with
  | nil => rfl
  | cons c cs ih =>
    rw [List.foldl_cons] at small
    have grows := le_foldl_digits cs (10 * value + decimalValue c)
    unfold takeDigits
    dsimp only
    rw [if_pos (by omega), ih small]
    rfl

theorem readWhole_decimal {n : Nat} (ends : EndsNumber rest) (left : s.rest = decimal n ++ rest) :
    ∃ s', readWhole s = .ok (decimal n, s') ∧ s'.rest = rest := by
  have noDigit : ∀ c ∈ rest.head?, c.isDigit = false := fun c mem => (ends c mem).1
  have digits : s.rest.takeWhile Char.isDigit = decimal n := by
    rw [left, takeWhile_decimal noDigit]
  have after : (s.skipWhile Char.isDigit).rest = rest := by
    have whole := List.takeWhile_append_dropWhile (p := Char.isDigit) (l := s.rest)
    rw [digits, left] at whole
    rw [Source.rest_skipWhile, left]
    exact List.append_cancel_left whole
  refine ⟨s.skipWhile Char.isDigit, ?_, after⟩
  unfold readWhole
  rw [digits]
  split
  · next none => exact absurd none (decimal_ne_nil n)
  · next d ds same =>
    -- Only zero starts with a zero, and it has one digit.
    rcases Nat.eq_zero_or_pos n with rfl | pos
    · exact absurd (congrArg List.length same) (by simp [decimal])
    · have front := head?_decimal_ne_zero pos
      rw [same] at front
      exact absurd rfl front
  · rfl

theorem toNat_of_mem_intChars {n : Int} {d : Char} (mem : d ∈ intChars n) : 0x20 ≤ d.toNat := by
  rcases List.mem_append.mp mem with sign | digit
  · split at sign
    · obtain rfl := List.mem_singleton.mp sign
      decide
    · cases sign
  · have bounds := Char.isDigit_iff_toNat.mp (isDigit_of_mem_decimal digit)
    exact Nat.le_trans (by decide) bounds.1

theorem readNumber_intChars {n : Int} (low : -(Nat.pow 2 63 : Int) ≤ n) (high : n ≤ maxWord)
    (ends : EndsNumber rest) (left : s.rest = intChars n ++ rest) :
    ∃ s', readNumber s = .ok (.int n, s') ∧ s'.rest = rest := by
  have powers : Nat.pow 2 63 = 9223372036854775808 ∧ maxWord = 18446744073709551615 := ⟨rfl, rfl⟩
  have fits : n.natAbs ≤ maxWord := by omega
  have taken : takeDigits maxWord 0 (decimal n.natAbs) = (n.natAbs, (decimal n.natAbs).length) := by
    have value : (decimal n.natAbs).foldl (fun n c => 10 * n + decimalValue c) 0 = n.natAbs :=
      ofDigits_decimal n.natAbs
    rw [takeDigits_eq (by rw [value]; exact fits), value]
  obtain ⟨s₁, signed, digits, negative⟩ : ∃ s₁, (if s.peek? = some '-' then s.advance else s) = s₁ ∧
      s₁.rest = decimal n.natAbs ++ rest ∧ (s.peek? = some '-' ↔ n < 0) := by
    by_cases below : n < 0
    · have opened : s.rest = '-' :: (decimal n.natAbs ++ rest) := by
        rw [left, intChars, if_pos below]
        rfl
      have sign : s.peek? = some '-' := by rw [Source.peek?, opened, List.head?_cons]
      exact ⟨s.advance, if_pos sign, Source.rest_advance opened, iff_of_true sign below⟩
    · have opened : s.rest = decimal n.natAbs ++ rest := by
        rw [left, intChars, if_neg below]
        rfl
      have noSign : s.peek? ≠ some '-' := by
        obtain ⟨d, ds, written, digit, -⟩ := decimal_eq_cons n.natAbs
        rw [Source.peek?, opened, written]
        rintro ⟨⟩
        exact absurd digit (by decide)
      exact ⟨s, if_neg noSign, opened, iff_of_false noSign below⟩
  obtain ⟨s₂, whole, after⟩ := readWhole_decimal ends digits
  refine ⟨s₂, ?_, after⟩
  have noPoint : s₂.peek? ≠ some '.' := by
    intro point
    rw [Source.peek?, after] at point
    exact (ends '.' point).2.1 rfl
  have noExponent : ¬(s₂.peek? = some 'e' ∨ s₂.peek? = some 'E') := by
    rw [Source.peek?, after]
    rintro (letter | letter)
    · exact (ends 'e' letter).2.2.1 rfl
    · exact (ends 'E' letter).2.2.2 rfl
  unfold readNumber
  simp only [signed]
  refine bind_eq_ok_iff.mpr ⟨(decimal n.natAbs, s₂), whole, ?_⟩
  simp only [taken, Int.sub_self]
  rw [if_neg noPoint, if_neg (by simpa using noExponent)]
  by_cases below : n < 0
  · have least : ¬(n.natAbs = 0 ∨ Nat.pow 2 63 < n.natAbs) := by omega
    have value : -(n.natAbs : Int) = n := by omega
    rw [if_neg (not_not.mpr (negative.mpr below)), if_neg least, value]
    rfl
  · have value : (n.natAbs : Int) = n := by omega
    rw [if_pos (mt negative.mp below), value]
    rfl

end Reveille.Json
