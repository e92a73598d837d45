import Mathlib.Data.List.TakeWhile
import Reveille.Json.Printer
import Reveille.Json5.Reader
import Reveille.Proofs.Text.Digits

/-!
# Blanks and whole numbers in front of other text

A reader takes blanks up to the first character that is none, and a whole number up to the first
character that could not be a part of it.
-/

namespace Reveille.Json5

open Reveille.Json Reveille.Text

/-! ### Blanks -/

/-- A character that neither is a blank nor starts a comment. -/
def isSolid (c : Char) : Bool :=
  !isSpace c && c ≠ '/'

/-- A character that starts no comment is taken when it is a blank, and otherwise stays. -/
theorem skipSpaceUpTo_succ_cons {c : Char} (noSlash : c ≠ '/') (n : Nat) (s : List Char) :
    skipSpaceUpTo (n + 1) (c :: s) = if isSpace c then skipSpaceUpTo n s else c :: s := by
  rw [skipSpaceUpTo.eq_def]
  dsimp only
  split
  · next same => exact absurd (List.cons.inj same).1 noSlash
  · next same => exact absurd (List.cons.inj same).1 noSlash
  · next same =>
    obtain ⟨rfl, rfl⟩ := List.cons.inj same
    rfl
  · next none => cases none

theorem skipSpaceUpTo_of_isSolid {c : Char} (solid : isSolid c = true) (n : Nat) (s : List Char) :
    skipSpaceUpTo n (c :: s) = c :: s := by
  simp only [isSolid, Bool.and_eq_true, Bool.not_eq_true', decide_eq_true_eq] at solid
  obtain ⟨noSpace, noSlash⟩ := solid
  cases n with
  | zero => rfl
  | succ n => rw [skipSpaceUpTo_succ_cons noSlash, if_neg (Bool.eq_false_iff.mp noSpace)]

theorem skipSpaceUpTo_cons_of_isSpace {b : Char} (space : isSpace b = true) (n : Nat)
    (s : List Char) : skipSpaceUpTo (n + 1) (b :: s) = skipSpaceUpTo n s := by
  have noSlash : b ≠ '/' := by
    rintro rfl
    exact absurd space (by decide)
  rw [skipSpaceUpTo_succ_cons noSlash, if_pos space]

theorem skipSpace_append {blanks : List Char} (spaces : ∀ b ∈ blanks, isSpace b = true) {c : Char}
    (solid : isSolid c = true) (s : List Char) : skipSpace (blanks ++ c :: s) = c :: s := by
  have upTo : ∀ n, blanks.length ≤ n → skipSpaceUpTo n (blanks ++ c :: s) = c :: s := by
    induction blanks with
    | nil => exact fun n _ => skipSpaceUpTo_of_isSolid solid n s
    | cons b bs ih =>
      rw [List.forall_mem_cons] at spaces
      intro n enough
      obtain ⟨n, rfl⟩ := Nat.exists_eq_succ_of_ne_zero (Nat.ne_zero_of_lt enough)
      rw [List.cons_append, skipSpaceUpTo_cons_of_isSpace spaces.1]
      exact ih spaces.2 n (Nat.le_of_succ_le_succ enough)
  refine upTo _ ?_
  rw [List.length_append]
  omega

theorem skipSpace_of_isSolid {c : Char} (solid : isSolid c = true) (s : List Char) :
    skipSpace (c :: s) = c :: s :=
  skipSpaceUpTo_of_isSolid solid _ s

theorem isSpace_of_mem_lineBreak {level : Nat} {b : Char} (mem : b ∈ Value.lineBreak level) :
    isSpace b = true := by
  rcases List.mem_cons.mp mem with rfl | blank
  · decide
  · rw [List.eq_of_mem_replicate blank]
    decide

/-! ### Whole numbers -/

/-- What may follow a number: nothing, a comma or a line end. -/
def EndsNumber (s : List Char) : Prop :=
  ∀ c ∈ s.head?, c = ',' ∨ c = '\n'

theorem EndsNumber.nil : EndsNumber [] := by
  rintro c ⟨⟩

theorem EndsNumber.comma (s : List Char) : EndsNumber (',' :: s) := by
  rintro c ⟨⟩
  exact .inl rfl

theorem EndsNumber.lineEnd (s : List Char) : EndsNumber ('\n' :: s) := by
  rintro c ⟨⟩
  exact .inr rfl

theorem EndsNumber.noDigit {rest : List Char} (ends : EndsNumber rest) :
    ∀ c ∈ rest.head?, c.isDigit = false := by
  intro c first
  rcases ends c first with rfl | rfl <;> rfl

theorem exponent_of_endsNumber {rest : List Char} (ends : EndsNumber rest) :
    exponent rest = (none, rest) := by
  cases rest with
  | nil => rfl
  | cons c cs =>
    rcases ends c rfl with rfl | rfl <;> rfl

theorem decimalNumeral_decimal {rest : List Char} (ends : EndsNumber rest) (n : Nat) :
    decimalNumeral (decimal n ++ rest) = some (.decimal (decimal n) none none, rest) := by
  unfold decimalNumeral
  extract_lets whole left
  have front : whole = decimal n := by
    dsimp only [whole]
    split
    · next tail same =>
      rcases Nat.eq_zero_or_pos n with rfl | pos
      · rfl
      · obtain ⟨c, cs, written, -, noZero⟩ := decimal_eq_cons n
        rw [written] at same
        exact absurd (List.cons.inj same).1 (noZero pos)
    · exact takeWhile_decimal ends.noDigit n
  have back : left = rest := by
    dsimp only [left]
    rw [front]
    exact List.drop_left
  clear_value whole left
  subst front back
  split
  · rcases ends '.' rfl with h | h <;> cases h
  · rw [if_neg (decimal_ne_nil n), exponent_of_endsNumber ends]

theorem numeral_decimal {rest : List Char} (ends : EndsNumber rest) (n : Nat) :
    numeral (decimal n ++ rest) = some (.decimal (decimal n) none none, rest) := by
  unfold numeral
  extract_lets hex
  have noHex : hex = none := by
    dsimp only [hex]
    split
    · next x tail same =>
      -- An `x` would have to be the second character: of the digits, or of what follows a zero.
      refine if_neg fun ⟨marked, _⟩ => ?_
      rcases Nat.eq_zero_or_pos n with rfl | pos
      · have left : rest = x :: tail := (List.cons.inj same).2
        have follows : x = ',' ∨ x = '\n' := ends x (by rw [left]; rfl)
        rcases marked with rfl | rfl <;> revert follows <;> decide
      · obtain ⟨c, cs, written, -, noZero⟩ := decimal_eq_cons n
        rw [written] at same
        exact noZero pos (List.cons.inj same).1
    · rfl
  clear_value hex
  subst noHex
  simp only [decimalNumeral_decimal ends]

theorem sign_of_isDigit {c : Char} (digit : c.isDigit = true) (s : List Char) :
    sign (c :: s) = (.none, c :: s) := by
  unfold sign
  split
  · next same =>
    rw [(List.cons.inj same).1] at digit
    exact absurd digit (by decide)
  · next same =>
    rw [(List.cons.inj same).1] at digit
    exact absurd digit (by decide)
  · rfl

theorem sign_decimal (n : Nat) (rest : List Char) :
    sign (decimal n ++ rest) = (.none, decimal n ++ rest) := by
  obtain ⟨c, cs, written, digit, -⟩ := decimal_eq_cons n
  rw [written]
  exact sign_of_isDigit digit _

/-- What the reader makes of a printed whole number. -/
def printedNumber (n : Int) : Document :=
  .number (if n < 0 then .minus else .none) (.decimal (decimal n.natAbs) none none)

theorem number_intChars {rest : List Char} (ends : EndsNumber rest) (n : Int) :
    number (intChars n ++ rest) = some (printedNumber n, rest) := by
  unfold number intChars printedNumber
  have opened : sign ((if n < 0 then ['-'] else []) ++ decimal n.natAbs ++ rest) =
      (if n < 0 then .minus else .none, decimal n.natAbs ++ rest) := by
    by_cases negative : n < 0
    · rw [if_pos negative, if_pos negative]
      rfl
    · rw [if_neg negative, if_neg negative, List.nil_append, sign_decimal]
  rw [opened]
  dsimp only
  rw [numeral_decimal ends]
  rfl

end Reveille.Json5
