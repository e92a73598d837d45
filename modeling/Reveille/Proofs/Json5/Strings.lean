import Reveille.Json.Printer
import Reveille.Json5.Fault
import Reveille.Json5.Lexeme

/-!
# JSON strings as JSON5

A string that is printed as JSON is read as JSON5 with the same characters, unless it has a line
or paragraph separator: these stand for themselves in JSON, and end the line in JSON5.
-/

namespace Reveille.Json5

open Reveille.Json Reveille.Text

/-- The characters that JSON does not escape and that a JSON5 string may not hold. -/
def isSeparator (c : Char) : Bool :=
  c = '\u2028' || c = '\u2029'

/-- What a printed character is read as. -/
def printedFragment (c : Char) : Fragment :=
  if c = '"' then .escaped '"'
  else if c = '\\' then .escaped '\\'
  else if c = '\x08' then .escaped 'b'
  else if c = '\t' then .escaped 't'
  else if c = '\n' then .escaped 'n'
  else if c = '\x0c' then .escaped 'f'
  else if c = '\r' then .escaped 'r'
  else if c.toNat < 0x20 then .unit c.toNat
  else .char c

/-- The letters after a backslash in printed strings. -/
def letters : List Char := ['"', '\\', 'b', 't', 'n', 'f', 'r']

/-- The ways in which a character is printed within quotes. -/
inductive Printed (c : Char) : Prop where
  | letter (l : Char) (known : l ∈ letters) (meaning : escapeMeaning l = c)
    (written : escapedChar c = ['\\', l]) (read : printedFragment c = .escaped l)
  | number (control : c.toNat < 0x20)
    (written : escapedChar c = "\\u00".toList ++ hexByte (UInt8.ofNat c.toNat))
    (read : printedFragment c = .unit c.toNat)
  | plain (noQuote : c ≠ '"') (noBackslash : c ≠ '\\') (noEnd : isLineEnd c = isSeparator c)
    (written : escapedChar c = [c]) (read : printedFragment c = .char c)

theorem printed (c : Char) : Printed c := by
  have letter : ∀ l ∈ letters, Printed (escapeMeaning l) := by
    have forms : ∀ l ∈ letters, escapedChar (escapeMeaning l) = ['\\', l] ∧
        printedFragment (escapeMeaning l) = .escaped l := by
      simp only [letters, List.forall_mem_cons, List.not_mem_nil, false_imp_iff, implies_true]
      decide
    exact fun l known => .letter l known rfl (forms l known).1 (forms l known).2
  by_cases special : ∃ l ∈ letters, escapeMeaning l = c
  · obtain ⟨l, known, rfl⟩ := special
    exact letter l known
  · have other : ∀ l ∈ letters, c ≠ escapeMeaning l := fun l known same =>
      special ⟨l, known, same.symm⟩
    have noQuote : c ≠ '"' := other '"' (by decide)
    have noBackslash : c ≠ '\\' := other '\\' (by decide)
    have noBackspace : c ≠ '\x08' := other 'b' (by decide)
    have noTab : c ≠ '\t' := other 't' (by decide)
    have noFeed : c ≠ '\n' := other 'n' (by decide)
    have noPage : c ≠ '\x0c' := other 'f' (by decide)
    have noReturn : c ≠ '\r' := other 'r' (by decide)
    have written : escapedChar c =
        if c.toNat < 0x20 then "\\u00".toList ++ hexByte (UInt8.ofNat c.toNat) else [c] := by
      rw [escapedChar, if_neg noQuote, if_neg noBackslash, if_neg noBackspace, if_neg noTab,
        if_neg noFeed, if_neg noPage, if_neg noReturn]
    have read : printedFragment c = if c.toNat < 0x20 then .unit c.toNat else .char c := by
      rw [printedFragment, if_neg noQuote, if_neg noBackslash, if_neg noBackspace, if_neg noTab,
        if_neg noFeed, if_neg noPage, if_neg noReturn]
    by_cases control : c.toNat < 0x20
    · exact .number control (written.trans (if_pos control)) (read.trans (if_pos control))
    · refine .plain noQuote noBackslash ?_ (written.trans (if_neg control))
        (read.trans (if_neg control))
      simp [isLineEnd, isSeparator, noFeed, noReturn]

/-! ### Meaning -/

theorem chars_printedFragment (c : Char) (fs : List Fragment) :
    chars (printedFragment c :: fs) = (chars fs).map (c :: ·) := by
  cases printed c with
  | letter l _ meaning _ read => rw [read, ← meaning]; rfl
  | number control _ read =>
    have noTrail : isTrail c.toNat = false := by
      simp [isTrail]
      omega
    have noLead : isLead c.toNat = false := by
      simp [isLead]
      omega
    rw [read, chars.eq_def]
    simp only [noTrail, noLead, Char.ofNat_toNat, Bool.false_eq_true, if_false]
  | plain _ _ _ _ read => rw [read]; rfl

/-- What a printed text without separators is read as. -/
def printedText (s : String) : List Fragment :=
  s.toList.map printedFragment

theorem text_printedText (s : String) : text (printedText s) = .ok s := by
  have all : ∀ cs : List Char, chars (cs.map printedFragment) = .ok cs := by
    intro cs
    induction cs with
    | nil => rfl
    | cons c cs ih => rw [List.map_cons, chars_printedFragment, ih]; rfl
  rw [text, printedText, all, Except.map, String.ofList_toList]

/-! ### Reading -/

theorem hexValue?_hexDigit (n : Nat) : hexValue? (hexDigit n) = some (n % 16) := by
  have digit : ∀ d : Fin 16, hexValue? (Nat.digitChar d.val) = some d.val := by decide
  exact digit ⟨n % 16, Nat.mod_lt _ (by decide)⟩

theorem hex4?_control {n : Nat} (control : n < 0x20) (rest : List Char) :
    hex4? ("00".toList ++ hexByte (UInt8.ofNat n) ++ rest) = some (n, rest) := by
  have byte : (UInt8.ofNat n).toNat = n := UInt8.toNat_ofNat_of_lt (Nat.lt_trans control (by decide))
  have high : hex2? ("00".toList ++ hexByte (UInt8.ofNat n) ++ rest) =
      some (0, hexByte (UInt8.ofNat n) ++ rest) := rfl
  have low : hex2? (hexByte (UInt8.ofNat n) ++ rest) = some (n, rest) := by
    rw [hexByte, byte]
    simp only [List.cons_append, List.nil_append, hex2?, hexValue?_hexDigit]
    rw [show 16 * (n / 16 % 16) + n % 16 = n by omega]
  simp only [hex4?, high, Option.bind_some, low, Option.map_some, Nat.mul_zero, Nat.zero_add]

theorem escape_letter {l : Char} (known : l ∈ letters) (rest : List Char) :
    escape (l :: rest) = some ([.escaped l], rest) := by
  have all : ∀ l ∈ letters, ∀ rest, escape (l :: rest) = some ([.escaped l], rest) := by
    simp only [letters, List.forall_mem_cons]
    refine ⟨?_, ?_, ?_, ?_, ?_, ?_, ?_, by simp⟩ <;> exact fun _ => rfl
  exact all l known rest

theorem quotedUpTo_cons {quote c : Char} (noBackslash : c ≠ '\\') (n : Nat) (rest : List Char) :
    quotedUpTo quote (n + 1) (c :: rest) =
      if c = quote then some ([], rest)
      else if isLineEnd c then none
      else (quotedUpTo quote n rest).map fun (fs, rest) => (.char c :: fs, rest) := by
  rw [quotedUpTo.eq_def quote (n + 1)]
  dsimp only
  split
  · next none => cases none
  · next same => exact absurd (List.cons.inj same).1 noBackslash
  · next same =>
    obtain ⟨rfl, rfl⟩ := List.cons.inj same
    rfl

theorem quotedUpTo_backslash (quote : Char) (n : Nat) (rest : List Char) :
    quotedUpTo quote (n + 1) ('\\' :: rest) = (escape rest).bind fun (fs, rest) =>
      (quotedUpTo quote n rest).map fun (gs, rest) => (fs ++ gs, rest) :=
  rfl

theorem escape_number (rest : List Char) :
    escape ('u' :: rest) = (hex4? rest).map fun (n, rest) => ([.unit n], rest) :=
  rfl

theorem quotedUpTo_escapedChar (c : Char) (n : Nat) (rest : List Char) :
    quotedUpTo '"' (n + 1) (escapedChar c ++ rest) =
      if isSeparator c then none
      else (quotedUpTo '"' n rest).map fun (fs, rest) => (printedFragment c :: fs, rest) := by
  cases printed c with
  | letter l known meaning written read =>
    have plain : ∀ l ∈ letters, isSeparator (escapeMeaning l) = false := by
      simp only [letters, List.forall_mem_cons, List.not_mem_nil, false_imp_iff, implies_true]
      decide
    rw [written, read, List.cons_append, List.singleton_append, quotedUpTo_backslash,
      escape_letter known, ← meaning, plain l known]
    rfl
  | number control written read =>
    have plain : isSeparator c = false := by
      have other : ∀ n : Fin 32, isSeparator (Char.ofNat n.val) = false := by decide
      rw [← Char.ofNat_toNat c]
      exact other ⟨c.toNat, control⟩
    have opened : "\\u00".toList ++ hexByte (UInt8.ofNat c.toNat) ++ rest =
        '\\' :: 'u' :: ("00".toList ++ hexByte (UInt8.ofNat c.toNat) ++ rest) := rfl
    rw [written, read, opened, quotedUpTo_backslash, escape_number, hex4?_control control, plain]
    rfl
  | plain noQuote noBackslash noEnd written read =>
    rw [written, read, List.singleton_append, quotedUpTo_cons noBackslash, if_neg noQuote, noEnd]

theorem quotedUpTo_flatMap (s rest : List Char) {n : Nat} (enough : s.length < n) :
    quotedUpTo '"' n (s.flatMap escapedChar ++ '"' :: rest) =
      if s.any isSeparator then none else some (s.map printedFragment, rest) := by
  -- A character takes one unit of fuel, however many characters it is printed with.
  induction s generalizing n with
  | nil =>
    obtain ⟨n, rfl⟩ := Nat.exists_eq_succ_of_ne_zero (Nat.ne_zero_of_lt enough)
    rfl
  | cons c cs ih =>
    obtain ⟨n, rfl⟩ := Nat.exists_eq_succ_of_ne_zero (Nat.ne_zero_of_lt enough)
    rw [List.flatMap_cons, List.append_assoc, quotedUpTo_escapedChar,
      ih (Nat.lt_of_succ_lt_succ enough), List.any_cons]
    cases isSeparator c
    · cases cs.any isSeparator <;> rfl
    · rfl

theorem length_le_flatMap_escapedChar (s : List Char) :
    s.length ≤ (s.flatMap escapedChar).length := by
  have some : ∀ c, 1 ≤ (escapedChar c).length := by
    intro c
    cases printed c with
    | letter _ _ _ written _ => rw [written]; exact Nat.le_succ 1
    | number _ written _ => rw [written]; exact Nat.succ_pos _
    | plain _ _ _ written _ => rw [written]; exact Nat.le_refl 1
  induction s with
  | nil => exact Nat.le_refl _
  | cons c cs ih =>
    have := some c
    rw [List.flatMap_cons, List.length_append, List.length_cons]
    omega

/-- A printed string is read with its characters, unless one of them is a separator. -/
theorem string_quotedChars (s rest : List Char) :
    string (quotedChars s ++ rest) =
      if s.any isSeparator then none else some (s.map printedFragment, rest) := by
  have opened : string (quotedChars s ++ rest) =
      quotedUpTo '"' ((s.flatMap escapedChar ++ ['"'] ++ rest).length + 1)
        (s.flatMap escapedChar ++ ['"'] ++ rest) := rfl
  have long := length_le_flatMap_escapedChar s
  rw [opened, List.append_assoc, List.singleton_append, quotedUpTo_flatMap s rest]
  rw [List.length_append]
  omega

end Reveille.Json5
