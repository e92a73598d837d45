import Mathlib.Data.List.Forall2
import Reveille.Proofs.Text.Digits
import Reveille.Proofs.Text.Utf8
import Reveille.Text.Slots

/-!
# Numbers read into slots

Filling reads every part that there is a slot for. A pair of hexadecimal digits is an octet, in
either case, and two bytes that are digits are two characters that are digits.
-/

namespace Reveille.Text

theorem fill_eq_some_iff {α : Type} {read : List Char → Option α} {slots values : List α}
    {parts : List (List Char)} (room : parts.length ≤ slots.length) :
    fill read slots parts = some values ↔
      ∃ front, List.Forall₂ (fun part value => read part = some value) parts front ∧
        values = front ++ slots.drop parts.length := by
  induction parts generalizing slots values with
  | nil => cases slots <;> simp [fill, eq_comm]
  | cons part parts ih =>
    cases slots with
    | nil => simp at room
    | cons slot slots =>
      have less : parts.length ≤ slots.length := Nat.le_of_succ_le_succ room
      rw [fill]
      constructor
      · intro h
        obtain ⟨value, first, h⟩ := Option.bind_eq_some_iff.mp h
        obtain ⟨rest, later, h⟩ := Option.bind_eq_some_iff.mp h
        cases h
        obtain ⟨front, reads, rfl⟩ := (ih less).mp later
        exact ⟨value :: front, .cons first reads, rfl⟩
      · rintro ⟨_, _ | ⟨first, reads⟩, rfl⟩
        rw [first, Option.bind_eq_bind, Option.bind_some, (ih less).mpr ⟨_, reads, rfl⟩]
        rfl

/-! ### Hexadecimal digits -/

/-- The digit of this value, in lower or in upper case. -/
def IsHexDigit (c : Char) (value : Nat) : Prop :=
  "0123456789abcdef".toList[value]? = some c ∨ "0123456789ABCDEF".toList[value]? = some c

instance (c : Char) (value : Nat) : Decidable (IsHexDigit c value) :=
  inferInstanceAs (Decidable (_ ∨ _))

/-- Two hexadecimal digits, the high one first. -/
def IsHexPair (s : List Char) (b : UInt8) : Prop :=
  ∃ high low h l, s = [high, low] ∧ IsHexDigit high h ∧ IsHexDigit low l ∧ b.toNat = 16 * h + l

theorem IsHexDigit.lt {c : Char} {value : Nat} (digit : IsHexDigit c value) : value < 16 := by
  rcases digit with h | h <;> exact (List.getElem?_eq_some_iff.mp h).1

/-- What holds of the 32 digits holds of every digit. -/
theorem IsHexDigit.elim {P : Char → Nat → Prop}
    (lower : ∀ v : Fin 16, P ("0123456789abcdef".toList.get ⟨v.val, v.isLt⟩) v)
    (upper : ∀ v : Fin 16, P ("0123456789ABCDEF".toList.get ⟨v.val, v.isLt⟩) v)
    {c : Char} {value : Nat} (digit : IsHexDigit c value) : P c value := by
  rcases digit with h | h
  · obtain ⟨small, rfl⟩ := List.getElem?_eq_some_iff.mp h
    exact lower ⟨value, small⟩
  · obtain ⟨small, rfl⟩ := List.getElem?_eq_some_iff.mp h
    exact upper ⟨value, small⟩

theorem toNat_lt_of_hexValue? {c : Char} {value : Nat} (h : hexValue? c = some value) :
    c.toNat < 128 := by
  unfold hexValue? at h
  split at h
  · next digit =>
    rw [Char.isDigit, Bool.and_eq_true, decide_eq_true_eq, decide_eq_true_eq] at digit
    have bound : c.toNat ≤ '9'.toNat := digit.2
    exact Nat.lt_of_le_of_lt bound (by decide)
  · split at h
    · next letter =>
      have bound : c.toNat ≤ 'f'.toNat := letter.2
      exact Nat.lt_of_le_of_lt bound (by decide)
    · split at h
      · next letter =>
        have bound : c.toNat ≤ 'F'.toNat := letter.2
        exact Nat.lt_of_le_of_lt bound (by decide)
      · cases h

theorem hexValue?_eq_some_iff {c : Char} {value : Nat} :
    hexValue? c = some value ↔ IsHexDigit c value := by
  constructor
  · intro h
    have known : ∀ n < 128, ∀ v ∈ hexValue? (Char.ofNat n), IsHexDigit (Char.ofNat n) v := by
      decide +kernel
    have here := known c.toNat (toNat_lt_of_hexValue? h)
    rw [Char.ofNat_toNat] at here
    exact here value h
  · intro digit
    exact digit.elim (P := fun c v => hexValue? c = some v) (by decide) (by decide)

theorem IsHexDigit.ne_plus {c : Char} {value : Nat} (digit : IsHexDigit c value) : c ≠ '+' :=
  digit.elim (P := fun c _ => c ≠ '+') (by decide) (by decide)

theorem readOctet?_of_isHexPair {s : List Char} {b : UInt8} (pair : IsHexPair s b) :
    readOctet? s = some b := by
  obtain ⟨high, low, h, l, rfl, first, second, value⟩ := pair
  have small := first.lt
  have small' := second.lt
  have start : readHex 255 [high, low] = readHexDigits 255 0 [high, low] := by
    unfold readHex
    split
    · next same => cases same
    · next same => cases same
    · next same => exact absurd (List.cons.inj same).1 first.ne_plus
    · rfl
  have read : readHexDigits 255 0 [high, low] = .ok b.toNat := by
    simp only [readHexDigits, hexValue?_eq_some_iff.mpr first, hexValue?_eq_some_iff.mpr second]
    rw [if_pos (by omega), if_pos (by omega)]
    exact congrArg Except.ok (by omega)
  rw [readOctet?, start, read]
  exact congrArg some UInt8.ofNat_toNat

/-! ### Printed octets -/

theorem isHexDigit_hexDigit (n : Nat) : IsHexDigit (hexDigit n) (n % 16) := by
  have digit : ∀ d : Fin 16, IsHexDigit (Nat.digitChar d.val) d.val := by decide
  exact digit ⟨n % 16, Nat.mod_lt _ (by decide)⟩

theorem isHexPair_hexByte (b : UInt8) : IsHexPair (hexByte b) b := by
  have bound := b.toNat_lt
  refine ⟨_, _, _, _, rfl, isHexDigit_hexDigit _, isHexDigit_hexDigit _, ?_⟩
  omega

theorem hexDigit_of_isHexDigit {c : Char} {value : Nat} (digit : IsHexDigit c value) :
    hexDigit value = c.toLower :=
  digit.elim (P := fun c v => hexDigit v = c.toLower) (by decide) (by decide)

/-- An octet is printed with the digits it was read from, in lower case. -/
theorem hexByte_of_isHexPair {s : List Char} {b : UInt8} (pair : IsHexPair s b) :
    hexByte b = s.map Char.toLower := by
  obtain ⟨high, low, h, l, rfl, first, second, value⟩ := pair
  have small := second.lt
  have upper : b.toNat / 16 = h := by omega
  have lower : hexDigit b.toNat = hexDigit l := by
    rw [hexDigit, hexDigit, value, Nat.mul_add_mod]
  rw [hexByte, upper, lower, hexDigit_of_isHexDigit first, hexDigit_of_isHexDigit second]
  rfl

/-! ### Fields of two bytes -/

theorem isDigit_iff {c : Char} : c.isDigit = true ↔ 48 ≤ c.toNat ∧ c.toNat ≤ 57 := by
  rw [Char.isDigit, Bool.and_eq_true, decide_eq_true_eq, decide_eq_true_eq]
  exact Iff.rfl

theorem utf8EncodeChar_of_isDigit {c : Char} (digit : c.isDigit = true) :
    String.utf8EncodeChar c = [UInt8.ofNat c.toNat] := by
  have bound := isDigit_iff.mp digit
  unfold String.utf8EncodeChar
  exact if_pos (show c.toNat ≤ 0x7f by omega)

/-- The bytes of a character are digits only if it is one. -/
theorem isDigit_iff_bytes {c : Char} :
    c.isDigit = true ↔ ∀ b ∈ String.utf8EncodeChar c, isDigitByte b = true := by
  constructor
  · intro digit b mem
    have bound := isDigit_iff.mp digit
    rw [utf8EncodeChar_of_isDigit digit, List.mem_singleton] at mem
    have small : c.toNat < 256 := by omega
    have toNat : (UInt8.ofNat c.toNat).toNat = c.toNat := UInt8.toNat_ofNat_of_lt small
    rw [mem, isDigitByte, toNat]
    simpa using bound
  · intro digits
    obtain ⟨b, bs, bytes⟩ := List.exists_cons_of_ne_nil (String.utf8EncodeChar_ne_nil (c := c))
    have mem : b ∈ String.utf8EncodeChar c := by
      rw [bytes]
      exact List.mem_cons_self
    have bound : 48 ≤ b.toNat ∧ b.toNat ≤ 57 := by simpa [isDigitByte] using digits b mem
    rw [toNat_of_mem_utf8EncodeChar mem (by omega)] at bound
    exact isDigit_iff.mpr bound

theorem all_isDigitByte_iff {s : List Char} :
    (utf8 (String.ofList s)).all isDigitByte = true ↔ ∀ c ∈ s, c.isDigit = true := by
  rw [utf8_eq_flatMap, String.toList_ofList, List.all_eq_true]
  constructor
  · intro all c mem
    refine isDigit_iff_bytes.mpr fun b byte => all b ?_
    exact List.mem_flatMap.mpr ⟨c, mem, byte⟩
  · intro all b mem
    obtain ⟨c, within, byte⟩ := List.mem_flatMap.mp mem
    exact isDigit_iff_bytes.mp (all c within) b byte

theorem length_utf8_of_digits {s : List Char} (digits : ∀ c ∈ s, c.isDigit = true) :
    (utf8 (String.ofList s)).length = s.length := by
  rw [utf8_eq_flatMap, String.toList_ofList]
  induction s with
  | nil => rfl
  | cons c cs ih =>
    rw [List.forall_mem_cons] at digits
    rw [List.flatMap_cons, List.length_append, ih digits.2, utf8EncodeChar_of_isDigit digits.1,
      List.length_singleton, List.length_cons, Nat.add_comm]

theorem readNat?_pair {a b : Char} (first : a.isDigit = true) (second : b.isDigit = true) :
    readNat? (Nat.pow 2 32 - 1) [a, b] = some (10 * decimalValue a + decimalValue b) := by
  have bound := isDigit_iff.mp first
  have bound' := isDigit_iff.mp second
  refine readNat?_eq_some_iff.mpr ⟨[a, b], .inl rfl, List.cons_ne_nil _ _, ?_, ?_, ?_⟩
  · simp [first, second]
  · simp [ofDigits]
  · have small : decimalValue a ≤ 9 := by
      show a.toNat - 48 ≤ 9
      omega
    have small' : decimalValue b ≤ 9 := by
      show b.toNat - 48 ≤ 9
      omega
    show _ ≤ 2 ^ 32 - 1
    omega

theorem readField?_eq_some_iff {s : List Char} {n : Nat} :
    readField? s = some n ↔ ∃ a b, s = [a, b] ∧ a.isDigit = true ∧ b.isDigit = true ∧
      10 * decimalValue a + decimalValue b = n := by
  unfold readField?
  constructor
  · intro h
    dsimp only at h
    split at h
    · next shape =>
      rw [Bool.and_eq_true, decide_eq_true_eq, all_isDigitByte_iff] at shape
      obtain ⟨two, digits⟩ := shape
      rw [length_utf8_of_digits digits] at two
      obtain ⟨a, b, rfl⟩ := List.length_eq_two.mp two
      have first : a.isDigit = true := digits a (by simp)
      have second : b.isDigit = true := digits b (by simp)
      rw [readNat?_pair first second] at h
      exact ⟨a, b, rfl, first, second, Option.some.inj h⟩
    · cases h
  · rintro ⟨a, b, rfl, first, second, rfl⟩
    have digits : ∀ c ∈ [a, b], c.isDigit = true := by simp [first, second]
    have shape : ((utf8 (String.ofList [a, b])).length = 2 &&
        (utf8 (String.ofList [a, b])).all isDigitByte) = true := by
      rw [Bool.and_eq_true, decide_eq_true_eq, all_isDigitByte_iff]
      exact ⟨length_utf8_of_digits digits, digits⟩
    exact (if_pos shape).trans (readNat?_pair first second)

end Reveille.Text
