import Reveille.Text.Digits

/-!
# Decimal numerals

`readNat?` reads exactly the numerals up to its limit: one or more digits after at most one `+`.
The digits that a number is printed with have its value, and none is idle but those that fill up a
fixed width.
-/

namespace Reveille.Text

/-- A text of digits, at most one `+` before them, whose value is at most the limit. -/
def IsNumeral (limit : Nat) (s : List Char) (n : Nat) : Prop :=
  ∃ digits, (s = digits ∨ s = '+' :: digits) ∧ digits ≠ [] ∧ (∀ d ∈ digits, d.isDigit = true) ∧
    ofDigits digits = n ∧ n ≤ limit

theorem le_foldl_digits (cs : List Char) (value : Nat) :
    value ≤ cs.foldl (fun n c => 10 * n + decimalValue c) value := by
  induction cs generalizing value with
  | nil => exact Nat.le_refl _
  | cons c cs ih =>
    have step := ih (10 * value + decimalValue c)
    rw [List.foldl_cons]
    omega

theorem readDigits_eq_ok_iff {limit value n : Nat} {cs : List Char} (small : value ≤ limit) :
    readDigits limit value cs = .ok n ↔
      (∀ c ∈ cs, c.isDigit = true) ∧
        cs.foldl (fun n c => 10 * n + decimalValue c) value = n ∧ n ≤ limit := by
  induction cs generalizing value with
  | nil =>
    simp only [readDigits, Except.ok.injEq, List.not_mem_nil, false_implies, implies_true,
      List.foldl_nil, true_and]
    exact ⟨fun h => ⟨h, h ▸ small⟩, And.left⟩
  | cons c cs ih =>
    rw [readDigits, List.forall_mem_cons, List.foldl_cons]
    by_cases digit : c.isDigit = true
    · by_cases next : 10 * value + decimalValue c ≤ limit
      · simp only [digit, if_true, if_pos next, ih next, true_and]
      · have grows := le_foldl_digits cs (10 * value + decimalValue c)
        simp only [digit, if_true, if_neg next, reduceCtorEq, true_and, false_iff]
        rintro ⟨-, rfl, bound⟩
        exact next (Nat.le_trans grows bound)
    · simp [digit]

theorem readNat?_eq_some_iff {limit n : Nat} {s : List Char} :
    readNat? limit s = some n ↔ IsNumeral limit s n := by
  have plain : ∀ cs : List Char, (readDigits limit 0 cs).toOption = some n ↔
      (∀ c ∈ cs, c.isDigit = true) ∧ ofDigits cs = n ∧ n ≤ limit := by
    intro cs
    rw [ofDigits, ← readDigits_eq_ok_iff (Nat.zero_le limit)]
    cases readDigits limit 0 cs <;> simp [Except.toOption]
  unfold readNat? IsNumeral
  constructor
  · intro h
    unfold readNat at h
    split at h
    · cases h
    · cases h
    · next cs lone =>
      exact ⟨cs, .inr rfl, fun none => lone (by rw [none]), (plain cs).mp h⟩
    · next cs some _ _ => exact ⟨s, .inl rfl, some, (plain s).mp h⟩
  · rintro ⟨digits, shape, some, number⟩
    have read := (plain digits).mpr number
    rcases shape with rfl | rfl
    · unfold readNat
      split
      · exact absurd rfl some
      · exact absurd (number.1 '+' List.mem_cons_self) (by decide)
      · exact absurd (number.1 '+' List.mem_cons_self) (by decide)
      · exact read
    · cases digits with
      | nil => exact absurd rfl some
      | cons d ds => exact read

theorem readNat_eq_ok_iff {limit n : Nat} {s : List Char} :
    readNat limit s = .ok n ↔ IsNumeral limit s n := by
  rw [← readNat?_eq_some_iff, readNat?]
  cases readNat limit s <;> simp [Except.toOption]

/-! ### Printed numbers -/

theorem ofDigits_decimal (n : Nat) : ofDigits (decimal n) = n :=
  Nat.ofDigitChars_eq_foldl.symm.trans Nat.ofDigitChars_ten_toDigits

theorem isDigit_of_mem_decimal {n : Nat} {c : Char} (mem : c ∈ decimal n) : c.isDigit = true :=
  Nat.isDigit_of_mem_toDigits (by decide) (by decide) mem

theorem decimal_ne_nil (n : Nat) : decimal n ≠ [] :=
  Nat.toDigits_ne_nil

theorem takeWhile_decimal {rest : List Char} (ends : ∀ c ∈ rest.head?, c.isDigit = false) (n : Nat) :
    (decimal n ++ rest).takeWhile Char.isDigit = decimal n := by
  rw [List.takeWhile_append_of_pos fun _ mem => isDigit_of_mem_decimal mem]
  cases rest with
  | nil => exact List.append_nil _
  | cons c cs =>
    rw [List.takeWhile_cons_of_neg (by simp [ends c rfl]), List.append_nil]

/-- No idle zero stands in front. -/
theorem head?_decimal_ne_zero {n : Nat} (pos : 0 < n) : (decimal n).head? ≠ some '0' := by
  induction n using Nat.strongRecOn with
  | _ n ih =>
    unfold decimal at ih ⊢
    rw [Nat.toDigits_eq_if (by decide)]
    by_cases single : n < 10
    · have digit : ∀ d : Fin 10, 0 < d.val → d.val.digitChar ≠ '0' := by decide
      rw [if_pos single, List.head?_cons]
      exact fun same => digit ⟨n, single⟩ pos (Option.some.inj same)
    · have front := ih (n / 10) (by omega) (by omega)
      rw [if_neg single, List.head?_append]
      cases first : (Nat.toDigits 10 (n / 10)).head? with
      | none => exact absurd (List.head?_eq_none_iff.mp first) Nat.toDigits_ne_nil
      | some d =>
        rw [first] at front
        exact front

theorem decimal_eq_cons (n : Nat) :
    ∃ d ds, decimal n = d :: ds ∧ d.isDigit = true ∧ (0 < n → d ≠ '0') := by
  obtain ⟨d, ds, written⟩ := List.exists_cons_of_ne_nil (decimal_ne_nil n)
  have mem : d ∈ decimal n := by
    rw [written]
    exact List.mem_cons_self
  refine ⟨d, ds, written, isDigit_of_mem_decimal mem, ?_⟩
  intro pos zero
  have front := head?_decimal_ne_zero pos
  rw [written, List.head?_cons, zero] at front
  exact front rfl

theorem ofDigits_padded (width n : Nat) : ofDigits (padded width n).toList = n := by
  have idle : ∀ k, ofDigits (List.replicate k '0' ++ decimal n) = n := by
    intro k
    induction k with
    | zero => exact ofDigits_decimal n
    | succ k ih => exact ih
  rw [padded, String.toList_ofList]
  exact idle _

theorem length_padded {width n : Nat} (fits : (decimal n).length ≤ width) :
    (padded width n).toList.length = width := by
  rw [padded, String.toList_ofList, List.length_append, List.length_replicate]
  omega

theorem isDigit_of_mem_padded {width n : Nat} {c : Char} (mem : c ∈ (padded width n).toList) :
    c.isDigit = true := by
  rw [padded, String.toList_ofList] at mem
  rcases List.mem_append.mp mem with zero | mem
  · rw [List.eq_of_mem_replicate zero]
    rfl
  · exact isDigit_of_mem_decimal mem

theorem padded_ne_nil (width n : Nat) : (padded width n).toList ≠ [] := by
  rw [padded, String.toList_ofList]
  exact List.append_ne_nil_of_right_ne_nil _ (decimal_ne_nil n)

end Reveille.Text
