import Mathlib.Data.List.DropRight
import Reveille.Json.Record
import Reveille.Proofs.Json.Reading

/-!
# Printed records

A record is read from an object that names its fields, each at most once and no required one
missing, as long as every field is read from the text of its member. What each field keeps of a
record, reading keeps.
-/

namespace Reveille.Json

open Reveille.Text

/-! ### Fields -/

namespace Takes

variable {α β : Type} {read : Reader α} {text : List Char} {a : α}

protected theorem map (takes : Takes read text a) (f : α → β) :
    Takes (fun s => (read s).map fun (v, s) => (f v, s)) text (f a) := by
  intro s rest ends left
  obtain ⟨s', taken, after⟩ := takes s rest ends left
  refine ⟨s', ?_, after⟩
  dsimp only
  rw [taken]
  rfl

theorem optional {c : Char} {cs : List Char} (takes : Takes read text a) (start : text = c :: cs)
    (solid : Source.isBlank c = false) (there : c ≠ 'n') : Takes (optional read) text (some a) := by
  intro s rest ends left
  obtain ⟨s', taken, after⟩ := takes s rest ends left
  have opened : s.rest = c :: (cs ++ rest) := by rw [left, start, List.cons_append]
  have next : s.peek? = some c := by rw [Source.peek?, opened, List.head?_cons]
  refine ⟨s', ?_, after⟩
  unfold Json.optional
  rw [Source.skipBlanks_of_rest opened solid]
  dsimp only
  rw [next, if_neg (by simpa using there), taken]
  rfl

theorem optional_null (read : Reader α) : Takes (Json.optional read) "null".toList none := by
  intro s rest _ left
  obtain ⟨s', taken, after⟩ := readWord_append left
  have opened : s.rest = 'n' :: ("ull".toList ++ rest) := by
    rw [left]
    rfl
  have next : s.peek? = some 'n' := by rw [Source.peek?, opened, List.head?_cons]
  refine ⟨s', ?_, after⟩
  unfold Json.optional
  rw [Source.skipBlanks_of_rest opened (by decide)]
  dsimp only
  rw [next, if_pos rfl, taken]
  rfl

end Takes

/-- What is read of a value that may be null, and is not, is no null. -/
theorem reader_of_optional {depth : Nat} {s s' : Source} {v : Value}
    (read : optional (Value.reader depth) s = .ok (some v, s')) : v.Fits depth ∧ v ≠ .null := by
  unfold optional at read
  dsimp only at read
  split at read
  · obtain ⟨s₁, -, made⟩ := map_eq_ok_iff.mp read
    cases made
  · next there =>
    obtain ⟨⟨v', s₁⟩, taken, made⟩ := map_eq_ok_iff.mp read
    cases made
    obtain ⟨fits, word⟩ := (fits_of_read _).1 taken
    refine ⟨fits, fun none => there ?_⟩
    have again : s.skipBlanks.skipBlanks.rest = s.skipBlanks.rest := by
      rw [Source.skipBlanks, Source.rest_skipWhile, Source.skipBlanks, Source.rest_skipWhile]
      exact List.dropWhile_idempotent _ _
    rw [Source.peek?, ← again]
    exact word none

theorem takes_quoted (t : String) : Takes string (quotedChars t.toList) t := by
  intro s rest _ left
  obtain ⟨s', read, after⟩ := readString_quotedChars left
  rw [String.ofList_toList] at read
  have opened : s.rest = '"' :: (t.toList.flatMap escapedChar ++ ['"'] ++ rest) := left
  have next : s.peek? = some '"' := by rw [Source.peek?, opened, List.head?_cons]
  refine ⟨s', ?_, after⟩
  unfold string
  rw [Source.skipBlanks_of_rest opened (by decide)]
  dsimp only
  rw [if_pos next, read]

theorem takes_int32 {n : Int} (low : -(Nat.pow 2 31 : Int) ≤ n) (high : n < Nat.pow 2 31) :
    Takes int32 (intChars n) n := by
  intro s rest ends left
  have fits : (Value.int n).Fits 0 := by
    have powers : Nat.pow 2 31 = 2147483648 ∧ Nat.pow 2 63 = 9223372036854775808 ∧
        maxWord = 18446744073709551615 := ⟨rfl, rfl, rfl⟩
    constructor <;> omega
  obtain ⟨c, cs, text, opens⟩ := Value.exists_cons_compactChars (v := .int n) trivial
  rw [Value.compactChars_int] at text
  have opened : s.rest = c :: (cs ++ rest) := by rw [left, text, List.cons_append]
  obtain ⟨s', read, after⟩ := Value.takes_int fits s rest ends left
  refine ⟨s', ?_, after⟩
  unfold int32
  rw [Source.skipBlanks_of_rest opened opens.solid.1]
  dsimp only
  rw [read]
  dsimp only
  rw [if_pos ⟨low, high⟩]

/-! ### Records from objects -/

namespace Shape

variable {α : Type} {shape : Shape α} {depth : Nat}

/-- Given the fields `seen` and a record, these members make another record. -/
inductive Fills (shape : Shape α) (depth : Nat) :
    List String → α → List (String × Value) → α → Prop where
  | done {seen : List String} {a : α}
      (complete : ∀ f ∈ shape.fields, f.required = true → f.name ∈ seen) : Fills shape depth seen a [] a
  | member {seen : List String} {a b : α} {key : String} {v : Value} {ms : List (String × Value)}
      {f : Field α} {set : α → α} (known : shape.fields.find? (·.name = key) = some f)
      (fresh : key ∉ seen) (takes : Takes (f.read depth) v.compactChars set)
      (later : Fills shape depth (key :: seen) (set a) ms b) :
      Fills shape depth seen a ((key, v) :: ms) b

/-- A member that is left out where there is nothing to print. -/
theorem Fills.ofOption {β : Type} {o : Option β} {value : β → Value} (set : Option β → α → α)
    {seen : List String} {a b : α} {key : String} {ms : List (String × Value)} {f : Field α}
    (known : shape.fields.find? (·.name = key) = some f) (fresh : key ∉ seen)
    (takes : ∀ v, o = some v → Takes (f.read depth) (value v).compactChars (set (some v)))
    (absent : set none a = a)
    (later : ∀ seen', seen ⊆ seen' → seen' ⊆ key :: seen → Fills shape depth seen' (set o a) ms b) :
    Fills shape depth seen a ((o.map fun v => (key, value v)).toList ++ ms) b := by
  cases o with
  | none =>
    have rest := later seen (List.Subset.refl _) (List.subset_cons_self _ _)
    rw [absent] at rest
    exact rest
  | some v =>
    have rest := later (key :: seen) (List.subset_cons_self _ _) (List.Subset.refl _)
    exact .member known fresh (takes v rfl) rest

theorem readMemberFields_end {n : Nat} {first : Bool} {seen : List String} {a : α} {s s₁ : Source}
    (last : readKey first s = .ok (none, s₁))
    (complete : ∀ f ∈ shape.fields, f.required = true → f.name ∈ seen) :
    shape.readMemberFields depth (n + 1) first seen a s = .ok (a, s₁.advance) := by
  have noneMissing : (shape.fields.find? fun f => f.required && !seen.contains f.name) = none := by
    rw [List.find?_eq_none]
    intro f mem missing
    have absent : f.required = true ∧ f.name ∉ seen := by simpa using missing
    exact absent.2 (complete f mem absent.1)
  rw [readMemberFields.eq_def]
  refine bind_eq_ok_iff.mpr ⟨(none, s₁), last, ?_⟩
  dsimp only
  rw [noneMissing]
  rfl

theorem readMemberFields_member {n : Nat} {first : Bool} {seen : List String} {a b : α}
    {s s₁ s₂ s₃ s₄ : Source} {key : String} {f : Field α} {set : α → α}
    (named : readKey first s = .ok (some key, s₁)) (colon : readColon s₁ = .ok s₂)
    (known : shape.fields.find? (·.name = key) = some f) (fresh : key ∉ seen)
    (taken : f.read depth s₂ = .ok (set, s₃))
    (later : shape.readMemberFields depth n false (key :: seen) (set a) s₃ = .ok (b, s₄)) :
    shape.readMemberFields depth (n + 1) first seen a s = .ok (b, s₄) := by
  rw [readMemberFields.eq_def]
  refine bind_eq_ok_iff.mpr ⟨(some key, s₁), named, ?_⟩
  dsimp only
  rw [known]
  dsimp only
  rw [if_neg fresh]
  exact bind_eq_ok_iff.mpr ⟨s₂, colon, bind_eq_ok_iff.mpr ⟨(set, s₃), taken, later⟩⟩

theorem Fills.readMemberFields {seen : List String} {a b : α} {ms : List (String × Value)}
    (fills : Fills shape depth seen a ms b) {n : Nat} (enough : ms.length < n) {s : Source}
    {rest : List Char} (left : s.rest = Value.membersChars ms ++ rest) :
    ∃ s', shape.readMemberFields depth n false seen a s = .ok (b, s') ∧ s'.rest = rest := by
  induction fills generalizing n s with
  | done complete =>
    obtain ⟨n, rfl⟩ := Nat.exists_eq_succ_of_ne_zero (Nat.ne_zero_of_lt enough)
    exact ⟨s.advance, readMemberFields_end (readKey_end false left) complete,
      Source.rest_advance left⟩
  | @member _ _ _ key v ms _ _ known fresh takes later ih =>
    obtain ⟨n, rfl⟩ := Nat.exists_eq_succ_of_ne_zero (Nat.ne_zero_of_lt enough)
    rw [Value.membersChars_cons, List.cons_append, List.append_assoc, List.cons_append,
      List.append_assoc] at left
    obtain ⟨s₁, named, colon⟩ := readKey_later left
    obtain ⟨s₃, taken, after⟩ := takes s₁.advance _ (Value.endsNumber_membersChars ms rest)
      (Source.rest_advance colon)
    obtain ⟨s₄, others, after'⟩ := ih (Nat.lt_of_succ_lt_succ enough) after
    exact ⟨s₄, readMemberFields_member named (readColon_cons colon) known fresh taken others, after'⟩

theorem length_le_membersChars (ms : List (String × Value)) :
    ms.length < (Value.membersChars ms).length := by
  induction ms with
  | nil => exact Nat.one_pos
  | cons m ms ih =>
    obtain ⟨k, v⟩ := m
    rw [Value.membersChars_cons]
    simp only [List.length_cons, List.length_append]
    omega

/-- A record that its members make is read from an object of them. -/
theorem Fills.takes {b : α} {ms : List (String × Value)} (deep : 1 < depth)
    (fills : Fills shape (depth - 1) [] shape.blank ms b) :
    Takes (shape.read depth) (Value.object ms).compactChars b := by
  intro s rest _ left
  have opened : ∃ cs, (Value.object ms).compactChars = '\x7b' :: cs := by
    cases ms with
    | nil => exact ⟨_, rfl⟩
    | cons m ms => exact ⟨_, rfl⟩
  obtain ⟨cs, text⟩ := opened
  have start : s.rest = '\x7b' :: (cs ++ rest) := by rw [left, text, List.cons_append]
  have next : s.peek? = some '\x7b' := by rw [Source.peek?, start, List.head?_cons]
  have object : shape.read depth s =
      shape.readMemberFields (depth - 1) s.steps true [] shape.blank s.advance := by
    unfold read
    rw [Source.skipBlanks_of_rest start (by decide)]
    dsimp only
    rw [next]
    show (if depth ≤ 1 then _ else _) = _
    rw [if_neg (by omega)]
  rw [object]
  cases fills with
  | done complete =>
    have inside := Source.rest_advance left
    exact ⟨s.advance.advance, readMemberFields_end (readKey_end true inside) complete,
      Source.rest_advance inside⟩
  | @member _ _ _ key v ms _ _ known fresh takes later =>
    have long := length_le_membersChars ms
    rw [Value.compactChars_object_cons, List.cons_append, List.append_assoc, List.cons_append,
      List.append_assoc] at left
    obtain ⟨n, steps⟩ : ∃ n, s.steps = n + 1 := ⟨2 * s.rest.length + 1, rfl⟩
    have enough : ms.length < n := by
      rw [Source.steps, left] at steps
      simp only [List.length_cons, List.length_append] at steps
      omega
    obtain ⟨s₁, named, colon⟩ := readKey_first (Source.rest_advance left)
    obtain ⟨s₃, taken, after⟩ := takes s₁.advance _ (Value.endsNumber_membersChars ms rest)
      (Source.rest_advance colon)
    obtain ⟨s₄, others, after'⟩ := later.readMemberFields enough after
    rw [steps]
    exact ⟨s₄, readMemberFields_member named (readColon_cons colon) known fresh taken others, after'⟩

/-! ### What reading keeps -/

section Keeps

variable {P : α → Prop}

theorem readItemFields_keeps {fs : List (Field α)} (keeps : ∀ f ∈ fs, ∀ {s s' : Source} {set : α → α},
      f.read depth s = .ok (set, s') → ∀ a, P a → P (set a))
    {i : Nat} {first : Bool} {a b : α} {s s' : Source} (start : P a)
    (read : shape.readItemFields depth i first fs a s = .ok (b, s')) : P b := by
  induction fs generalizing i first a s with
  | nil =>
    cases read
    exact start
  | cons f fs ih =>
    rw [List.forall_mem_cons] at keeps
    obtain ⟨keep, keepLater⟩ := keeps
    rw [readItemFields] at read
    obtain ⟨⟨more, s₁⟩, -, read⟩ := bind_eq_ok_iff.mp read
    dsimp only at read
    split at read
    · obtain ⟨⟨set, s₂⟩, taken, read⟩ := bind_eq_ok_iff.mp read
      exact ih keepLater (keep taken a start) read
    · split at read
      · cases read
      · exact ih keepLater start read

theorem readMemberFields_keeps (keeps : ∀ f ∈ shape.fields, ∀ {s s' : Source} {set : α → α},
      f.read depth s = .ok (set, s') → ∀ a, P a → P (set a))
    {n : Nat} {first : Bool} {seen : List String} {a b : α} {s s' : Source} (start : P a)
    (read : shape.readMemberFields depth n first seen a s = .ok (b, s')) : P b := by
  induction n generalizing first seen a s with
  | zero => cases read
  | succ n ih =>
    rw [readMemberFields.eq_def] at read
    obtain ⟨⟨key, s₁⟩, -, read⟩ := bind_eq_ok_iff.mp read
    dsimp only at read
    split at read
    · split at read
      · cases read
      · cases read
        exact start
    · split at read
      · next f known =>
        split at read
        · cases read
        · obtain ⟨s₂, -, read⟩ := bind_eq_ok_iff.mp read
          obtain ⟨⟨set, s₃⟩, taken, read⟩ := bind_eq_ok_iff.mp read
          exact ih (keeps f (List.mem_of_find?_eq_some known) taken a start) read
      · obtain ⟨s₂, -, read⟩ := bind_eq_ok_iff.mp read
        obtain ⟨⟨_, s₃⟩, -, read⟩ := bind_eq_ok_iff.mp read
        exact ih start read

/-- What the blank record has and every field keeps, a record that is read has. -/
theorem read_keeps (keeps : ∀ f ∈ shape.fields, ∀ {s s' : Source} {set : α → α},
      f.read (depth - 1) s = .ok (set, s') → ∀ a, P a → P (set a))
    {a : α} {s s' : Source} (start : P shape.blank) (read : shape.read depth s = .ok (a, s')) : P a := by
  unfold Shape.read at read
  dsimp only at read
  split at read
  · split at read
    · cases read
    · obtain ⟨⟨b, s₁⟩, items, read⟩ := bind_eq_ok_iff.mp read
      obtain ⟨s₂, -, read⟩ := bind_eq_ok_iff.mp read
      cases read
      exact readItemFields_keeps keeps start items
  · split at read
    · cases read
    · exact readMemberFields_keeps keeps start read
  · cases read

end Keeps

end Shape

end Reveille.Json
