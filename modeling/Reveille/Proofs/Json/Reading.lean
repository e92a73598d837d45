import Mathlib.Data.List.Induction
import Reveille.Proofs.Json.Values

/-!
# Values that are read

Whatever is read fits: its whole numbers are of 64 bits, its objects are in the order of their
keys, and it nests no deeper than the reader goes.
-/

namespace Reveille.Json

open Reveille.Text

namespace Value

/-! ### Members -/

theorem mem_put {key : String} {value : Value} {ms : List (String × Value)} {m : String × Value}
    (mem : m ∈ put key value ms) : m = (key, value) ∨ m ∈ ms := by
  induction ms with
  | nil => exact .inl (List.mem_singleton.mp mem)
  | cons n ms ih =>
    obtain ⟨k, v⟩ := n
    rw [put] at mem
    split at mem
    · exact List.mem_cons.mp mem
    · split at mem
      · rcases List.mem_cons.mp mem with rfl | mem
        · exact .inl rfl
        · exact .inr (List.mem_cons_of_mem _ mem)
      · rcases List.mem_cons.mp mem with rfl | mem
        · exact .inr List.mem_cons_self
        · exact (ih mem).imp_right (List.mem_cons_of_mem _)

theorem pairwise_put {key : String} {value : Value} {ms : List (String × Value)}
    (sorted : (ms.map Prod.fst).Pairwise (· < ·)) :
    ((put key value ms).map Prod.fst).Pairwise (· < ·) := by
  induction ms with
  | nil => exact List.pairwise_singleton _ _
  | cons m ms ih =>
    obtain ⟨k, v⟩ := m
    rw [List.map_cons, List.pairwise_cons] at sorted
    obtain ⟨least, later⟩ := sorted
    rw [put]
    split
    · next before =>
      have below : ∀ k' ∈ k :: ms.map Prod.fst, key < k' := by
        refine List.forall_mem_cons.mpr ⟨before, ?_⟩
        intro k' mem
        exact String.lt_trans before (least k' mem)
      exact List.pairwise_cons.mpr ⟨below, List.pairwise_cons.mpr ⟨least, later⟩⟩
    · next notBefore =>
      split
      · next same =>
        subst same
        exact List.pairwise_cons.mpr ⟨least, later⟩
      · next other =>
        have after : k < key := by
          rcases Std.lt_trichotomy key k with before | same | after
          · exact absurd before notBefore
          · exact absurd same other
          · exact after
        refine List.pairwise_cons.mpr ⟨?_, ih later⟩
        intro k' mem
        obtain ⟨m, among, rfl⟩ := List.mem_map.mp mem
        rcases mem_put among with rfl | old
        · exact after
        · exact least m.1 (List.mem_map_of_mem old)

theorem find?_put (key other : String) (value : Value) (ms : List (String × Value)) :
    (put other value ms).find? (·.1 = key) =
      if other = key then some (other, value) else ms.find? (·.1 = key) := by
  induction ms with
  | nil =>
    rw [put, List.find?_cons]
    by_cases same : other = key <;> simp [same]
  | cons m ms ih =>
    rw [put]
    by_cases before : other < m.1
    · rw [if_pos before, List.find?_cons]
      by_cases same : other = key <;> simp [same]
    · rw [if_neg before]
      by_cases replaced : other = m.1
      · rw [if_pos replaced, List.find?_cons, List.find?_cons]
        by_cases same : other = key <;> simp [same, ← replaced]
      · rw [if_neg replaced, List.find?_cons, ih, List.find?_cons]
        by_cases same : other = key
        · have different : m.1 ≠ key := fun h => replaced (same.trans h.symm)
          simp [same, different]
        · simp [same]

/-- Of members of one key the last one counts. -/
theorem get?_ofMembers (key : String) (ms : List (String × Value)) :
    (ofMembers ms).get? key = (ms.reverse.find? (·.1 = key)).map (·.2) := by
  unfold ofMembers get?
  dsimp only
  congr 1
  induction ms using List.reverseRecOn with
  | nil => rfl
  | append_singleton ms m ih =>
    obtain ⟨other, value⟩ := m
    rw [List.foldl_append, List.reverse_append, List.foldl_cons, List.foldl_nil, find?_put, ih]
    show _ = ((other, value) :: ms.reverse).find? _
    rw [List.find?_cons]
    by_cases same : other = key <;> simp [same]

theorem ofMembers_eq (ms : List (String × Value)) : ∃ ns, ofMembers ms = .object ns ∧
    (ns.map Prod.fst).Pairwise (· < ·) ∧ ∀ n ∈ ns, n ∈ ms := by
  have go : ∀ ns : List (String × Value), (ns.map Prod.fst).Pairwise (· < ·) →
      ((ms.foldl (fun ms m => put m.1 m.2 ms) ns).map Prod.fst).Pairwise (· < ·) ∧
      ∀ n ∈ ms.foldl (fun ms m => put m.1 m.2 ms) ns, n ∈ ns ∨ n ∈ ms := by
    induction ms with
    | nil => exact fun ns sorted => ⟨sorted, fun n mem => .inl mem⟩
    | cons m ms ih =>
      intro ns sorted
      obtain ⟨inOrder, members⟩ := ih (put m.1 m.2 ns) (pairwise_put sorted)
      refine ⟨inOrder, ?_⟩
      intro n mem
      rcases members n mem with here | later
      · rcases mem_put here with rfl | old
        · exact .inr List.mem_cons_self
        · exact .inl old
      · exact .inr (List.mem_cons_of_mem _ later)
  obtain ⟨sorted, members⟩ := go [] List.Pairwise.nil
  exact ⟨_, rfl, sorted, fun n mem => (members n mem).resolve_left List.not_mem_nil⟩

theorem fits_ofMembers {depth : Nat} {ms : List (String × Value)} (deep : 1 < depth)
    (each : ∀ m ∈ ms, m.2.Fits (depth - 1)) : (ofMembers ms).Fits depth := by
  obtain ⟨ns, same, sorted, members⟩ := ofMembers_eq ms
  rw [same]
  exact ⟨deep, sorted, fitMembers_iff.mpr fun n mem => each n (members n mem)⟩

theorem exact_ofMembers {depth : Nat} {ms : List (String × Value)} (deep : 1 < depth)
    (each : ∀ m ∈ ms, m.2.Exact (depth - 1)) : (ofMembers ms).Exact depth := by
  have fits := fits_ofMembers deep fun m mem => (each m mem).fits
  obtain ⟨ns, same, -, members⟩ := ofMembers_eq ms
  rw [same] at fits ⊢
  exact ⟨fits, floatFreeMembers_iff.mpr fun n mem => (each n (members n mem)).free⟩

theorem exact_array {depth : Nat} {vs : List Value} (deep : 1 < depth)
    (each : ∀ v ∈ vs, v.Exact (depth - 1)) : (array vs).Exact depth where
  fits := ⟨deep, fitItems_iff.mpr fun v mem => (each v mem).fits⟩
  free := floatFreeItems_iff.mpr fun v mem => (each v mem).free

theorem exact_int {n depth : Nat} (small : n ≤ maxWord) : (int n).Exact depth where
  fits := ⟨by omega, Int.ofNat_le.mpr small⟩
  free := trivial

theorem exact_string (t : String) (depth : Nat) : (string t).Exact depth :=
  ⟨trivial, trivial⟩

end Value

/-! ### Scalars -/

section Scalars

variable {s s' : Source} {v : Value}

theorem takeDigits_le {limit value : Nat} (small : value ≤ limit) (cs : List Char) :
    (takeDigits limit value cs).1 ≤ limit := by
  induction cs generalizing value with
  | nil => exact small
  | cons c cs ih =>
    unfold takeDigits
    dsimp only
    split
    · next fits => exact ih fits
    · exact small

theorem float_of_floatOf {negative : Bool} {significand : Nat} {exponent : Int}
    (read : floatOf negative significand exponent s = .ok (v, s')) : ∃ x, v = .float x := by
  unfold floatOf at read
  split at read
  · cases read
    exact ⟨_, rfl⟩
  · cases read

theorem float_of_readExponent {negative : Bool} {significand : Nat} {exponent : Int}
    (read : readExponent negative significand exponent s = .ok (v, s')) : ∃ x, v = .float x := by
  unfold readExponent at read
  split at read
  · extract_lets s₁ down s₂ digits after at read
    clear_value s₂ after
    split at read
    · cases read
    · split at read
      · cases read
      · dsimp only at read
        split at read
        · split at read
          · cases read
          · cases read
            exact ⟨_, rfl⟩
        · exact float_of_floatOf read
  · exact float_of_floatOf read

theorem fits_readNumber (read : readNumber s = .ok (v, s')) (depth : Nat) :
    v.Fits depth ∧ v ≠ .null := by
  have float : (∃ x, v = .float x) → v.Fits depth ∧ v ≠ .null := by
    rintro ⟨x, rfl⟩
    exact ⟨trivial, by simp⟩
  unfold readNumber at read
  obtain ⟨⟨digits, s₁⟩, -, read⟩ := bind_eq_ok_iff.mp read
  dsimp only at read
  have fits := takeDigits_le (Nat.zero_le maxWord) digits
  generalize takeDigits maxWord 0 digits = taken at fits read
  obtain ⟨significand, count⟩ := taken
  dsimp only at fits read
  split at read
  · split at read
    · cases read
    · exact float (float_of_readExponent read)
  · split at read
    · exact float (float_of_readExponent read)
    · split at read
      · cases read
        refine ⟨⟨?_, ?_⟩, by simp⟩
        · omega
        · exact Int.ofNat_le.mpr fits
      · split at read
        · exact float (float_of_floatOf read)
        · next least =>
          cases read
          refine ⟨⟨?_, ?_⟩, by simp⟩
          · omega
          · omega

theorem fits_readScalar (read : readScalar s = .ok (v, s')) (depth : Nat) :
    v.Fits depth ∧ (v = .null → s.peek? = some 'n') := by
  unfold readScalar at read
  split at read
  · cases read
  · next c cs left =>
    have next : s.peek? = some c := by rw [Source.peek?, left, List.head?_cons]
    split at read
    · next letter =>
      obtain ⟨s₁, -, made⟩ := map_eq_ok_iff.mp read
      obtain ⟨rfl, -⟩ := Prod.mk.inj made
      exact ⟨trivial, fun _ => by rw [next, letter]⟩
    · split at read
      · obtain ⟨s₁, -, made⟩ := map_eq_ok_iff.mp read
        obtain ⟨rfl, -⟩ := Prod.mk.inj made
        exact ⟨trivial, by simp⟩
      · split at read
        · obtain ⟨s₁, -, made⟩ := map_eq_ok_iff.mp read
          obtain ⟨rfl, -⟩ := Prod.mk.inj made
          exact ⟨trivial, by simp⟩
        · split at read
          · obtain ⟨fits, some⟩ := fits_readNumber read depth
            exact ⟨fits, fun none => absurd none some⟩
          · split at read
            · obtain ⟨⟨t, s₁⟩, -, made⟩ := map_eq_ok_iff.mp read
              obtain ⟨rfl, -⟩ := Prod.mk.inj made
              exact ⟨trivial, by simp⟩
            · cases read

end Scalars

/-! ### Values -/

/-- A value that is read fits, and starts with the letter of its word if it is null. -/
theorem fits_of_read (n : Nat) :
    (∀ {depth : Nat} {s s' : Source} {v : Value}, readValue n depth s = .ok (v, s') →
      v.Fits depth ∧ (v = .null → s.skipBlanks.peek? = some 'n')) ∧
    (∀ {depth : Nat} {first : Bool} {s s' : Source} {vs : List Value},
      readItems n depth first s = .ok (vs, s') → Value.FitItems depth vs) ∧
    (∀ {depth : Nat} {first : Bool} {s s' : Source} {ms : List (String × Value)},
      readMembers n depth first s = .ok (ms, s') → Value.FitMembers depth ms) := by
  induction n with
  | zero =>
    refine ⟨?_, ?_, ?_⟩
    · intro depth s s' v read
      cases read
    · intro depth first s s' vs read
      cases read
    · intro depth first s s' ms read
      cases read
  | succ n ih =>
    obtain ⟨value, items, members⟩ := ih
    refine ⟨?_, ?_, ?_⟩
    · intro depth s s' v read
      rw [readValue.eq_def] at read
      dsimp only at read
      split at read
      · split at read
        · cases read
        · next deep =>
          obtain ⟨⟨vs, s₁⟩, inside, made⟩ := map_eq_ok_iff.mp read
          obtain ⟨rfl, -⟩ := Prod.mk.inj made
          exact ⟨⟨by omega, items inside⟩, by simp⟩
      · split at read
        · cases read
        · next deep =>
          obtain ⟨⟨ms, s₁⟩, inside, made⟩ := map_eq_ok_iff.mp read
          obtain ⟨rfl, -⟩ := Prod.mk.inj made
          have each := Value.fitMembers_iff.mp (members inside)
          exact ⟨Value.fits_ofMembers (by omega) each, by simp [Value.ofMembers]⟩
      · exact fits_readScalar read depth
    · intro depth first s s' vs read
      rw [readItems.eq_def] at read
      obtain ⟨⟨more, s₁⟩, -, read⟩ := bind_eq_ok_iff.mp read
      dsimp only at read
      split at read
      · obtain ⟨⟨v, s₂⟩, item, read⟩ := bind_eq_ok_iff.mp read
        obtain ⟨⟨vs, s₃⟩, later, read⟩ := bind_eq_ok_iff.mp read
        cases read
        exact ⟨(value item).1, items later⟩
      · cases read
        trivial
    · intro depth first s s' ms read
      rw [readMembers.eq_def] at read
      obtain ⟨⟨key, s₁⟩, -, read⟩ := bind_eq_ok_iff.mp read
      dsimp only at read
      split at read
      · cases read
        trivial
      · obtain ⟨s₂, -, read⟩ := bind_eq_ok_iff.mp read
        obtain ⟨⟨v, s₃⟩, item, read⟩ := bind_eq_ok_iff.mp read
        obtain ⟨⟨ms, s₄⟩, later, read⟩ := bind_eq_ok_iff.mp read
        cases read
        exact ⟨(value item).1, members later⟩

end Reveille.Json
