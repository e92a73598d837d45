import Reveille.Proofs.Json.Lexemes

/-!
# Printed JSON values

A value that is printed without blanks is read as it was, if a reader can return it at all and if
no number in it is of the floating-point format. Its text holds no control character, so it stays
on one line.
-/

namespace Reveille.Json

open Reveille.Text

namespace Value

mutual

/-- What is read where values may nest `depth - 1` levels deep: whole numbers are of 64 bits, and
the keys of objects are in order. -/
def Fits (depth : Nat) : Value → Prop
  | .null => True
  | .bool _ => True
  | .int n => -(Nat.pow 2 63 : Int) ≤ n ∧ n ≤ maxWord
  | .float _ => True
  | .string _ => True
  | .array vs => 1 < depth ∧ FitItems (depth - 1) vs
  | .object ms => 1 < depth ∧ (ms.map Prod.fst).Pairwise (· < ·) ∧ FitMembers (depth - 1) ms

def FitItems (depth : Nat) : List Value → Prop
  | [] => True
  | v :: vs => Fits depth v ∧ FitItems depth vs

def FitMembers (depth : Nat) : List (String × Value) → Prop
  | [] => True
  | (_, v) :: ms => Fits depth v ∧ FitMembers depth ms

end

mutual

/-- No number in the value is of the floating-point format. -/
def FloatFree : Value → Prop
  | .null => True
  | .bool _ => True
  | .int _ => True
  | .float _ => False
  | .string _ => True
  | .array vs => FloatFreeItems vs
  | .object ms => FloatFreeMembers ms

def FloatFreeItems : List Value → Prop
  | [] => True
  | v :: vs => FloatFree v ∧ FloatFreeItems vs

def FloatFreeMembers : List (String × Value) → Prop
  | [] => True
  | (_, v) :: ms => FloatFree v ∧ FloatFreeMembers ms

end

/-- What is printed and read again without a change. -/
structure Exact (depth : Nat) (v : Value) : Prop where
  fits : v.Fits depth
  free : v.FloatFree

theorem fitItems_iff {depth : Nat} {vs : List Value} : FitItems depth vs ↔ ∀ v ∈ vs, v.Fits depth := by
  induction vs with
  | nil => simp [FitItems]
  | cons v vs ih => rw [FitItems, ih, List.forall_mem_cons]

theorem fitMembers_iff {depth : Nat} {ms : List (String × Value)} :
    FitMembers depth ms ↔ ∀ m ∈ ms, m.2.Fits depth := by
  induction ms with
  | nil => simp [FitMembers]
  | cons m ms ih => rw [FitMembers, ih, List.forall_mem_cons]

theorem floatFreeItems_iff {vs : List Value} : FloatFreeItems vs ↔ ∀ v ∈ vs, v.FloatFree := by
  induction vs with
  | nil => simp [FloatFreeItems]
  | cons v vs ih => rw [FloatFreeItems, ih, List.forall_mem_cons]

theorem floatFreeMembers_iff {ms : List (String × Value)} :
    FloatFreeMembers ms ↔ ∀ m ∈ ms, m.2.FloatFree := by
  induction ms with
  | nil => simp [FloatFreeMembers]
  | cons m ms ih => rw [FloatFreeMembers, ih, List.forall_mem_cons]

/-! ### Members in order -/

theorem put_of_forall_lt {key : String} {value : Value} {ms : List (String × Value)}
    (below : ∀ m ∈ ms, m.1 < key) : put key value ms = ms ++ [(key, value)] := by
  induction ms with
  | nil => rfl
  | cons m ms ih =>
    obtain ⟨k, v⟩ := m
    rw [List.forall_mem_cons] at below
    obtain ⟨first, later⟩ := below
    have notBelow : ¬key < k := fun other => String.lt_irrefl key (String.lt_trans other first)
    have other : key ≠ k := by
      rintro rfl
      exact String.lt_irrefl key first
    rw [put, if_neg notBelow, if_neg other, ih later, List.cons_append]

theorem ofMembers_of_pairwise {ms : List (String × Value)}
    (sorted : (ms.map Prod.fst).Pairwise (· < ·)) : ofMembers ms = .object ms := by
  have go : ∀ ns : List (String × Value), ((ns ++ ms).map Prod.fst).Pairwise (· < ·) →
      ms.foldl (fun ms m => put m.1 m.2 ms) ns = ns ++ ms := by
    clear sorted
    induction ms with
    | nil =>
      intro ns _
      rw [List.append_nil]
      rfl
    | cons m ms ih =>
      intro ns sorted
      have below : ∀ n ∈ ns, n.1 < m.1 := by
        intro n mem
        rw [List.map_append, List.pairwise_append] at sorted
        exact sorted.2.2 n.1 (List.mem_map_of_mem mem) m.1 List.mem_cons_self
      rw [List.foldl_cons, put_of_forall_lt below, ih, List.append_assoc, List.singleton_append]
      rwa [List.append_assoc, List.singleton_append]
  rw [ofMembers, go [] sorted, List.nil_append]

end Value

/-! ### Between the parts of values -/

/-- The reader takes the text off the front of any source where no number could go on behind it,
and makes `a` of it. -/
def Takes {α : Type} (read : Reader α) (text : List Char) (a : α) : Prop :=
  ∀ s rest, EndsNumber rest → s.rest = text ++ rest → ∃ s', read s = .ok (a, s') ∧ s'.rest = rest

section Parts

variable {s : Source} {c : Char} {cs rest : List Char}

theorem endsNumber_cons (other : c ∈ [',', ']', '\x7d', '\n']) : EndsNumber (c :: cs) := by
  rintro d ⟨⟩
  simp only [List.mem_cons, List.not_mem_nil, or_false] at other
  obtain rfl | rfl | rfl | rfl := other <;> decide

theorem readItemStart_first (left : s.rest = c :: cs) (solid : Source.isBlank c = false)
    (more : c ≠ ']') : readItemStart true s = .ok (true, s) := by
  unfold readItemStart
  rw [Source.skipBlanks_of_rest left solid]
  dsimp only
  rw [left]
  dsimp only
  rw [if_neg more, if_pos rfl]

theorem readItemStart_later (left : s.rest = ',' :: c :: cs) (solid : Source.isBlank c = false)
    (more : c ≠ ']') : readItemStart false s = .ok (true, s.advance) := by
  have next := Source.rest_advance left
  unfold readItemStart
  rw [Source.skipBlanks_of_rest left (by decide)]
  dsimp only
  rw [left]
  dsimp only
  rw [if_neg (by decide), if_neg (by decide), if_pos rfl, Source.skipBlanks_of_rest next solid, next]
  dsimp only
  rw [if_neg more]

theorem readItemStart_end (first : Bool) (left : s.rest = ']' :: cs) :
    readItemStart first s = .ok (false, s) := by
  unfold readItemStart
  rw [Source.skipBlanks_of_rest left (by decide)]
  dsimp only
  rw [left]
  rfl

theorem readKey_first {key : String} (left : s.rest = quotedChars key.toList ++ rest) :
    ∃ s', readKey true s = .ok (some key, s') ∧ s'.rest = rest := by
  obtain ⟨s', read, after⟩ := readString_quotedChars left
  rw [String.ofList_toList] at read
  have opened : s.rest = '"' :: (key.toList.flatMap escapedChar ++ ['"'] ++ rest) := left
  refine ⟨s', ?_, after⟩
  unfold readKey
  rw [Source.skipBlanks_of_rest opened (by decide)]
  dsimp only
  rw [opened]
  dsimp only
  rw [if_neg (by decide), if_pos rfl, if_pos rfl, read]
  rfl

theorem readKey_later {key : String} (left : s.rest = ',' :: (quotedChars key.toList ++ rest)) :
    ∃ s', readKey false s = .ok (some key, s') ∧ s'.rest = rest := by
  have next := Source.rest_advance left
  obtain ⟨s', read, after⟩ := readString_quotedChars next
  rw [String.ofList_toList] at read
  have opened : s.advance.rest = '"' :: (key.toList.flatMap escapedChar ++ ['"'] ++ rest) := next
  refine ⟨s', ?_, after⟩
  unfold readKey
  rw [Source.skipBlanks_of_rest left (by decide)]
  dsimp only
  rw [left]
  dsimp only
  rw [if_neg (by decide), if_neg (by decide), if_pos rfl,
    Source.skipBlanks_of_rest opened (by decide), opened]
  dsimp only
  rw [if_pos rfl, read]
  rfl

theorem readKey_end (first : Bool) (left : s.rest = '\x7d' :: cs) :
    readKey first s = .ok (none, s) := by
  unfold readKey
  rw [Source.skipBlanks_of_rest left (by decide)]
  dsimp only
  rw [left]
  rfl

theorem readColon_cons (left : s.rest = ':' :: cs) : readColon s = .ok s.advance := by
  unfold readColon
  rw [Source.skipBlanks_of_rest left (by decide)]
  dsimp only
  rw [left]
  rfl

theorem readValue_scalar (n depth : Nat) (left : s.rest = c :: cs) (solid : Source.isBlank c = false)
    (flat : c ≠ '[' ∧ c ≠ '\x7b') : readValue (n + 1) depth s = readScalar s := by
  have next : s.peek? = some c := by rw [Source.peek?, left, List.head?_cons]
  rw [readValue.eq_def]
  dsimp only
  rw [Source.skipBlanks_of_rest left solid, next]
  split
  · next same => exact absurd (Option.some.inj same) flat.1
  · next same => exact absurd (Option.some.inj same) flat.2
  · rfl

theorem readValue_array {n depth : Nat} (left : s.rest = '[' :: cs) (deep : 1 < depth) :
    readValue (n + 1) depth s =
      (readItems n (depth - 1) true s.advance).map fun (vs, s) => (.array vs, s) := by
  have next : s.peek? = some '[' := by rw [Source.peek?, left, List.head?_cons]
  rw [readValue.eq_def]
  dsimp only
  rw [Source.skipBlanks_of_rest left (by decide), next]
  show (if depth ≤ 1 then _ else _) = _
  rw [if_neg (by omega)]

theorem readValue_object {n depth : Nat} (left : s.rest = '\x7b' :: cs) (deep : 1 < depth) :
    readValue (n + 1) depth s =
      (readMembers n (depth - 1) true s.advance).map fun (ms, s) => (.ofMembers ms, s) := by
  have next : s.peek? = some '\x7b' := by rw [Source.peek?, left, List.head?_cons]
  rw [readValue.eq_def]
  dsimp only
  rw [Source.skipBlanks_of_rest left (by decide), next]
  show (if depth ≤ 1 then _ else _) = _
  rw [if_neg (by omega)]

end Parts

/-! ### Values -/

namespace Value

section Text

variable (v : Value) (vs : List Value) (k : String) (ms : List (String × Value))

theorem compactChars_null : null.compactChars = "null".toList := rfl

theorem compactChars_true : (bool true).compactChars = "true".toList := rfl

theorem compactChars_false : (bool false).compactChars = "false".toList := rfl

theorem compactChars_int (n : Int) : (int n).compactChars = intChars n := rfl

theorem compactChars_array_nil : (array []).compactChars = ['[', ']'] := rfl

theorem compactChars_array_cons :
    (array (v :: vs)).compactChars = '[' :: (v.compactChars ++ itemsChars vs) := rfl

theorem compactChars_object_nil : (object []).compactChars = ['\x7b', '\x7d'] := rfl

theorem compactChars_object_cons : (object ((k, v) :: ms)).compactChars =
    '\x7b' :: (quotedChars k.toList ++ ':' :: (v.compactChars ++ membersChars ms)) := by
  show '\x7b' :: quotedChars k.toList ++ ':' :: v.compactChars ++ membersChars ms = _
  simp only [List.cons_append, List.append_assoc]

theorem itemsChars_nil : itemsChars [] = [']'] := rfl

theorem itemsChars_cons : itemsChars (v :: vs) = ',' :: (v.compactChars ++ itemsChars vs) := rfl

theorem membersChars_nil : membersChars [] = ['\x7d'] := rfl

theorem membersChars_cons : membersChars ((k, v) :: ms) =
    ',' :: (quotedChars k.toList ++ ':' :: (v.compactChars ++ membersChars ms)) := by
  show ',' :: quotedChars k.toList ++ ':' :: v.compactChars ++ membersChars ms = _
  simp only [List.cons_append, List.append_assoc]

end Text

theorem exists_compactChars_object (ms : List (String × Value)) :
    ∃ cs, (object ms).compactChars = '\x7b' :: cs ++ ['\x7d'] := by
  have last : ∀ ms, ∃ cs, membersChars ms = cs ++ ['\x7d'] := by
    intro ms
    induction ms with
    | nil => exact ⟨[], rfl⟩
    | cons m ms ih =>
      obtain ⟨k, v⟩ := m
      obtain ⟨cs, text⟩ := ih
      refine ⟨',' :: (quotedChars k.toList ++ ':' :: (v.compactChars ++ cs)), ?_⟩
      rw [membersChars_cons, text]
      simp only [List.cons_append, List.append_assoc]
  cases ms with
  | nil => exact ⟨[], rfl⟩
  | cons m ms =>
    obtain ⟨k, v⟩ := m
    obtain ⟨cs, text⟩ := last ms
    refine ⟨quotedChars k.toList ++ ':' :: (v.compactChars ++ cs), ?_⟩
    rw [compactChars_object_cons, text]
    simp only [List.cons_append, List.append_assoc]

/-- What a printed value may start with. -/
def Opens (c : Char) : Value → Prop
  | .null => c = 'n'
  | .bool b => c = if b then 't' else 'f'
  | .int _ => c = '-' ∨ c.isDigit = true
  | .float _ => False
  | .string _ => c = '"'
  | .array _ => c = '['
  | .object _ => c = '\x7b'

theorem exists_cons_compactChars {v : Value} (free : v.FloatFree) :
    ∃ c cs, v.compactChars = c :: cs ∧ v.Opens c := by
  cases v with
  | null => exact ⟨'n', _, by rw [compactChars_null]; rfl, rfl⟩
  | bool b =>
    cases b with
    | true => exact ⟨'t', _, by rw [compactChars_true]; rfl, rfl⟩
    | false => exact ⟨'f', _, by rw [compactChars_false]; rfl, rfl⟩
  | int n =>
    rw [compactChars_int, intChars]
    by_cases negative : n < 0
    · exact ⟨'-', _, by rw [if_pos negative]; rfl, .inl rfl⟩
    · obtain ⟨d, ds, written, digit, -⟩ := decimal_eq_cons n.natAbs
      exact ⟨d, ds, by rw [if_neg negative, List.nil_append, written], .inr digit⟩
  | float x => exact absurd free id
  | string s => exact ⟨'"', _, rfl, rfl⟩
  | array vs =>
    cases vs with
    | nil => exact ⟨'[', _, rfl, rfl⟩
    | cons v vs => exact ⟨'[', _, rfl, rfl⟩
  | object ms =>
    cases ms with
    | nil => exact ⟨'\x7b', _, rfl, rfl⟩
    | cons m ms => exact ⟨'\x7b', _, rfl, rfl⟩

theorem Opens.eq_null {v : Value} (opens : v.Opens 'n') : v = .null := by
  cases v with
  | null => rfl
  | bool b => cases b <;> simp [Opens] at opens
  | _ => simp [Opens] at opens

theorem Opens.solid {v : Value} {c : Char} (opens : v.Opens c) :
    Source.isBlank c = false ∧ c ≠ ']' := by
  have digits : c.isDigit = true → Source.isBlank c = false ∧ c ≠ ']' := by
    intro digit
    have others : ∀ d ∈ [' ', '\t', '\n', '\r', ']'], d.isDigit = false := by simp
    have other : ∀ d ∈ [' ', '\t', '\n', '\r', ']'], c ≠ d := by
      rintro d mem rfl
      exact Bool.false_ne_true ((others c mem).symm.trans digit)
    simp only [List.forall_mem_cons, List.not_mem_nil, false_imp_iff, implies_true, and_true] at other
    obtain ⟨noSpace, noTab, noFeed, noReturn, noBracket⟩ := other
    simp [Source.isBlank, noSpace, noTab, noFeed, noReturn, noBracket]
  cases v with
  | null =>
    obtain rfl := opens
    decide
  | bool b =>
    obtain rfl := opens
    cases b <;> decide
  | int n =>
    rcases opens with rfl | digit
    · decide
    · exact digits digit
  | float x => exact absurd opens id
  | string s =>
    obtain rfl := opens
    decide
  | array vs =>
    obtain rfl := opens
    decide
  | object ms =>
    obtain rfl := opens
    decide

/-! ### Scalars -/

/-- The words that values are named by. -/
def words : List (List Char × Value) :=
  [("null".toList, .null), ("true".toList, .bool true), ("false".toList, .bool false)]

theorem takes_word (word : List Char) (v : Value) (known : (word, v) ∈ words) :
    Takes readScalar word v := by
  have opened : ∀ w ∈ words, ∀ (s : Source) (rest : List Char), s.rest = w.1 ++ rest →
      readScalar s = (readWord w.1 s).map fun s => (w.2, s) := by
    simp only [words, List.forall_mem_cons, List.not_mem_nil, false_imp_iff, implies_true, and_true]
    refine ⟨?_, ?_, ?_⟩
    all_goals
      intro s rest left
      unfold readScalar
      rw [left]
      rfl
  intro s rest _ left
  obtain ⟨s', read, after⟩ := readWord_append left
  refine ⟨s', ?_, after⟩
  rw [opened (word, v) known s rest left, read]
  rfl

theorem takes_int {n : Int} {depth : Nat} (fits : (int n).Fits depth) :
    Takes readScalar (intChars n) (.int n) := by
  intro s rest ends left
  obtain ⟨c, cs, text, opens⟩ := exists_cons_compactChars (v := .int n) trivial
  rw [compactChars_int] at text
  have letters : ∀ d ∈ ['n', 't', 'f'], c ≠ d := by
    rintro d mem rfl
    have other : ∀ c ∈ ['n', 't', 'f'], ¬(c = '-' ∨ c.isDigit = true) := by simp
    exact other c mem opens
  simp only [List.forall_mem_cons, List.not_mem_nil, false_imp_iff, implies_true, and_true] at letters
  obtain ⟨s', read, after⟩ := readNumber_intChars fits.1 fits.2 ends left
  refine ⟨s', ?_, after⟩
  unfold readScalar
  rw [left, text]
  dsimp only [List.cons_append]
  rw [if_neg letters.1, if_neg letters.2.1, if_neg letters.2.2]
  exact (if_pos opens).trans read

theorem takes_string (t : String) : Takes readScalar (quotedChars t.toList) (.string t) := by
  intro s rest _ left
  obtain ⟨s', read, after⟩ := readString_quotedChars left
  rw [String.ofList_toList] at read
  refine ⟨s', ?_, after⟩
  unfold readScalar
  rw [left]
  show (readString s).map _ = _
  rw [read]
  rfl

theorem takes_of_scalar {v : Value} {n depth : Nat} (scalar : Takes readScalar v.compactChars v)
    (free : v.FloatFree) (flat : ∀ c, v.Opens c → c ≠ '[' ∧ c ≠ '\x7b')
    (enough : 2 * v.compactChars.length ≤ n) : Takes (readValue n depth) v.compactChars v := by
  intro s rest ends left
  obtain ⟨c, cs, text, opens⟩ := exists_cons_compactChars free
  obtain ⟨s', read, after⟩ := scalar s rest ends left
  rw [text, List.length_cons] at enough
  obtain ⟨n, rfl⟩ : ∃ m, n = m + 1 := ⟨n - 1, by omega⟩
  rw [text] at left
  exact ⟨s', (readValue_scalar n depth left opens.solid.1 (flat c opens)).trans read, after⟩

/-! ### Reading on from the parts -/

section Steps

variable {s s₁ s₂ s₃ : Source} {n depth : Nat} {first : Bool}

theorem readItems_item {v : Value} {vs : List Value}
    (more : readItemStart first s = .ok (true, s₁)) (item : readValue n depth s₁ = .ok (v, s₂))
    (later : readItems n depth false s₂ = .ok (vs, s₃)) :
    readItems (n + 1) depth first s = .ok (v :: vs, s₃) := by
  rw [readItems.eq_def]
  dsimp only
  rw [more]
  show (readValue n depth s₁ >>= _) = _
  rw [item]
  show (readItems n depth false s₂ >>= _) = _
  rw [later]
  rfl

theorem readItems_end (last : readItemStart first s = .ok (false, s₁)) :
    readItems (n + 1) depth first s = .ok ([], s₁.advance) := by
  rw [readItems.eq_def]
  dsimp only
  rw [last]
  rfl

theorem readMembers_member {k : String} {v : Value} {ms : List (String × Value)} {s₄ : Source}
    (key : readKey first s = .ok (some k, s₁)) (colon : readColon s₁ = .ok s₂)
    (item : readValue n depth s₂ = .ok (v, s₃)) (later : readMembers n depth false s₃ = .ok (ms, s₄)) :
    readMembers (n + 1) depth first s = .ok ((k, v) :: ms, s₄) := by
  rw [readMembers.eq_def]
  dsimp only
  rw [key]
  show (readColon s₁ >>= _) = _
  rw [colon]
  show (readValue n depth s₂ >>= _) = _
  rw [item]
  show (readMembers n depth false s₃ >>= _) = _
  rw [later]
  rfl

theorem readMembers_end (last : readKey first s = .ok (none, s₁)) :
    readMembers (n + 1) depth first s = .ok ([], s₁.advance) := by
  rw [readMembers.eq_def]
  dsimp only
  rw [last]
  rfl

end Steps

theorem endsNumber_itemsChars (vs : List Value) (rest : List Char) :
    EndsNumber (itemsChars vs ++ rest) := by
  cases vs with
  | nil => exact endsNumber_cons (by decide)
  | cons v vs => exact endsNumber_cons (by decide)

theorem endsNumber_membersChars (ms : List (String × Value)) (rest : List Char) :
    EndsNumber (membersChars ms ++ rest) := by
  cases ms with
  | nil => exact endsNumber_cons (by decide)
  | cons m ms => exact endsNumber_cons (by decide)

mutual

/-- Two units of fuel for each character are enough. -/
theorem takes_compactChars : ∀ (v : Value) (n : Nat) {depth : Nat}, v.Fits depth → v.FloatFree →
    2 * v.compactChars.length ≤ n → Takes (readValue n depth) v.compactChars v
  | .null, _, _, _, free, enough =>
    takes_of_scalar (takes_word "null".toList .null (.head _)) free
      (by rintro c rfl; decide) enough
  | .bool true, _, _, _, free, enough =>
    takes_of_scalar (takes_word "true".toList (.bool true) (.tail _ (.head _))) free
      (by rintro c rfl; decide) enough
  | .bool false, _, _, _, free, enough =>
    takes_of_scalar (takes_word "false".toList (.bool false) (.tail _ (.tail _ (.head _)))) free
      (by rintro c rfl; decide) enough
  | .int m, _, _, fits, free, enough => by
    refine takes_of_scalar (takes_int fits) free ?_ enough
    rintro c (rfl | digit)
    · decide
    · constructor <;> rintro rfl <;> exact absurd digit (by decide)
  | .float _, _, _, _, free, _ => absurd free id
  | .string t, _, _, _, free, enough =>
    takes_of_scalar (takes_string t) free (by rintro c rfl; decide) enough
  | .array [], n, _, fits, _, enough => by
    intro s rest ends left
    rw [compactChars_array_nil, List.length_cons, List.length_cons] at enough
    obtain ⟨n, rfl⟩ : ∃ m, n = m + 2 := ⟨n - 2, by omega⟩
    have inside := Source.rest_advance left
    refine ⟨s.advance.advance, ?_, Source.rest_advance inside⟩
    rw [readValue_array left fits.1, readItems_end (readItemStart_end true inside)]
    rfl
  | .array (v :: vs), n, _, fits, free, enough => by
    intro s rest ends left
    obtain ⟨deep, fit, fitLater⟩ := fits
    obtain ⟨freeFirst, freeLater⟩ := free
    rw [compactChars_array_cons, List.length_cons, List.length_append] at enough
    obtain ⟨n, rfl⟩ : ∃ m, n = m + 2 := ⟨n - 2, by omega⟩
    rw [compactChars_array_cons, List.cons_append, List.append_assoc] at left
    have inside := Source.rest_advance left
    obtain ⟨c, cs, text, opens⟩ := exists_cons_compactChars freeFirst
    obtain ⟨solid, more⟩ := opens.solid
    -- The bracket pays for the two calls, that of the array and that of its first item.
    obtain ⟨s₁, item, after⟩ := takes_compactChars v n fit freeFirst (by omega) s.advance _
      (endsNumber_itemsChars vs rest) inside
    obtain ⟨s₂, items, after'⟩ := takes_itemsChars vs n fitLater freeLater (by omega) s₁ rest ends after
    refine ⟨s₂, ?_, after'⟩
    rw [text] at inside
    rw [readValue_array left deep,
      readItems_item (readItemStart_first inside solid more) item items]
    rfl
  | .object [], n, _, fits, _, enough => by
    intro s rest ends left
    rw [compactChars_object_nil, List.length_cons, List.length_cons] at enough
    obtain ⟨n, rfl⟩ : ∃ m, n = m + 2 := ⟨n - 2, by omega⟩
    have inside := Source.rest_advance left
    refine ⟨s.advance.advance, ?_, Source.rest_advance inside⟩
    rw [readValue_object left fits.1, readMembers_end (readKey_end true inside)]
    rfl
  | .object ((k, v) :: ms), n, _, fits, free, enough => by
    intro s rest ends left
    obtain ⟨deep, sorted, fit, fitLater⟩ := fits
    obtain ⟨freeFirst, freeLater⟩ := free
    rw [compactChars_object_cons, List.length_cons, List.length_append, List.length_cons,
      List.length_append] at enough
    obtain ⟨n, rfl⟩ : ∃ m, n = m + 2 := ⟨n - 2, by omega⟩
    rw [compactChars_object_cons, List.cons_append, List.append_assoc, List.cons_append,
      List.append_assoc] at left
    obtain ⟨s₁, key, colon⟩ := readKey_first (Source.rest_advance left)
    obtain ⟨s₂, item, after⟩ := takes_compactChars v n fit freeFirst (by omega) s₁.advance _
      (endsNumber_membersChars ms rest) (Source.rest_advance colon)
    obtain ⟨s₃, members, after'⟩ :=
      takes_membersChars ms n fitLater freeLater (by omega) s₂ rest ends after
    refine ⟨s₃, ?_, after'⟩
    rw [readValue_object left deep, readMembers_member key (readColon_cons colon) item members]
    show Except.ok (ofMembers ((k, v) :: ms), s₃) = _
    rw [ofMembers_of_pairwise sorted]

theorem takes_itemsChars : ∀ (vs : List Value) (n : Nat) {depth : Nat}, FitItems depth vs →
    FloatFreeItems vs → 2 * (itemsChars vs).length ≤ n →
    Takes (readItems n depth false) (itemsChars vs) vs
  | [], n, _, _, _, enough => by
    intro s rest ends left
    rw [itemsChars_nil, List.length_singleton] at enough
    obtain ⟨n, rfl⟩ : ∃ m, n = m + 1 := ⟨n - 1, by omega⟩
    exact ⟨s.advance, readItems_end (readItemStart_end false left), Source.rest_advance left⟩
  | v :: vs, n, _, fits, free, enough => by
    intro s rest ends left
    obtain ⟨fit, fitLater⟩ := fits
    obtain ⟨freeFirst, freeLater⟩ := free
    rw [itemsChars_cons, List.length_cons, List.length_append] at enough
    obtain ⟨n, rfl⟩ : ∃ m, n = m + 1 := ⟨n - 1, by omega⟩
    rw [itemsChars_cons, List.cons_append, List.append_assoc] at left
    have inside := Source.rest_advance left
    obtain ⟨c, cs, text, opens⟩ := exists_cons_compactChars freeFirst
    obtain ⟨solid, more⟩ := opens.solid
    obtain ⟨s₁, item, after⟩ := takes_compactChars v n fit freeFirst (by omega) s.advance _
      (endsNumber_itemsChars vs rest) inside
    obtain ⟨s₂, items, after'⟩ := takes_itemsChars vs n fitLater freeLater (by omega) s₁ rest ends after
    rw [text] at left
    exact ⟨s₂, readItems_item (readItemStart_later left solid more) item items, after'⟩

theorem takes_membersChars : ∀ (ms : List (String × Value)) (n : Nat) {depth : Nat}, FitMembers depth ms →
    FloatFreeMembers ms → 2 * (membersChars ms).length ≤ n →
    Takes (readMembers n depth false) (membersChars ms) ms
  | [], n, _, _, _, enough => by
    intro s rest ends left
    rw [membersChars_nil, List.length_singleton] at enough
    obtain ⟨n, rfl⟩ : ∃ m, n = m + 1 := ⟨n - 1, by omega⟩
    exact ⟨s.advance, readMembers_end (readKey_end false left), Source.rest_advance left⟩
  | (k, v) :: ms, n, _, fits, free, enough => by
    intro s rest ends left
    obtain ⟨fit, fitLater⟩ := fits
    obtain ⟨freeFirst, freeLater⟩ := free
    rw [membersChars_cons, List.length_cons, List.length_append, List.length_cons,
      List.length_append] at enough
    obtain ⟨n, rfl⟩ : ∃ m, n = m + 1 := ⟨n - 1, by omega⟩
    rw [membersChars_cons, List.cons_append, List.append_assoc, List.cons_append,
      List.append_assoc] at left
    obtain ⟨s₁, key, colon⟩ := readKey_later left
    obtain ⟨s₂, item, after⟩ := takes_compactChars v n fit freeFirst (by omega) s₁.advance _
      (endsNumber_membersChars ms rest) (Source.rest_advance colon)
    obtain ⟨s₃, members, after'⟩ :=
      takes_membersChars ms n fitLater freeLater (by omega) s₂ rest ends after
    exact ⟨s₃, readMembers_member key (readColon_cons colon) item members, after'⟩

end

theorem takes_reader {v : Value} {depth : Nat} (exactly : v.Exact depth) :
    Takes (Value.reader depth) v.compactChars v := by
  intro s rest ends left
  obtain ⟨fits, free⟩ := exactly
  have enough : 2 * v.compactChars.length ≤ s.steps := by
    rw [Source.steps, left, List.length_append]
    omega
  exact takes_compactChars v s.steps fits free enough s rest ends left

/-! ### Control characters -/

mutual

/-- A printed value has no control characters. -/
theorem toNat_of_mem_compactChars : ∀ v : Value, v.FloatFree → ∀ d ∈ v.compactChars, 0x20 ≤ d.toNat
  | .null, _ => by
    rw [compactChars_null]
    simp
  | .bool true, _ => by
    rw [compactChars_true]
    simp
  | .bool false, _ => by
    rw [compactChars_false]
    simp
  | .int n, _ => fun _ mem => toNat_of_mem_intChars mem
  | .float _, free => absurd free id
  | .string t, _ => fun _ mem => toNat_of_mem_quotedChars mem
  | .array [], _ => by
    rw [compactChars_array_nil]
    simp
  | .array (v :: vs), free => by
    rw [compactChars_array_cons, List.forall_mem_cons, List.forall_mem_append]
    exact ⟨by decide, toNat_of_mem_compactChars v free.1, toNat_of_mem_itemsChars vs free.2⟩
  | .object [], _ => by
    rw [compactChars_object_nil]
    simp
  | .object ((k, v) :: ms), free => by
    rw [compactChars_object_cons, List.forall_mem_cons, List.forall_mem_append, List.forall_mem_cons,
      List.forall_mem_append]
    exact ⟨by decide, fun _ mem => toNat_of_mem_quotedChars mem, by decide,
      toNat_of_mem_compactChars v free.1, toNat_of_mem_membersChars ms free.2⟩

theorem toNat_of_mem_itemsChars : ∀ vs : List Value, FloatFreeItems vs →
    ∀ d ∈ itemsChars vs, 0x20 ≤ d.toNat
  | [], _ => by
    rw [itemsChars_nil]
    simp
  | v :: vs, free => by
    rw [itemsChars_cons, List.forall_mem_cons, List.forall_mem_append]
    exact ⟨by decide, toNat_of_mem_compactChars v free.1, toNat_of_mem_itemsChars vs free.2⟩

theorem toNat_of_mem_membersChars : ∀ ms : List (String × Value), FloatFreeMembers ms →
    ∀ d ∈ membersChars ms, 0x20 ≤ d.toNat
  | [], _ => by
    rw [membersChars_nil]
    simp
  | (k, v) :: ms, free => by
    rw [membersChars_cons, List.forall_mem_cons, List.forall_mem_append, List.forall_mem_cons,
      List.forall_mem_append]
    exact ⟨by decide, fun _ mem => toNat_of_mem_quotedChars mem, by decide,
      toNat_of_mem_compactChars v free.1, toNat_of_mem_membersChars ms free.2⟩

end

end Value

theorem readWhole?_of_takes {α : Type} {read : Reader α} {text blanks : List Char} {a : α}
    (takes : Takes read text a) (blank : ∀ b ∈ blanks, Source.isBlank b = true) :
    readWhole? read (text ++ blanks) = .ok a := by
  have ends : EndsNumber blanks := by
    intro c first
    have kinds := blank c (List.mem_of_mem_head? first)
    simp only [Source.isBlank, Bool.or_eq_true, decide_eq_true_eq] at kinds
    rcases kinds with ((rfl | rfl) | rfl) | rfl <;> decide
  obtain ⟨s, taken, after⟩ := takes (Source.ofText (text ++ blanks)) blanks ends rfl
  have done : s.skipBlanks.rest = [] := by
    rw [Source.skipBlanks, Source.rest_skipWhile, after]
    exact List.dropWhile_eq_nil_iff.mpr blank
  refine bind_eq_ok_iff.mpr ⟨(a, s), taken, ?_⟩
  dsimp only
  rw [if_pos done]
  rfl

end Reveille.Json
