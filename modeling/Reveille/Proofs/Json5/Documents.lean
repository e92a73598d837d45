import Reveille.Proofs.Json5.Strings
import Reveille.Proofs.Json5.Tokens

/-!
# Printed JSON values as JSON5 documents

An indented JSON value without fractions is read as JSON5 with the same structure, unless one of
its strings has a line or paragraph separator: then the text is no document.
-/

namespace Reveille.Json5

open Reveille.Json Reveille.Text

/-! ### What is read -/

def rereadText? (s : String) : Option (List Fragment) :=
  if s.toList.any isSeparator then none else some (printedText s)

mutual

/-- The document that a printed value is read as. Fractions are left out of account. -/
def reread? : Value → Option Document
  | .null => some .null
  | .bool b => some (.bool b)
  | .int n => some (printedNumber n)
  | .float _ => none
  | .string s => (rereadText? s).map .string
  | .array items => (rereadItems? items).map .array
  | .object members => (rereadMembers? members).map .object

def rereadItems? : List Value → Option (List Document)
  | [] => some []
  | v :: vs => (reread? v).bind fun d => (rereadItems? vs).map (d :: ·)

def rereadMembers? : List (String × Value) → Option (List (List Fragment × Document))
  | [] => some []
  | (k, v) :: ms => (rereadText? k).bind fun k => (reread? v).bind fun d =>
    (rereadMembers? ms).map ((k, d) :: ·)

end

mutual

def isWhole : Value → Bool
  | .float _ => false
  | .array items => areWhole items
  | .object members => membersAreWhole members
  | _ => true

def areWhole : List Value → Bool
  | [] => true
  | v :: vs => isWhole v && areWhole vs

def membersAreWhole : List (String × Value) → Bool
  | [] => true
  | (_, v) :: ms => isWhole v && membersAreWhole ms

end

/-! ### The first character -/

/-- A character that a value may start with: no blank, and no end of an array or object. -/
def startsValue (c : Char) : Bool :=
  isSolid c && c ≠ ']' && c ≠ '\x7d'

theorem isSolid_of_startsValue {c : Char} (starts : startsValue c = true) : isSolid c = true := by
  simp only [startsValue, Bool.and_eq_true] at starts
  exact starts.1.1

theorem ne_bracket_of_startsValue {c : Char} (starts : startsValue c = true) : c ≠ ']' := by
  rintro rfl
  exact absurd starts (by decide)

def startsNumber (c : Char) : Bool :=
  c = '-' || c.isDigit

theorem ne_of_startsNumber {c d : Char} (starts : startsNumber c = true)
    (other : startsNumber d = false) : c ≠ d := by
  rintro rfl
  rw [other] at starts
  cases starts

theorem startsValue_of_startsNumber {c : Char} (starts : startsNumber c = true) :
    startsValue c = true := by
  have small : c.toNat < 58 := by
    simp only [startsNumber, Bool.or_eq_true, decide_eq_true_eq, Char.isDigit, Bool.and_eq_true,
      UInt32.le_iff_toNat_le] at starts
    rcases starts with rfl | ⟨-, high⟩
    · decide
    · exact Nat.lt_succ_of_le high
  have known : ∀ n : Fin 58, startsNumber (Char.ofNat n.val) = true →
      startsValue (Char.ofNat n.val) = true := by
    decide
  rw [← Char.ofNat_toNat c] at starts ⊢
  exact known ⟨c.toNat, small⟩ starts

theorem exists_cons_intChars (n : Int) :
    ∃ c cs, intChars n = c :: cs ∧ startsNumber c = true := by
  unfold intChars
  by_cases negative : n < 0
  · rw [if_pos negative]
    exact ⟨'-', decimal n.natAbs, rfl, by decide⟩
  · rw [if_neg negative, List.nil_append]
    cases written : decimal n.natAbs with
    | nil => exact absurd written (decimal_ne_nil _)
    | cons c cs =>
      have mem : c ∈ decimal n.natAbs := by rw [written]; exact List.mem_cons_self
      refine ⟨c, cs, rfl, ?_⟩
      rw [startsNumber, isDigit_of_mem_decimal mem, Bool.or_true]

theorem exists_cons_prettyChars {v : Value} (whole : isWhole v = true) (level : Nat) :
    ∃ c cs, v.prettyChars level = c :: cs ∧ startsValue c = true := by
  match v with
  | .null => exact ⟨'n', _, rfl, by decide⟩
  | .bool true => exact ⟨'t', _, rfl, by decide⟩
  | .bool false => exact ⟨'f', _, rfl, by decide⟩
  | .string _ => exact ⟨'"', _, rfl, by decide⟩
  | .array [] => exact ⟨'[', _, rfl, by decide⟩
  | .array (_ :: _) => exact ⟨'[', _, rfl, by decide⟩
  | .object [] => exact ⟨'\x7b', _, rfl, by decide⟩
  | .object (_ :: _) => exact ⟨'\x7b', _, rfl, by decide⟩
  | .int n =>
    obtain ⟨c, cs, written, starts⟩ := exists_cons_intChars n
    exact ⟨c, cs, written, startsValue_of_startsNumber starts⟩
  | .float _ => cases whole

theorem skipSpace_prettyChars {v : Value} (whole : isWhole v = true) (level : Nat)
    {b : List Char} (spaces : ∀ c ∈ b, isSpace c = true) (rest : List Char) :
    skipSpace (b ++ (v.prettyChars level ++ rest)) = v.prettyChars level ++ rest := by
  obtain ⟨c, cs, written, starts⟩ := exists_cons_prettyChars whole level
  rw [written, List.cons_append]
  exact skipSpace_append spaces (isSolid_of_startsValue starts) _

/-! ### Scalars -/

theorem string_quoted (s : String) (rest : List Char) :
    string (quotedChars s.toList ++ rest) = (rereadText? s).map (·, rest) := by
  rw [string_quotedChars, rereadText?]
  split <;> rfl

theorem document_eq_string (s : List Char) (n : Nat) (rest : List Char) :
    document (n + 1) (quotedChars s ++ rest) =
      match string (quotedChars s ++ rest) with
      | some (fs, rest) => some (.string fs, rest)
      | none => none :=
  rfl

theorem document_quotedChars (s : String) (n : Nat) (rest : List Char) :
    document (n + 1) (quotedChars s.toList ++ rest) =
      ((rereadText? s).map Document.string).map (·, rest) := by
  rw [document_eq_string, string_quoted]
  cases rereadText? s <;> rfl

theorem document_of_startsNumber {c : Char} (starts : startsNumber c = true) (n : Nat)
    (s : List Char) : document (n + 1) (c :: s) = number (c :: s) := by
  have other := fun {d : Char} => ne_of_startsNumber (d := d) starts
  have noWord : ∀ d w, startsNumber d = false → after? (d :: w) (c :: s) = none :=
    fun d w no => if_neg (other no)
  have noString : string (c :: s) = none :=
    if_neg (not_or.mpr ⟨other (by decide), other (by decide)⟩)
  have plain : document (n + 1) (c :: s) = scalar (c :: s) := by
    rw [document.eq_def]
    dsimp only
    split
    · next same => exact absurd (List.cons.inj same).1 (other (by decide))
    · next same => exact absurd (List.cons.inj same).1 (other (by decide))
    · rfl
  have noNull : after? "null".toList (c :: s) = none := noWord 'n' _ (by decide)
  have noTrue : after? "true".toList (c :: s) = none := noWord 't' _ (by decide)
  have noFalse : after? "false".toList (c :: s) = none := noWord 'f' _ (by decide)
  rw [plain, scalar]
  simp only [noNull, noTrue, noFalse, noString]

theorem document_intChars {rest : List Char} (ends : EndsNumber rest) (n : Nat) (k : Int) :
    document (n + 1) (intChars k ++ rest) = some (printedNumber k, rest) := by
  rw [← number_intChars ends k]
  obtain ⟨c, cs, written, starts⟩ := exists_cons_intChars k
  rw [written]
  exact document_of_startsNumber starts n _

/-! ### Arrays and objects -/

theorem document_array (n : Nat) (s : List Char) :
    document (n + 1) ('[' :: s) =
      (items n (skipSpace s)).map fun (ds, rest) => (.array ds, rest) := by
  rw [document]

theorem document_object (n : Nat) (s : List Char) :
    document (n + 1) ('\x7b' :: s) =
      (members n (skipSpace s)).map fun (ms, rest) => (.object ms, rest) := by
  rw [document]

theorem document_emptyArray (n : Nat) (rest : List Char) :
    document (n + 2) ('[' :: ']' :: rest) = some (.array [], rest) := by
  rw [document_array, skipSpace_of_isSolid (by decide), items, Option.map_some]

theorem document_emptyObject (n : Nat) (rest : List Char) :
    document (n + 2) ('\x7b' :: '\x7d' :: rest) = some (.object [], rest) := by
  rw [document_object, skipSpace_of_isSolid (by decide), members, Option.map_some]

theorem items_prettyChars {v : Value} (whole : isWhole v = true) (level n : Nat)
    (s : List Char) :
    items (n + 1) (v.prettyChars level ++ s) =
      (document n (v.prettyChars level ++ s)).bind fun (d, rest) =>
        match skipSpace rest with
        | ',' :: rest => (items n (skipSpace rest)).map fun (ds, rest) => (d :: ds, rest)
        | ']' :: rest => some ([d], rest)
        | _ => none := by
  obtain ⟨c, cs, written, starts⟩ := exists_cons_prettyChars whole level
  rw [written, List.cons_append, items.eq_def]
  dsimp only
  split
  · next same => exact absurd (List.cons.inj same).1 (ne_bracket_of_startsValue starts)
  · rfl

theorem members_quotedChars (k : String) (n : Nat) (s : List Char) :
    members (n + 1) (quotedChars k.toList ++ ':' :: ' ' :: s) =
      (rereadText? k).bind fun k => (document n (skipSpace (' ' :: s))).bind fun (d, rest) =>
        match skipSpace rest with
        | ',' :: rest => (members n (skipSpace rest)).map fun (ms, rest) => ((k, d) :: ms, rest)
        | '\x7d' :: rest => some ([(k, d)], rest)
        | _ => none := by
  have opened : key (quotedChars k.toList ++ ':' :: ' ' :: s) =
      (rereadText? k).map (·, ':' :: ' ' :: s) := by
    rw [← string_quoted]
    rfl
  rw [members.eq_def]
  dsimp only
  split
  · next same => exact absurd (List.cons.inj same).1 (by decide)
  · rw [opened]
    cases rereadText? k with
    | none => rfl
    | some fs =>
      simp only [Option.map_some, Option.bind_some, skipSpace_of_isSolid (c := ':') (by decide)]
      rfl

/-! ### Lines -/

theorem EndsNumber.lineBreak (level : Nat) (s : List Char) :
    EndsNumber (Value.lineBreak level ++ s) :=
  .lineEnd _

theorem skipSpace_lineBreak {c : Char} (solid : isSolid c = true) (level : Nat) (s : List Char) :
    skipSpace (Value.lineBreak level ++ c :: s) = c :: s :=
  skipSpace_append (fun _ mem => isSpace_of_mem_lineBreak mem) solid s

theorem skipSpace_quotedChars (k : List Char) (level : Nat) (s : List Char) :
    skipSpace (Value.lineBreak level ++ (quotedChars k ++ s)) = quotedChars k ++ s :=
  skipSpace_lineBreak (c := '"') (by decide) level _

-- The induction is on the fuel: a value needs no more than it has characters.

mutual

/-- A printed value in front of anything that ends a number. -/
theorem document_prettyChars (v : Value) (whole : isWhole v = true) (level : Nat)
    {rest : List Char} (ends : EndsNumber rest) {n : Nat}
    (enough : (v.prettyChars level).length ≤ n) :
    document n (v.prettyChars level ++ rest) = (reread? v).map (·, rest) := by
  obtain ⟨c, cs, written, -⟩ := exists_cons_prettyChars whole level
  cases n with
  | zero =>
    rw [written] at enough
    exact absurd enough (Nat.not_succ_le_zero _)
  | succ n =>
    match v with
    | .null => rfl
    | .bool true => rfl
    | .bool false => rfl
    | .string s => exact document_quotedChars s n rest
    | .int k => exact document_intChars ends n k
    | .float _ => cases whole
    | .array [] =>
      obtain ⟨n, rfl⟩ :=
        Nat.exists_eq_succ_of_ne_zero (Nat.ne_zero_of_lt (Nat.le_of_succ_le_succ enough))
      exact document_emptyArray n rest
    | .object [] =>
      obtain ⟨n, rfl⟩ :=
        Nat.exists_eq_succ_of_ne_zero (Nat.ne_zero_of_lt (Nat.le_of_succ_le_succ enough))
      exact document_emptyObject n rest
    | .array (v :: vs) =>
      have first : isWhole v = true := (Bool.and_eq_true _ _ ▸ whole : _ ∧ _).1
      simp only [Value.prettyChars, Value.lineBreak, List.length_cons, List.length_append] at enough
      have inner := items_prettyItemsChars v vs whole level rest (n := n) (by omega)
      have shape : (Value.array (v :: vs)).prettyChars level ++ rest =
          '[' :: (Value.lineBreak (level + 1) ++ (v.prettyChars (level + 1) ++
            (Value.prettyItemsChars level vs ++ rest))) := by
        simp only [Value.prettyChars, List.cons_append, List.append_assoc]
      rw [shape, document_array,
        skipSpace_prettyChars first _ (fun _ mem => isSpace_of_mem_lineBreak mem), inner, reread?]
      cases rereadItems? (v :: vs) <;> rfl
    | .object ((k, v) :: ms) =>
      simp only [Value.prettyChars, Value.lineBreak, List.length_cons, List.length_append] at enough
      have inner := members_prettyMembersChars k v ms whole level rest (n := n) (by omega)
      have shape : (Value.object ((k, v) :: ms)).prettyChars level ++ rest =
          '\x7b' :: (Value.lineBreak (level + 1) ++ (quotedChars k.toList ++ ':' :: ' ' ::
            (v.prettyChars (level + 1) ++ (Value.prettyMembersChars level ms ++ rest)))) := by
        simp only [Value.prettyChars, List.cons_append, List.append_assoc]
      rw [shape, document_object, skipSpace_quotedChars, inner, reread?]
      cases rereadMembers? ((k, v) :: ms) <;> rfl
termination_by n

/-- The items that are left and the bracket that ends the array. -/
theorem items_prettyItemsChars (v : Value) (vs : List Value) (whole : areWhole (v :: vs) = true)
    (level : Nat) (rest : List Char) {n : Nat}
    (enough : (v.prettyChars (level + 1)).length + (Value.prettyItemsChars level vs).length < n) :
    items n (v.prettyChars (level + 1) ++ (Value.prettyItemsChars level vs ++ rest)) =
      (rereadItems? (v :: vs)).map (·, rest) := by
  rw [areWhole, Bool.and_eq_true] at whole
  obtain ⟨n, rfl⟩ := Nat.exists_eq_succ_of_ne_zero (Nat.ne_zero_of_lt enough)
  match vs with
  | [] =>
    have shape : Value.prettyItemsChars level [] ++ rest = Value.lineBreak level ++ ']' :: rest := by
      rw [Value.prettyItemsChars, List.append_assoc, List.singleton_append]
    have head := document_prettyChars v whole.1 (level + 1) (.lineBreak level (']' :: rest))
      (n := n) (by omega)
    rw [shape, items_prettyChars whole.1, head, rereadItems?]
    cases reread? v with
    | none => rfl
    | some d =>
      simp only [Option.map_some, Option.bind_some, skipSpace_lineBreak (c := ']') (by decide),
        rereadItems?]
  | w :: ws =>
    have next : isWhole w = true := (Bool.and_eq_true _ _ ▸ whole.2 : _ ∧ _).1
    have shape : Value.prettyItemsChars level (w :: ws) ++ rest =
        ',' :: (Value.lineBreak (level + 1) ++ (w.prettyChars (level + 1) ++
          (Value.prettyItemsChars level ws ++ rest))) := by
      simp only [Value.prettyItemsChars, List.append_assoc, List.cons_append]
    simp only [Value.prettyItemsChars, List.length_cons, List.length_append] at enough
    have tail := items_prettyItemsChars w ws whole.2 level rest (n := n) (by omega)
    have head := document_prettyChars v whole.1 (level + 1) (.comma (Value.lineBreak (level + 1) ++
      (w.prettyChars (level + 1) ++ (Value.prettyItemsChars level ws ++ rest)))) (n := n) (by omega)
    rw [shape, items_prettyChars whole.1, head, rereadItems?]
    cases reread? v with
    | none => rfl
    | some d =>
      simp only [Option.map_some, Option.bind_some, skipSpace_of_isSolid (c := ',') (by decide)]
      rw [skipSpace_prettyChars next _ (fun _ mem => isSpace_of_mem_lineBreak mem), tail]
      cases rereadItems? (w :: ws) <;> rfl
termination_by n

/-- The members that are left and the brace that ends the object. -/
theorem members_prettyMembersChars (k : String) (v : Value) (ms : List (String × Value))
    (whole : membersAreWhole ((k, v) :: ms) = true) (level : Nat) (rest : List Char) {n : Nat}
    (enough : (v.prettyChars (level + 1)).length + (Value.prettyMembersChars level ms).length < n) :
    members n (quotedChars k.toList ++ ':' :: ' ' ::
        (v.prettyChars (level + 1) ++ (Value.prettyMembersChars level ms ++ rest))) =
      (rereadMembers? ((k, v) :: ms)).map (·, rest) := by
  rw [membersAreWhole, Bool.and_eq_true] at whole
  obtain ⟨n, rfl⟩ := Nat.exists_eq_succ_of_ne_zero (Nat.ne_zero_of_lt enough)
  have blank : ∀ s, skipSpace (' ' :: (v.prettyChars (level + 1) ++ s)) =
      v.prettyChars (level + 1) ++ s :=
    skipSpace_prettyChars whole.1 (level + 1) (b := [' ']) (List.forall_mem_singleton.mpr rfl)
  rw [members_quotedChars, blank, rereadMembers?]
  cases rereadText? k with
  | none => rfl
  | some key =>
  rw [Option.bind_some, Option.bind_some]
  match ms with
  | [] =>
    have shape : Value.prettyMembersChars level [] ++ rest =
        Value.lineBreak level ++ '\x7d' :: rest := by
      rw [Value.prettyMembersChars, List.append_assoc, List.singleton_append]
    have head := document_prettyChars v whole.1 (level + 1) (.lineBreak level ('\x7d' :: rest))
      (n := n) (by omega)
    rw [shape, head]
    cases reread? v with
    | none => rfl
    | some d =>
      simp only [Option.map_some, Option.bind_some, skipSpace_lineBreak (c := '\x7d') (by decide),
        rereadMembers?]
  | (l, w) :: ws =>
    have shape : Value.prettyMembersChars level ((l, w) :: ws) ++ rest =
        ',' :: (Value.lineBreak (level + 1) ++ (quotedChars l.toList ++ ':' :: ' ' ::
          (w.prettyChars (level + 1) ++ (Value.prettyMembersChars level ws ++ rest)))) := by
      simp only [Value.prettyMembersChars, List.append_assoc, List.cons_append]
    simp only [Value.prettyMembersChars, List.length_cons, List.length_append] at enough
    have tail := members_prettyMembersChars l w ws whole.2 level rest (n := n) (by omega)
    have head := document_prettyChars v whole.1 (level + 1) (.comma (Value.lineBreak (level + 1) ++
      (quotedChars l.toList ++ ':' :: ' ' :: (w.prettyChars (level + 1) ++
        (Value.prettyMembersChars level ws ++ rest))))) (n := n) (by omega)
    rw [shape, head]
    cases reread? v with
    | none => rfl
    | some d =>
      simp only [Option.map_some, Option.bind_some, skipSpace_of_isSolid (c := ',') (by decide)]
      rw [skipSpace_quotedChars, tail]
      cases rereadMembers? ((l, w) :: ws) <;> rfl
termination_by n

end

theorem read?_pretty {v : Value} (whole : isWhole v = true) :
    Document.read? (v.prettyChars 0) = reread? v := by
  have start := skipSpace_prettyChars whole 0 (b := []) (by simp) []
  have all := document_prettyChars v whole 0 .nil (n := 2 * (v.prettyChars 0).length + 1) (by omega)
  simp only [List.nil_append, List.append_nil] at start all
  rw [Document.read?, start, all]
  cases reread? v <;> rfl

end Reveille.Json5
