import Mathlib.Data.Set.Monotone
import Reveille.Proofs.Condition.Meaning
import Reveille.Proofs.RuleText.Parsing
import Reveille.Proofs.RuleText.Relayout

/-!
# A block within an `all:`

The block of a rule may as well stand under an `all:` of its own. Its clauses are read alike at
their new columns. A hold-off of the rule becomes a condition of the group, and the rule is left
without one; that is the same, as a hold-off that has gone by leaves none of a shorter one.
-/

namespace Reveille

open Reveille.Net Reveille.Text

namespace RuleText

open Grammar

variable {f : Nat → Nat} {lines lines' : List Line} {k n : Nat}

/-! ### Clauses at other columns -/

theorem Relaid.append {front back : List Line} (relaid : Relaid f (front ++ back) lines') :
    ∃ front' back', lines' = front' ++ back' ∧ Relaid f front front' ∧ Relaid f back back' := by
  induction front generalizing lines' with
  | nil => exact ⟨[], lines', rfl, .nil, relaid⟩
  | cons l front ih =>
    cases relaid with
    | @cons _ l' _ rest alike later =>
      obtain ⟨front', back', rfl, first, second⟩ := ih later
      exact ⟨l' :: front', back', rfl, .cons alike first, second⟩

/-- Lines that derive clauses derive the same ones at columns in the same order. -/
theorem Grammar.Clauses.relaid {column : Nat} {trees : List ClauseTree}
    (derived : Clauses column lines trees)
    (increasing : StrictMonoOn f {c | ∃ l ∈ lines, l.indent = c}) (relaid : Relaid f lines lines') :
    ∃ trees', Clauses (f column) lines' trees' ∧
      trees'.map ClauseTree.clause = trees.map ClauseTree.clause := by
  induction derived generalizing lines' with
  | nil =>
    cases relaid
    exact ⟨[], .nil, rfl⟩
  | @line column line c lines trees placed reads later ih =>
    cases relaid with
    | @cons _ line' _ rest alike relaid =>
      obtain ⟨trees', derived', same⟩ := ih (increasing.mono fun c ⟨l, mem, at_⟩ =>
        ⟨l, List.mem_cons_of_mem _ mem, at_⟩) relaid
      refine ⟨.line line' c :: trees', .line ?_ ?_ derived', ?_⟩
      · rw [alike.2, placed]
      · rw [alike.1]
        exact reads
      · exact congrArg (c :: ·) same
  | @group column inner header q below lines body trees placed reads deeper block some arity later
      inside after =>
    cases relaid with
    | @cons _ header' _ rest alike relaid =>
      obtain ⟨below', lines', rfl, relaidBelow, relaidLater⟩ := Relaid.append relaid
      obtain ⟨body', block', sameBody⟩ := inside (increasing.mono fun c ⟨l, mem, at_⟩ =>
        ⟨l, List.mem_cons_of_mem _ (List.mem_append_left _ mem), at_⟩) relaidBelow
      obtain ⟨trees', derived', same⟩ := after (increasing.mono fun c ⟨l, mem, at_⟩ =>
        ⟨l, List.mem_cons_of_mem _ (List.mem_append_right _ mem), at_⟩) relaidLater
      have length : body'.length = body.length := by
        simpa using congrArg List.length sameBody
      -- The block has a first line, and its column is the one right of the header.
      obtain ⟨first, below, rfl⟩ := List.exists_cons_of_ne_nil (block.ne_nil some)
      have inside : f column < f inner :=
        increasing ⟨header, List.mem_cons_self, placed⟩
          ⟨first, List.mem_cons_of_mem _ List.mem_cons_self, block.head_column first rfl⟩ deeper
      refine ⟨.group header' q body' :: trees', .group ?_ ?_ inside block' ?_ ?_ derived', ?_⟩
      · rw [alike.2, placed]
      · rw [alike.1]
        exact reads
      · rintro rfl
        exact some (List.length_eq_zero_iff.mp length.symm)
      · rw [length]
        exact arity
      · rw [List.map_cons, List.map_cons, same, ClauseTree.clause, ClauseTree.clause,
          clauseTree_nodes_eq_map, clauseTree_nodes_eq_map, sameBody]

/-! ### Moving a block -/

/-- The second text has the header that the first one starts with, below it an `all:`, and below
that the remaining lines of the first text, deeper, with their columns in the same order. -/
structure MovedUnderAll (text text' : List Char) : Prop where
  spaces : SpacesOnly text'
  moved : ∃ header header' opener lines lines', ∃ f : Nat → Nat,
    significantLines text = header :: lines ∧
    significantLines text' = header' :: opener :: lines' ∧
    header'.text = header.text ∧ header'.indent = header.indent ∧
    opener.text = "all:".toList ∧ header.indent < opener.indent ∧
    (∀ l ∈ lines', opener.indent < l.indent) ∧
    StrictMonoOn f {c | ∃ l ∈ lines, l.indent = c} ∧ Relaid f lines lines'

/-- The line, so many columns further to the right. -/
def shifted (k : Nat) (raw : List Char) : List Char :=
  List.replicate k ' ' ++ raw

/-- The lines with an `all:` below the first that counts, and all after it shifted. -/
def underAllLines (k : Nat) : List (List Char) → List (List Char)
  | [] => []
  | raw :: raws =>
    if trim (content raw) = [] then raw :: underAllLines k raws
    else raw :: shifted k "all:".toList :: raws.map (shifted k)

/-- The text with an `all:` below its first header, and all that follows shifted. -/
def underAll (k : Nat) (text : List Char) : List Char :=
  ['\n'].intercalate (underAllLines k (text.splitOn '\n'))

theorem content_shifted (k : Nat) (raw : List Char) :
    content (shifted k raw) = shifted k (content raw) := by
  unfold content shifted
  rw [List.takeWhile_append_of_pos]
  simp

theorem trim_shifted (k : Nat) (s : List Char) : trim (shifted k s) = trim s := by
  have start : trimStart (shifted k s) = trimStart s := by
    unfold trimStart shifted
    rw [List.dropWhile_append_of_pos]
    intro c mem
    rw [List.eq_of_mem_replicate mem]
    rfl
  rw [trim, start, trim]

theorem takeWhile_shifted (k : Nat) (s : List Char) :
    (shifted k s).takeWhile isBlank = shifted k (s.takeWhile isBlank) := by
  unfold shifted
  rw [List.takeWhile_append_of_pos]
  intro c mem
  rw [List.eq_of_mem_replicate mem]
  rfl

theorem indentedBySpaces_shifted (k : Nat) {raw : List Char} (spaces : IndentedBySpaces raw) :
    IndentedBySpaces (shifted k raw) := by
  unfold IndentedBySpaces
  rw [content_shifted, trim_shifted, takeWhile_shifted]
  intro counts c mem
  rcases List.mem_append.mp mem with mem | mem
  · exact List.eq_of_mem_replicate mem
  · exact spaces counts c mem

theorem relaid_shifted (k n n' : Nat) (raws : List (List Char)) :
    Relaid (· + k) (significantFrom n raws) (significantFrom n' (raws.map (shifted k))) := by
  induction raws generalizing n n' with
  | nil => exact .nil
  | cons raw raws ih =>
    rw [List.map_cons, significantFrom, significantFrom]
    refine List.rel_append ?_ (ih (n + 1) (n' + 1))
    unfold significant?
    rw [content_shifted, trim_shifted, takeWhile_shifted]
    split
    · exact .nil
    · exact .cons ⟨rfl, by simp [shifted, Nat.add_comm]⟩ .nil

theorem significantFrom_underAllLines {raws : List (List Char)} {header : Line}
    (k : Nat) (counted : significantFrom n raws = header :: lines) :
    ∃ opener lines', significantFrom n (underAllLines k raws) = header :: opener :: lines' ∧
      opener.text = "all:".toList ∧ opener.indent = k ∧ Relaid (· + k) lines lines' := by
  induction raws generalizing n with
  | nil => cases counted
  | cons raw raws ih =>
    rw [significantFrom] at counted
    unfold underAllLines
    by_cases none : trim (content raw) = []
    · have idle : ∀ n, significant? n raw = .none := fun n => if_pos none
      rw [idle] at counted
      rw [if_pos none, significantFrom, idle]
      exact ih counted
    · have found : ∀ n, significant? n raw = .some ⟨n, _, _⟩ := fun n => if_neg none
      rw [found] at counted
      rw [if_neg none, significantFrom, found, significantFrom]
      obtain ⟨rfl, rfl⟩ := List.cons.inj counted
      have opener : significant? (n + 1) (shifted k "all:".toList) =
          .some ⟨n + 1, k, "all:".toList⟩ := by
        unfold significant?
        rw [content_shifted, trim_shifted, takeWhile_shifted]
        simp only [shifted, List.length_append, List.length_replicate]
        rfl
      rw [opener]
      exact ⟨⟨n + 1, k, _⟩, _, rfl, rfl, rfl, relaid_shifted k (n + 1) (n + 1 + 1) raws⟩

theorem clean_underAllLines (k : Nat) {raws : List (List Char)} (clean : ∀ r ∈ raws, '\n' ∉ r) :
    ∀ r ∈ underAllLines k raws, '\n' ∉ r := by
  have shift : ∀ {r : List Char}, '\n' ∉ r → '\n' ∉ shifted k r := by
    intro r free mem
    rcases List.mem_append.mp mem with mem | mem
    · cases List.eq_of_mem_replicate mem
    · exact free mem
  induction raws with
  | nil => exact fun r mem => by cases mem
  | cons raw raws ih =>
    rw [List.forall_mem_cons] at clean
    unfold underAllLines
    split
    · exact List.forall_mem_cons.mpr ⟨clean.1, ih clean.2⟩
    · refine List.forall_mem_cons.mpr ⟨clean.1, List.forall_mem_cons.mpr ⟨shift (by decide), ?_⟩⟩
      intro r mem
      obtain ⟨r, among, rfl⟩ := List.mem_map.mp mem
      exact shift (clean.2 r among)

theorem spaces_underAllLines (k : Nat) {raws : List (List Char)}
    (spaces : ∀ r ∈ raws, IndentedBySpaces r) :
    ∀ r ∈ underAllLines k raws, IndentedBySpaces r := by
  induction raws with
  | nil => exact fun r mem => by cases mem
  | cons raw raws ih =>
    rw [List.forall_mem_cons] at spaces
    unfold underAllLines
    split
    · exact List.forall_mem_cons.mpr ⟨spaces.1, ih spaces.2⟩
    · refine List.forall_mem_cons.mpr ⟨spaces.1, List.forall_mem_cons.mpr ⟨?_, ?_⟩⟩
      · exact indentedBySpaces_shifted k fun _ c mem => by cases mem
      · intro r mem
        obtain ⟨r, among, rfl⟩ := List.mem_map.mp mem
        exact indentedBySpaces_shifted k (spaces.2 r among)

theorem splitOn_underAll (k : Nat) (text : List Char) :
    (underAll k text).splitOn '\n' = underAllLines k (text.splitOn '\n') := by
  refine (splitOn_eq_iff (clean_underAllLines k fun r mem => notMem_of_mem_splitOn mem) ?_).mpr rfl
  cases parts : text.splitOn '\n' with
  | nil => simp at parts
  | cons raw raws =>
    unfold underAllLines
    split <;> simp

theorem spacesOnly_underAll (k : Nat) {text : List Char} (spaces : SpacesOnly text) :
    SpacesOnly (underAll k text) := by
  unfold SpacesOnly
  rw [splitOn_underAll]
  exact spaces_underAllLines k spaces

/-! ### The rule of a block under `all:` -/

/-- A text with one rule is a header and a block below it. -/
theorem parseRules_eq_single {text : List Char} {rule : Rule}
    (read : parseRules text = .ok [rule]) :
    SpacesOnly text ∧ ∃ header host inner lines body,
      significantLines text = header :: lines ∧ header.indent = 0 ∧
      IsRuleHeader header.text host ∧ 0 < inner ∧ Clauses inner lines body ∧ body ≠ [] ∧
      (RuleTree.mk header host body).holdOffs.length ≤ 1 ∧
      (RuleTree.mk header host body).rule = rule := by
  obtain ⟨counted, first, read⟩ := bind_eq_ok_iff.mp read
  obtain ⟨spaces, rfl⟩ := ofText_eq_ok_iff.mp first
  obtain ⟨trees, derived, made⟩ := rules_of_rulesUpTo (Nat.le_refl _) read
  generalize whole : significantLines text = all at derived
  cases derived with
  | nil => cases made
  | @rule inner header host below lines body trees placed reads deeper block some single later =>
    rw [List.map_cons] at made
    obtain ⟨rfl, none⟩ := List.cons.inj made
    obtain rfl := List.map_eq_nil_iff.mp none
    cases later with
    | nil =>
      rw [List.append_nil]
      exact ⟨spaces, header, host, inner, below, body, rfl, placed, reads, deeper, block, some,
        single, rfl⟩

theorem parseRules_of_rules {text : List Char} {trees : List RuleTree} (spaces : SpacesOnly text)
    (derived : Rules (significantLines text) trees) :
    parseRules text = .ok (trees.map RuleTree.rule) :=
  bind_eq_ok_iff.mpr ⟨_, ofText_eq_ok_iff.mpr ⟨spaces, rfl⟩,
    rulesUpTo_of_rules derived (Nat.le_refl _)⟩

theorem holds_make (host : Host) (holdOff : Nat) (w : When Condition) (ctx : Context) :
    (Rule.make host holdOff w).holds ctx =
      (holdOffElapsed holdOff (ctx.wakes.get? host) ctx.epoch &&
        w.children.all fun n => (n.map (BoundCondition.ofCondition host)).holds ctx) := by
  unfold Rule.holds Rule.make When.holds When.bind
  rw [When.eval_eq_all, When.children_map, List.all_map]
  rfl

/-- All clauses hold if and only if all conditions among them do and the hold-offs among them
have gone by. -/
theorem all_toNode_holds (host : Host) (ctx : Context) (cs : List Clause) :
    ((cs.map Clause.toNode).all fun n => (n.map (BoundCondition.ofCondition host)).holds ctx) =
      (((cs.filterMap Clause.node?).all fun n =>
          (n.map (BoundCondition.ofCondition host)).holds ctx) &&
        (cs.filterMap Clause.holdOff?).all fun n =>
          holdOffElapsed n (ctx.wakes.get? host) ctx.epoch) := by
  induction cs with
  | nil => rfl
  | cons c cs ih =>
    rw [List.map_cons, List.all_cons, ih]
    cases c with
    | node n =>
      have nodes : (Clause.node n :: cs).filterMap Clause.node? = n :: cs.filterMap Clause.node? := rfl
      have holdOffs : (Clause.node n :: cs).filterMap Clause.holdOff? =
          cs.filterMap Clause.holdOff? := rfl
      rw [nodes, holdOffs, List.all_cons, Bool.and_assoc, Clause.toNode]
    | holdOff n =>
      have nodes : (Clause.holdOff n :: cs).filterMap Clause.node? = cs.filterMap Clause.node? := rfl
      have holdOffs : (Clause.holdOff n :: cs).filterMap Clause.holdOff? =
          n :: cs.filterMap Clause.holdOff? := rfl
      rw [nodes, holdOffs, List.all_cons, Bool.and_left_comm]
      rfl

/-- A hold-off asked as a condition is as good as a hold-off of the rule, which then has none. -/
theorem holds_grouped {header header' opener : Line} {host : Host} {body body' : List ClauseTree}
    (single : (RuleTree.mk header host body).holdOffs.length ≤ 1)
    (same : body'.map ClauseTree.clause = body.map ClauseTree.clause) (ctx : Context) :
    (RuleTree.mk header' host [.group opener .all body']).rule.holds ctx =
      (RuleTree.mk header host body).rule.holds ctx := by
  have grouped : (RuleTree.mk header' host [.group opener .all body']).rule =
      Rule.make host 0 ⟨[.all ((body.map ClauseTree.clause).map Clause.toNode)]⟩ := by
    rw [← same, ← clauseTree_nodes_eq_map]
    rfl
  rw [grouped, RuleTree.rule, holds_make, holds_make, List.all_cons, List.all_nil, Bool.and_true,
    Node.map_all, Node.holds, Node.eval_all, List.all_map, RuleTree.conditions]
  change (_ && ((body.map ClauseTree.clause).map Clause.toNode).all fun n =>
    (n.map (BoundCondition.ofCondition host)).holds ctx) = _
  rw [all_toNode_holds]
  unfold RuleTree.holdOffs at single ⊢
  generalize (body.map ClauseTree.clause).filterMap Clause.holdOff? = holdOffs at single ⊢
  match holdOffs, single with
  | [], _ => rw [List.all_nil, Bool.and_true, List.headD_nil]
  | [n], _ =>
    rw [List.all_cons, List.all_nil, Bool.and_true, List.headD_cons]
    cases elapsed : holdOffElapsed n (ctx.wakes.get? host) ctx.epoch with
    | false => rw [Bool.and_false, Bool.and_false, Bool.false_and]
    | true =>
      rw [holdOffElapsed_of_le (Nat.zero_le n) elapsed, Bool.and_true]

/-- Under an `all:`, the block of a rule makes a rule that holds in the same contexts. -/
theorem parseRules_underAll (text : List Char) (rule : Rule)
    (read : parseRules text = .ok [rule]) :
    (∀ k, 0 < k → MovedUnderAll text (underAll k text)) ∧
    ∀ text', MovedUnderAll text text' →
      ∃ rule', parseRules text' = .ok [rule'] ∧ ∀ ctx, rule'.holds ctx = rule.holds ctx := by
  obtain ⟨spaces, header, host, inner, lines, body, counted, placed, reads, deeper, block, some,
    single, rfl⟩ := parseRules_eq_single read
  constructor
  · intro k wide
    obtain ⟨opener, lines', counted', named, column, relaid⟩ :=
      significantFrom_underAllLines k counted
    have whole : significantLines (underAll k text) = header :: opener :: lines' := by
      rw [significantLines, splitOn_underAll, counted']
    have right : ∀ l ∈ lines', opener.indent < l.indent := by
      intro l mem
      obtain ⟨i, within, rfl⟩ := List.mem_iff_getElem.mp mem
      have within' : i < lines.length := by rw [relaid.length_eq]; exact within
      have shift : lines'[i].indent = lines[i].indent + k :=
        ((List.forall₂_iff_get.mp relaid).2 i within' within).2
      have below := block.column_le _ (List.getElem_mem within')
      omega
    exact ⟨spacesOnly_underAll k spaces, header, header, opener, lines, lines', (· + k), counted,
      whole, rfl, rfl, named, by omega, right, fun a _ b _ order => Nat.add_lt_add_right order k,
      relaid⟩
  · rintro text' ⟨spaces', header₁, header', opener, lines₁, lines', f, counted₁, counted', same,
      level, named, right, below, increasing, relaid⟩
    obtain ⟨rfl, rfl⟩ := List.cons.inj (counted.symm.trans counted₁)
    obtain ⟨body', block', sameBody⟩ := block.relaid increasing relaid
    have filled : body' ≠ [] := by
      rintro rfl
      exact some (List.map_eq_nil_iff.mp sameBody.symm)
    have inside : opener.indent < f inner := by
      obtain ⟨first, rest, rfl⟩ := List.exists_cons_of_ne_nil (block'.ne_nil filled)
      rw [← block'.head_column first rfl]
      exact below first List.mem_cons_self
    have group : Clauses opener.indent (opener :: (lines' ++ [])) [.group opener .all body'] :=
      .group rfl ⟨[], by simp, by rw [named]; rfl⟩ inside block' filled (by simp) .nil
    have derived : Rules (significantLines text') [⟨header', host, [.group opener .all body']⟩] := by
      rw [counted', ← List.append_nil (opener :: lines'), ← List.append_nil lines']
      refine .rule (by omega) ?_ (by omega) group (by simp) (Nat.zero_le 1) .nil
      rw [same]
      exact reads
    exact ⟨_, parseRules_of_rules spaces' derived, holds_grouped single sameBody⟩

/-- A rule with a hold-off between two conditions, one of them a group. -/
def evenings : List Char :=
  "# office\nwake 00:11:22:33:44:55:\n  now Mon Tue\n\n  hold off 5 min\n  not:\n   hold off 1 h\n".toList

def inEvenings : Rule :=
  Rule.make ⟨none, ⟨0, 17, 34, 51, 68, 85⟩⟩ 300
    ⟨[.leaf (.dayOfWeek [.mon, .tue]), .not (.leaf (.holdOff 3600))]⟩

theorem parseRules_underAll_evenings :
    parseRules evenings = .ok [inEvenings] ∧ MovedUnderAll evenings (underAll 4 evenings) ∧
    ∃ rule', parseRules (underAll 4 evenings) = .ok [rule'] ∧
      ∀ ctx, rule'.holds ctx = inEvenings.holds ctx := by
  have read : parseRules evenings = .ok [inEvenings] := by decide +kernel
  obtain ⟨moved, kept⟩ := parseRules_underAll evenings inEvenings read
  exact ⟨read, moved 4 (by decide), kept _ (moved 4 (by decide))⟩

end RuleText

end Reveille
