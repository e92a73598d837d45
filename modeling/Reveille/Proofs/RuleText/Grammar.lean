import Reveille.Proofs.Calendar.Literals
import Reveille.Proofs.RuleText.Line
import Reveille.Proofs.Text.Digits
import Reveille.RuleText.Rules

/-!
# The grammar of rule texts

The rules that lines stand for, said without a parser: the texts of single lines first, then how
columns hold lines together. Blanks between the parts of a line are free. A derivation is a tree
that keeps the lines it was read from, so that two derivations of the same lines are the same
only if they cut the lines in the same places.
-/

namespace Reveille.RuleText.Grammar

open Reveille.Calendar Reveille.Net Reveille.Text

/-! ### Single lines -/

/-- An amount and a unit that make so many seconds, which fit a word of 64 bits. -/
def IsInterval (amount unit : List Char) (seconds : Nat) : Prop :=
  ∃ n name k, IsNumeral maxWord amount n ∧ (name, k) ∈ units ∧ name.toList = unit ∧
    n * k = seconds ∧ seconds ≤ maxWord

/-- Each word is a name of the weekday at its place. -/
def NameDays (names : List (List Char)) (days : List Weekday) : Prop :=
  List.Forall₂ (fun name d => d.fullName.toList = name ∨ d.shortName.toList = name) names days

/-- The clauses that take one line. -/
inductive IsClause : List Char → Clause → Prop where
  | window {a b c : List Char} {start stop : TimeOfDay} (first : IsTime (trim a) start)
      (middle : trim b = "now".toList) (last : IsTime (trim c) stop)
      (order : start.before stop = true) :
      IsClause (a ++ '<' :: (b ++ '<' :: c)) (.node (.leaf (.timeBetween start stop)))
  | inactivity {s amount unit : List Char} {n : Nat}
      (words : wordChars s = ["inactivity".toList, amount, unit])
      (interval : IsInterval amount unit n) :
      IsClause s (.node (.leaf (.inactiveFor n)))
  | holdOff {s amount unit : List Char} {n : Nat}
      (words : wordChars s = ["hold".toList, "off".toList, amount, unit])
      (interval : IsInterval amount unit n) :
      IsClause s (.holdOff n)
  | days {s : List Char} {names : List (List Char)} {days : List Weekday}
      (words : wordChars s = "now".toList :: names) (some : names ≠ [])
      (named : NameDays names days) :
      IsClause s (.node (.leaf (.dayOfWeek days.eraseDups)))
  | otherDays {s : List Char} {names : List (List Char)} {days : List Weekday}
      (words : wordChars s = "now".toList :: "not".toList :: names) (some : names ≠ [])
      (named : NameDays names days) :
      IsClause s (.node (.not (.leaf (.dayOfWeek days.eraseDups))))

def keyword : Quantifier → List Char
  | .all => "all".toList
  | .any => "any".toList
  | .not => "not".toList

/-- `all:`, `any:` or `not:`. -/
def IsGroupHeader (s : List Char) (q : Quantifier) : Prop :=
  ∃ blanks, (∀ c ∈ blanks, isBlank c = true) ∧ s = keyword q ++ blanks ++ [':']

/-- `wake <mac> [<address>]:`. -/
inductive IsRuleHeader : List Char → Host → Prop where
  | mac {s m : List Char} {mac : Mac} (words : wordChars s = ["wake".toList, m])
      (readMac : Mac.ofText? m = some mac) :
      IsRuleHeader (s ++ [':']) ⟨none, mac⟩
  | address {s m a : List Char} {mac : Mac} {address : Address}
      (words : wordChars s = ["wake".toList, m, a]) (readMac : Mac.ofText? m = some mac)
      (readAddress : Address.ofText? a = some address) :
      IsRuleHeader (s ++ [':']) ⟨some address, mac⟩

/-! ### Syntax trees -/

/-- A clause with the lines it was read from. -/
inductive ClauseTree where
  | line (line : Line) (clause : Clause)
  | group (header : Line) (quantifier : Quantifier) (body : List ClauseTree)

/-- The group of these conditions, `not` being about the first of them. -/
def groupNode : Quantifier → List (Node Condition) → Node Condition
  | .all, cs => .all cs
  | .any, cs => .any cs
  | .not, cs => .not (cs.headD (.all []))

mutual

def ClauseTree.clause : ClauseTree → Clause
  | .line _ c => c
  | .group _ q body => .node (groupNode q (ClauseTree.nodes body))

def ClauseTree.nodes : List ClauseTree → List (Node Condition)
  | [] => []
  | t :: ts => t.clause.toNode :: ClauseTree.nodes ts

end

/-- A rule with the lines it was read from. -/
structure RuleTree where
  header : Line
  host : Host
  body : List ClauseTree

namespace RuleTree

def holdOffs (t : RuleTree) : List Nat :=
  (t.body.map ClauseTree.clause).filterMap Clause.holdOff?

def conditions (t : RuleTree) : When Condition :=
  ⟨(t.body.map ClauseTree.clause).filterMap Clause.node?⟩

/-- The rule that a tree stands for, without a hold-off if it names none. -/
def rule (t : RuleTree) : Rule :=
  Rule.make t.host (t.holdOffs.headD 0) t.conditions

end RuleTree

/-! ### Layout -/

/-- Lines that are clauses, all of them starting at one column. The lines below a group header
are a block: clauses, at least one, at a column right of the header. -/
inductive Clauses : Nat → List Line → List ClauseTree → Prop where
  | nil {column : Nat} : Clauses column [] []
  | line {column : Nat} {line : Line} {c : Clause} {lines : List Line} {trees : List ClauseTree}
      (placed : line.indent = column) (reads : IsClause line.text c)
      (later : Clauses column lines trees) :
      Clauses column (line :: lines) (.line line c :: trees)
  | group {column inner : Nat} {header : Line} {q : Quantifier} {below lines : List Line}
      {body trees : List ClauseTree}
      (placed : header.indent = column) (reads : IsGroupHeader header.text q)
      (deeper : column < inner) (block : Clauses inner below body) (some : body ≠ [])
      (arity : q = .not → body.length = 1) (later : Clauses column lines trees) :
      Clauses column (header :: (below ++ lines)) (.group header q body :: trees)

/-- Lines that are rules: headers at column 0, each with a block below it. -/
inductive Rules : List Line → List RuleTree → Prop where
  | nil : Rules [] []
  | rule {inner : Nat} {header : Line} {host : Host} {below lines : List Line}
      {body : List ClauseTree} {trees : List RuleTree}
      (placed : header.indent = 0) (reads : IsRuleHeader header.text host)
      (deeper : 0 < inner) (block : Clauses inner below body) (some : body ≠ [])
      (single : (RuleTree.mk header host body).holdOffs.length ≤ 1)
      (later : Rules lines trees) :
      Rules (header :: (below ++ lines)) (⟨header, host, body⟩ :: trees)

end Reveille.RuleText.Grammar
