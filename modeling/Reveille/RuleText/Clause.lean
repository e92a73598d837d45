import Reveille.RuleText.Line

/-!
# Clauses of one line

Each kind of clause is tried on a line in turn. A trial ends in a mismatch (the line is of
another kind), in a fault (it is of this kind, but malformed), or in the clause.
-/

namespace Reveille.RuleText

open Reveille.Calendar Reveille.Text

/-- What trying one kind of clause comes to. -/
inductive Attempt (α : Type) where
  | accepted (value : α)
  | mismatch
  | failed (error : ParseError)
deriving DecidableEq, Repr

namespace Attempt

/-- The outcome of a reading that can no longer be a mismatch. -/
def ofExcept {α : Type} : Except ParseError α → Attempt α
  | .ok a => .accepted a
  | .error e => .failed e

def map {α β : Type} (f : α → β) : Attempt α → Attempt β
  | .accepted a => .accepted (f a)
  | .mismatch => .mismatch
  | .failed e => .failed e

end Attempt

/-- A clause of a block. Right under a rule header a hold-off is a part of the rule and not one
of its conditions. -/
inductive Clause where
  | node (node : Node Condition)
  | holdOff (seconds : Nat)
deriving DecidableEq

namespace Clause

/-- The words a clause may start with. -/
def keywords : List String :=
  ["inactivity", "hold", "now", "all:", "any:", "not:"]

def startsWith (word : String) (words : List Piece) : Bool :=
  words.head?.map Piece.chars = some word.toList

def unitSeconds? (name : List Char) : Option Nat :=
  (units.find? (·.1.toList = name)).map (·.2)

/-- The seconds that an amount and a unit stand for. -/
def interval (line : Line) : List Piece → Except ParseError Nat
  | [amount, unit] =>
    match readNat? maxWord amount.chars with
    | none => .error (line.malformed amount.offset (.amount amount.text))
    | some n =>
      match unitSeconds? unit.chars with
      | none => .error (line.malformed unit.offset (.unit unit.text))
      | some k =>
        if n * k ≤ maxWord then .ok (n * k) else .error (line.malformed 0 .intervalTooLarge)
  | _ => .error (line.malformed 0 .intervalShape)

def timeOfDay (line : Line) (p : Piece) : Except ParseError TimeOfDay :=
  match TimeOfDay.ofLiteral? p.chars with
  | some t => .ok t
  | none => .error (line.malformed p.offset (.time p.text))

/-- `hh[:mm[:ss]] < now < hh[:mm[:ss]]`, of the pieces between the signs. -/
def window (line : Line) : List Piece → Except ParseError Clause
  | [first, middle, last] => do
    if middle.chars ≠ "now".toList then throw (line.malformed 0 .windowShape)
    let start ← timeOfDay line first
    let stop ← timeOfDay line last
    if start.before stop then return .node (.leaf (.timeBetween start stop))
    throw (line.malformed last.offset .windowOrder)
  | _ => .error (line.malformed 0 .windowShape)

def timeWindow (line : Line) : Attempt Clause :=
  if '<' ∈ line.text then .ofExcept (window line ((split '<' line.text).map Piece.trim))
  else .mismatch

/-- `inactivity <integer> <unit>` -/
def inactivity (line : Line) : Attempt Clause :=
  if startsWith "inactivity" line.words then
    .ofExcept ((interval line (line.words.drop 1)).map fun n => .node (.leaf (.inactiveFor n)))
  else .mismatch

/-- `hold off <integer> <unit>` -/
def holdOffClause (line : Line) : Attempt Clause :=
  if startsWith "hold" line.words then
    if startsWith "off" (line.words.drop 1) then
      .ofExcept ((interval line (line.words.drop 2)).map .holdOff)
    else .failed (line.malformed 0 .holdOffShape)
  else .mismatch

/-- The weekdays these words name, each once. -/
def weekdays (line : Line) : List Weekday → List Piece → Except ParseError (List Weekday)
  | days, [] => .ok days
  | days, p :: ps =>
    match Weekday.ofName? p.chars with
    | some d => weekdays line (if d ∈ days then days else days ++ [d]) ps
    | none => .error (line.malformed p.offset (.weekday p.text (Weekday.nearestName? p.chars)))

/-- `now <weekday>...`, without the first word. -/
def dayList (line : Line) (names : List Piece) : Except ParseError (Node Condition) :=
  if names = [] then .error (line.malformed 0 .weekdayMissing)
  else (weekdays line [] names).map fun days => .leaf (.dayOfWeek days)

/-- `now [not] <weekday>...` -/
def dayRestriction (line : Line) : Attempt Clause :=
  if startsWith "now" line.words then
    let names := line.words.drop 1
    if startsWith "not" names then
      .ofExcept ((dayList line (names.drop 1)).map fun n => .node (.not n))
    else .ofExcept ((dayList line names).map .node)
  else .mismatch

/-- The clauses that take one line, in the order in which they are tried. -/
def oneLine : List (Line → Attempt Clause) :=
  [timeWindow, inactivity, holdOffClause, dayRestriction]

def unrecognized (line : Line) : ParseError :=
  let first := (line.words.head?.map Piece.chars).getD line.text
  if first = "wake".toList then line.malformed 0 .nestedRule
  else
    line.malformed 0 (.unrecognized (String.ofList line.text) (closest? first keywords))

/-- The condition a clause is within a group. -/
def toNode : Clause → Node Condition
  | .node n => n
  | .holdOff n => .leaf (.holdOff n)

/-- The condition a clause is right under a rule header. -/
def node? : Clause → Option (Node Condition)
  | .node n => some n
  | .holdOff _ => none

/-- The hold-off a clause is right under a rule header. -/
def holdOff? : Clause → Option Nat
  | .node _ => none
  | .holdOff n => some n

end Clause

end Reveille.RuleText
