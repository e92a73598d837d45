import Reveille.RuleText.Rules

/-!
# Reading step by step

The reading of rules with its state in the open: one cursor, which a step moves and which stays
moved if the step fails. A step that fails with a mismatch says that the line is not what was
tried on it, and may be followed by another try; any other failure is fatal. The kinds of clauses
are tried one after the other, in an order that is given.
-/

namespace Reveille.RuleText

/-- How a step fails. Lines and columns count from 1. -/
inductive Failure where
  | fatal (line column : Nat) (message : String)
  | mismatch (line column : Nat) (message : String)
  /-- The clauses below the line do not make a rule or a group. -/
  | configuration (line : Nat) (cause : PartsError)
deriving DecidableEq, Repr

namespace Failure

def isFatal : Failure → Bool
  | .mismatch .. => false
  | _ => true

def intoFatal : Failure → Failure
  | .mismatch line column message => .fatal line column message
  | failure => failure

/-- The failure that a fault of a text is. -/
def ofFault : ParseError → Failure
  | .malformed line column cause => .fatal line column cause.message
  | .parts line cause => .configuration line cause

/-- The line is not what was tried on it. -/
def ofMismatch (line : Line) (message : String) : Failure :=
  .mismatch line.number (line.indent + 1) message

end Failure

/-- A reading that moves a cursor and may fail. -/
abbrev Stepwise := ExceptT Failure (StateM Cursor)

namespace Stepwise

variable {α : Type}

/-- The outcome of a reading from a cursor on, and where the cursor is then. -/
def runAt (m : Stepwise α) (cur : Cursor) : Except Failure α × Cursor :=
  m.run.run cur

/-- Fails with what is wrong with a line from its first character on. -/
def refuse (line : Line) (cause : Malformation) : Stepwise α :=
  throw (.ofFault (line.malformed 0 cause))

def ofExcept (r : Except ParseError α) : Stepwise α :=
  match r with
  | .ok a => pure a
  | .error e => throw (.ofFault e)

def peek : Stepwise (Option Line) :=
  return (← get).rest.head?

def advance : Stepwise Unit :=
  modify fun cur => { cur with rest := cur.rest.tail }

/-! ### Columns -/

def checkPeer (line : Line) : Stepwise Unit := do
  let cur ← get
  if line.indent = cur.top then return ()
  else if cur.top < line.indent then refuse line .illegalNesting
  else throw (.ofMismatch line "not a peer entry")

def indent (line : Line) : Stepwise Unit := do
  let cur ← get
  if cur.top < line.indent then set (cur.push line.indent)
  else throw (.ofMismatch line "not an indent")

def checkUnindent (line : Line) : Stepwise Unit := do
  let cur ← get
  if line.indent < cur.top ∧ line.indent ≤ cur.enclosing then return ()
  else throw (.ofMismatch line "not an unindent")

/-! ### Clauses -/

/-- A kind of clause that takes one line. -/
def oneLine (message : String) (f : Line → Attempt Clause) (line : Line) : Stepwise Clause :=
  match f line with
  | .accepted c => return c
  | .mismatch => throw (.ofMismatch line message)
  | .failed e => throw (.ofFault e)

/-- `all:`, `any:` or `not:` and the block under it. -/
def group (block : Line → Stepwise (List Clause)) (line : Line) : Stepwise Clause :=
  match Quantifier.ofHeader line with
  | .mismatch => throw (.ofMismatch line "not a group")
  | .failed e => throw (.ofFault e)
  | .accepted q => do
    let clauses ← block line
    match q.group (clauses.map Clause.toNode) with
    | .ok node => return .node node
    | .error cause => throw (.configuration line.number cause)

/-- Tries one alternative after the other, up to the first that does not mismatch. -/
def firstMatch (line : Line) : List (Line → Stepwise Clause) → Stepwise Clause
  | [] => throw (.ofFault (Clause.unrecognized line))
  | a :: as => tryCatch (a line) fun failure =>
    if failure.isFatal then throw failure else firstMatch line as

/-- Whether the line goes on with the innermost block. -/
def isPeer (line : Line) : Stepwise Bool :=
  tryCatch (do checkPeer line; return true) fun failure =>
    if failure.isFatal then throw failure else return false

/-- Ends the innermost block, which the next line must leave for good. -/
def closeBlock : Stepwise Unit := do
  if let some line ← peek then
    tryCatch (checkUnindent line) fun _ => refuse line .illegalNesting
  modify Cursor.pop

end Stepwise

/-! ### Kinds of clauses -/

/-- What a line of a block may be. -/
inductive Kind where
  | window
  | inactivity
  | holdOff
  | days
  | group
deriving DecidableEq, Repr

namespace Kind

/-- Every kind, in the order in which they are tried. -/
def all : List Kind :=
  [.window, .inactivity, .holdOff, .days, .group]

/-- What is said of a line of another kind. -/
def denial : Kind → String
  | .window => "not a time window"
  | .inactivity => "not an inactivity clause"
  | .holdOff => "not a hold off clause"
  | .days => "not a day restriction"
  | .group => "not a group"

/-- Tries the kind on a line. -/
def trial (block : Line → Stepwise (List Clause)) : Kind → Line → Stepwise Clause
  | .window => Stepwise.oneLine window.denial Clause.timeWindow
  | .inactivity => Stepwise.oneLine inactivity.denial Clause.inactivity
  | .holdOff => Stepwise.oneLine holdOff.denial Clause.holdOffClause
  | .days => Stepwise.oneLine days.denial Clause.dayRestriction
  | .group => Stepwise.group block

end Kind

namespace Stepwise

/-! ### Rules, the kinds being tried in an order -/

section Order

variable (order : List Kind)

def clauseIn (block : Line → Stepwise (List Clause)) (line : Line) : Stepwise Clause :=
  firstMatch line (order.map (Kind.trial block))

/-- Reads the clauses of the innermost block, at most so many. -/
def clausesIn (block : Line → Stepwise (List Clause)) : Nat → Stepwise (List Clause)
  | 0 => return []
  | n + 1 => do
    match ← peek with
    | none => return []
    | some line =>
      if ← isPeer line then
        advance
        let c ← clauseIn order block line
        let cs ← clausesIn block n
        return c :: cs
      else return []

/-- Reads the block under a header. Blocks nest at most so deep below it. -/
def blockUpToIn : Nat → Line → Stepwise (List Clause)
  | 0, header => refuse header .blockMissing
  | n + 1, header => do
    match ← peek with
    | none => refuse header .blockMissing
    | some first =>
      tryCatch (indent first) fun _ => refuse first .blockExpected
      let cs ← clausesIn order (blockUpToIn n) (← get).rest.length
      closeBlock
      return cs

def blockIn (header : Line) : Stepwise (List Clause) := do
  blockUpToIn order (← get).rest.length header

def ruleIn (line : Line) : Stepwise Rule := do
  let host ← ofExcept (header line)
  let cs ← blockIn order line
  match Rule.ofParts (ruleParts host cs) with
  | .ok r => return r
  | .error cause => throw (.configuration line.number cause)

/-- Reads rules, at most so many. At the top level there is no block to end. -/
def rulesUpToIn : Nat → Stepwise (List Rule)
  | 0 => return []
  | n + 1 => do
    match ← peek with
    | none => return []
    | some line =>
      tryCatch (checkPeer line) fun failure => throw failure.intoFatal
      advance
      let r ← ruleIn order line
      let rs ← rulesUpToIn n
      return r :: rs

/-- The rules of a text, read step by step. -/
def parseRulesIn (text : List Char) : Except Failure (List Rule) :=
  match Line.ofText text with
  | .error e => .error (.ofFault e)
  | .ok lines => ((rulesUpToIn order lines.length).runAt ⟨lines, [0]⟩).1

end Order

/-! ### Rules -/

def clause : (Line → Stepwise (List Clause)) → Line → Stepwise Clause :=
  clauseIn Kind.all

def clauses : (Line → Stepwise (List Clause)) → Nat → Stepwise (List Clause) :=
  clausesIn Kind.all

def blockUpTo : Nat → Line → Stepwise (List Clause) :=
  blockUpToIn Kind.all

def block : Line → Stepwise (List Clause) :=
  blockIn Kind.all

def rule : Line → Stepwise Rule :=
  ruleIn Kind.all

def rulesUpTo : Nat → Stepwise (List Rule) :=
  rulesUpToIn Kind.all

def parseRules : List Char → Except Failure (List Rule) :=
  parseRulesIn Kind.all

end Stepwise

end Reveille.RuleText
