import Reveille.RuleText.Clause

/-!
# Blocks

Structure comes from columns alone. A cursor holds the lines not read yet and the columns of
the blocks that are open. A line at the innermost column goes on with the innermost block; a
line at or left of the column around it ends that block; a deeper line may only follow a header.
-/

namespace Reveille.RuleText

/-- Where a parse stands. -/
structure Cursor where
  /-- The lines not read yet. -/
  rest : List Line
  /-- The columns of the open blocks, innermost first. -/
  columns : List Nat
deriving DecidableEq, Repr

namespace Cursor

def top (cur : Cursor) : Nat := cur.columns.headD 0

/-- The column of the block around the innermost one. -/
def enclosing (cur : Cursor) : Nat := cur.columns.tail.headD 0

def push (cur : Cursor) (column : Nat) : Cursor :=
  { cur with columns := column :: cur.columns }

def pop (cur : Cursor) : Cursor :=
  { cur with columns := cur.columns.tail }

end Cursor

/-- What a group asks of its conditions. -/
inductive Quantifier where
  | all
  | any
  | not
deriving DecidableEq, Repr

namespace Quantifier

def ofKeyword? (keyword : List Char) : Option Quantifier :=
  if keyword = "all".toList then some .all
  else if keyword = "any".toList then some .any
  else if keyword = "not".toList then some .not
  else none

def group : Quantifier → List (Node Condition) → Except PartsError (Node Condition)
  | .all, cs => .ok (.all cs)
  | .any, cs => .ok (.any cs)
  | .not, cs => Node.negate cs

/-- The quantifier a group header names: a keyword and a colon. -/
def ofHeader (line : Line) : Attempt Quantifier :=
  match Text.dropLast? ':' line.text with
  | some text =>
    match ofKeyword? (Text.trimEnd text) with
    | some q => .accepted q
    | none => .mismatch
  | none =>
    match ofKeyword? line.text with
    | some _ => .failed (line.malformed 0 (.groupColon (String.ofList line.text)))
    | none => .mismatch

end Quantifier

/-- Reads the block under a header line. -/
abbrev BlockReader := Line → Cursor → Except ParseError (List Clause × Cursor)

/-- A kind of clause: what trying it on a line comes to, the cursor being right after it. -/
abbrev Alternative := Line → Cursor → Attempt (Clause × Cursor)

/-- A clause that takes one line leaves the cursor where it is. -/
def Alternative.ofLine (f : Line → Attempt Clause) : Alternative :=
  fun line cur => (f line).map fun c => (c, cur)

/-- `all:`, `any:` or `not:` and the block under it. -/
def Alternative.group (block : BlockReader) : Alternative := fun line cur =>
  match Quantifier.ofHeader line with
  | .mismatch => .mismatch
  | .failed e => .failed e
  | .accepted q =>
    match block line cur with
    | .error e => .failed e
    | .ok (clauses, cur) =>
      match q.group (clauses.map Clause.toNode) with
      | .error cause => .failed (.parts line.number cause)
      | .ok node => .accepted (.node node, cur)

/-- Every kind of clause, in the order in which they are tried. -/
def alternatives (block : BlockReader) : List Alternative :=
  Clause.oneLine.map Alternative.ofLine ++ [Alternative.group block]

/-- The outcome of the first alternative that does not mismatch. -/
def firstMatch (line : Line) (cur : Cursor) : List Alternative → Attempt (Clause × Cursor)
  | [] => .mismatch
  | a :: as =>
    match a line cur with
    | .mismatch => firstMatch line cur as
    | outcome => outcome

/-- Reads the clause that starts on a line, the cursor being right after it. -/
def clause (block : BlockReader) (line : Line) (cur : Cursor) :
    Except ParseError (Clause × Cursor) :=
  match firstMatch line cur (alternatives block) with
  | .accepted r => .ok r
  | .failed e => .error e
  | .mismatch => .error (Clause.unrecognized line)

/-- Reads clauses at the innermost column, at most `n` of them. -/
def clauses (block : BlockReader) : Nat → Cursor → Except ParseError (List Clause × Cursor)
  | 0, cur => .ok ([], cur)
  | n + 1, cur =>
    match cur.rest with
    | [] => .ok ([], cur)
    | line :: rest =>
      if line.indent = cur.top then do
        let (c, cur) ← clause block line { cur with rest }
        let (cs, cur) ← clauses block n cur
        return (c :: cs, cur)
      else if cur.top < line.indent then .error (line.malformed 0 .illegalNesting)
      else .ok ([], cur)

/-- Ends the innermost block, which the next line must leave for good. -/
def closeBlock (cur : Cursor) : Except ParseError Cursor :=
  match cur.rest with
  | [] => .ok cur.pop
  | line :: _ =>
    if line.indent < cur.top ∧ line.indent ≤ cur.enclosing then .ok cur.pop
    else .error (line.malformed 0 .illegalNesting)

/-- Reads the block under a header. Blocks nest at most `n` deep below it: no deeper than there
are lines left. -/
def blockUpTo : Nat → BlockReader
  | 0, header, _ => .error (header.malformed 0 .blockMissing)
  | n + 1, header, cur =>
    match cur.rest with
    | [] => .error (header.malformed 0 .blockMissing)
    | first :: _ =>
      if cur.top < first.indent then do
        let (cs, cur) ← clauses (blockUpTo n) cur.rest.length (cur.push first.indent)
        return (cs, ← closeBlock cur)
      else .error (first.malformed 0 .blockExpected)

def block : BlockReader := fun header cur =>
  blockUpTo cur.rest.length header cur

end Reveille.RuleText
