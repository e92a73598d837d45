import Reveille.Rule.Registry
import Reveille.RuleText.Block

/-!
# Rule texts

A rule text is a sequence of rules: a header `wake <mac> [<address>]:` at column 0 and the block
under it. `parseRules` reads a whole text or says what its first fault is.
-/

namespace Reveille.RuleText

open Reveille.Net Reveille.Text

/-- What may have been meant by a line that starts with another word than `wake`. -/
def headerHint (found : List Char) : HeaderHint :=
  if (closest? found ["wake"]).isSome then .misspelled
  else if Clause.keywords.any fun k => k.toList.takeWhile (· ≠ ':') = found then .clause
  else .unknown

def headerAddress (line : Line) : Option Piece → Except ParseError (Option Address)
  | none => .ok none
  | some p =>
    match Address.ofText? p.chars with
    | some a => .ok (some a)
    | none => .error (line.malformed p.offset (.address p.text))

def headerHost (line : Line) (words : List Piece) : Except ParseError Host := do
  let some macWord := words[1]? | throw (line.malformed 0 .macMissing)
  let some mac := Mac.ofText? macWord.chars
    | throw (line.malformed macWord.offset (.mac macWord.text))
  let address ← headerAddress line words[2]?
  match words[3]? with
  | none => return ⟨address, mac⟩
  | some p => throw (line.malformed p.offset (.headerExtra p.text))

def header (line : Line) : Except ParseError Host :=
  if Clause.startsWith "wake" line.words then
    match dropLast? ':' line.text with
    | some text => headerHost line (Text.words text)
    | none => .error (line.malformed 0 .headerColon)
  else
    let found := line.words.headD ⟨0, line.text⟩
    .error (line.malformed found.offset (.noHeader found.text (headerHint found.chars)))

/-- The parts that a header and the clauses under it make up. -/
def ruleParts (host : Host) (clauses : List Clause) : List RulePart :=
  .host host :: (clauses.filterMap Clause.holdOff?).map .holdOff
    ++ [.conditions ⟨clauses.filterMap Clause.node?⟩]

/-- Reads the rule whose header is the line, the cursor being right after it. -/
def rule (line : Line) (cur : Cursor) : Except ParseError (Rule × Cursor) := do
  let host ← header line
  let (cs, cur) ← block line cur
  match Rule.ofParts (ruleParts host cs) with
  | .ok r => return (r, cur)
  | .error cause => throw (.parts line.number cause)

/-- Reads rules, at most `n` of them. -/
def rulesUpTo : Nat → Cursor → Except ParseError (List Rule)
  | 0, _ => .ok []
  | n + 1, cur =>
    match cur.rest with
    | [] => .ok []
    | line :: rest =>
      if line.indent = cur.top then do
        let (r, cur) ← rule line { cur with rest }
        let rs ← rulesUpTo n cur
        return r :: rs
      else .error (line.malformed 0 .illegalNesting)

def rulesOfLines (lines : List Line) : Except ParseError (List Rule) :=
  rulesUpTo lines.length ⟨lines, [0]⟩

/-- The rules of a text, in the order in which they are written. -/
def parseRules (text : List Char) : Except ParseError (List Rule) := do
  rulesOfLines (← Line.ofText text)

/-- Adds the rules of a text to a registry, or none of them if the text has a fault: the registry
after it, and the number of rules added. -/
def loadRules (text : List Char) (reg : Registry) : Registry × Except ParseError Nat :=
  match parseRules text with
  | .ok rules => (reg.addAll rules, .ok rules.length)
  | .error e => (reg, .error e)

end Reveille.RuleText
