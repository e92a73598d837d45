import Reveille.RuleText.Error

/-!
# Lines of rule texts

A line counts if anything is left of it without its comment and the blanks around it. Only
spaces may stand before what counts.
-/

namespace Reveille.RuleText

open Reveille.Text

/-- A line that counts. -/
structure Line where
  /-- Its number in the text, from 1. -/
  number : Nat
  /-- The number of spaces before its text. -/
  indent : Nat
  /-- What counts of it. -/
  text : List Char
deriving DecidableEq, Repr

namespace Line

def words (line : Line) : List Piece :=
  Text.words line.text

/-- The line is malformed, so many bytes into its text. -/
def malformed (line : Line) (offset : Nat) (cause : Malformation) : ParseError :=
  .malformed line.number (line.indent + offset + 1) cause

/-- The first character of the indentation that is no space, by its distance from the start. -/
def forbidden? : Nat → List Char → Option (Nat × Malformation)
  | _, [] => none
  | i, c :: cs =>
    if c = ' ' then forbidden? (i + 1) cs
    else some (i, if c = '\t' then .tabIndent else .blankIndent)

/-- What a line of the text comes to, if it counts. -/
def ofRaw? (number : Nat) (raw : List Char) : Except ParseError (Option Line) :=
  let content := trimEnd (raw.takeWhile (· ≠ '#'))
  let text := trimStart content
  let indentation := content.takeWhile isBlank
  if text = [] then .ok none
  else
    match forbidden? 0 indentation with
    | some (i, cause) => .error (.malformed number (i + 1) cause)
    | none => .ok (some ⟨number, indentation.length, text⟩)

/-- The lines that count, of lines numbered from `number`. -/
def ofRaws (number : Nat) : List (List Char) → Except ParseError (List Line)
  | [] => .ok []
  | raw :: raws => do
    let line? ← ofRaw? number raw
    let lines ← ofRaws (number + 1) raws
    return line?.toList ++ lines

/-- The lines that count in a text. -/
def ofText (text : List Char) : Except ParseError (List Line) :=
  ofRaws 1 ((split '\n' text).map Piece.chars)

end Line

end Reveille.RuleText
