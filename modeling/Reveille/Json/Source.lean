import Reveille.Json.Fault
import Reveille.Text.Blank

/-!
# What is left of a JSON text

A source is what has not been read yet, with the line and the number of bytes read of it. A
reader takes a value off the front of a source, or fails at a position: `here`, after all that
has been read, or `next`, after one more byte.
-/

namespace Reveille.Json

open Reveille.Text

structure Source where
  rest : List Char
  line : Nat
  column : Nat
deriving DecidableEq, Repr

/-- Takes a value off the front of a source. -/
abbrev Reader (α : Type) := Source → Except Fault (α × Source)

namespace Source

def ofText (text : List Char) : Source :=
  ⟨text, 1, 0⟩

/-- Goes past a character. -/
def past (c : Char) (rest : List Char) (s : Source) : Source :=
  if c = '\n' then ⟨rest, s.line + 1, 0⟩ else ⟨rest, s.line, s.column + c.utf8Size⟩

/-- Goes past the next character, if there is one. -/
def advance (s : Source) : Source :=
  match s.rest with
  | [] => s
  | c :: rest => s.past c rest

/-- Goes past characters up to the first one that fails the test. -/
def skipWhile (p : Char → Bool) (s : Source) : Source :=
  go s.line s.column s.rest
where
  go (line column : Nat) : List Char → Source
    | [] => ⟨[], line, column⟩
    | c :: cs =>
      if p c then
        if c = '\n' then go (line + 1) 0 cs else go line (column + c.utf8Size) cs
      else ⟨c :: cs, line, column⟩

/-- The characters that may stand between the parts of a text. -/
def isBlank (c : Char) : Bool :=
  c = ' ' || c = '\t' || c = '\n' || c = '\r'

def skipBlanks (s : Source) : Source :=
  s.skipWhile isBlank

/-- The next character. -/
def peek? (s : Source) : Option Char :=
  s.rest.head?

/-- A fault after all that has been read. -/
def here (s : Source) (cause : Cause) : Fault :=
  ⟨cause, s.line, s.column⟩

/-- A fault at the next byte, or at the end of the text if that has been reached. -/
def next (s : Source) (cause : Cause) : Fault :=
  match s.rest with
  | [] => ⟨cause, s.line, s.column⟩
  | c :: _ => if c = '\n' then ⟨cause, s.line + 1, 0⟩ else ⟨cause, s.line, s.column + 1⟩

/-- Goes past so many bytes, or to the end of the text. Of a character that they cut, the
remaining bytes are left out of the text. -/
def skipBytes : Nat → Source → Source
  | n, ⟨rest, line, column⟩ => go n line column rest
where
  go (n line column : Nat) : List Char → Source
    | [] => ⟨[], line, column⟩
    | c :: cs =>
      if n = 0 then ⟨c :: cs, line, column⟩
      else if c = '\n' then go (n - 1) (line + 1) 0 cs
      else if c.utf8Size ≤ n then go (n - c.utf8Size) line (column + c.utf8Size) cs
      else ⟨cs, line, column + n⟩

end Source

end Reveille.Json
