import Reveille.Pattern.Basic
import Reveille.Text.Blank
import Reveille.Text.Digits

/-!
# Characters and escapes of patterns

A character stands for itself unless it is a sign; after a backslash signs stand for themselves and
letters for something else. In verbose mode blanks and comments mean nothing.
-/

namespace Reveille.Pattern

open Reveille.Text

structure Mode where
  verbose : Bool
  bytes : Bool
deriving DecidableEq, Repr

/-- The text without the blanks and the comments it starts with. A comment goes from its sign to
the end of the line. -/
def afterBlanks (comment : Bool) : List Char → List Char
  | [] => []
  | c :: cs =>
    if comment then afterBlanks (c ≠ '\n') cs
    else if c = '#' then afterBlanks true cs
    else if isBlank c then afterBlanks false cs
    else c :: cs

/-- The text without what means nothing at its start. -/
def Mode.skip (m : Mode) (s : List Char) : List Char :=
  if m.verbose then afterBlanks false s else s

/-- The number of as many hexadecimal digits, read on from the number so far. -/
def hexNumber (m : Mode) : Nat → Nat → List Char → Option (Nat × List Char)
  | 0, value, s => some (value, s)
  | n + 1, value, s =>
    match m.skip s with
    | c :: rest => (hexValue? c).bind fun d => hexNumber m n (16 * value + d) rest
    | [] => none

/-- How many digits follow a letter that stands for a character by its number. -/
def digitCount? : Char → Option Nat
  | 'x' => some 2
  | 'u' => some 4
  | 'U' => some 8
  | _ => none

def categoryLetters : List Char :=
  ['c', 'l', 'm', 'n', 'p', 's', 'z']

/-- What a letter means after a backslash. -/
def letterMeaning? (m : Mode) : Char → Option Expr
  | 'd' => some (.set (.named .digit false))
  | 'D' => some (.set (.named .digit true))
  | 's' => some (.set (.named .space false))
  | 'S' => some (.set (.named .space true))
  | 'w' => some (.set (.named .word false))
  | 'W' => some (.set (.named .word true))
  | 'a' => some (.literal ⟨'\x07', false⟩)
  | 'f' => some (.literal ⟨'\x0c', false⟩)
  | 't' => some (.literal ⟨'\t', false⟩)
  | 'n' => some (.literal ⟨'\n', false⟩)
  | 'r' => some (.literal ⟨'\r', false⟩)
  | 'v' => some (.literal ⟨'\x0b', false⟩)
  | 'A' => some (.anchor .textStart m.bytes)
  | 'z' => some (.anchor .textEnd m.bytes)
  | 'b' => some (.anchor .wordEdge m.bytes)
  | 'B' => some (.anchor .noWordEdge m.bytes)
  | _ => none

/-- What any other character means after a backslash. -/
def signMeaning? (m : Mode) (c : Char) : Option Expr :=
  if c = '<' then some (.anchor .wordStart m.bytes)
  else if c = '>' then some (.anchor .wordEnd m.bytes)
  else if c.toNat < 0x80 && !c.isAlphanum then some (.literal ⟨c, false⟩)
  else none

def escape (m : Mode) : List Char → Option (Expr × List Char)
  | [] => none
  | c :: rest =>
    if c = 'p' ∨ c = 'P' then
      match m.skip rest with
      | l :: rest =>
        if l.toLower ∈ categoryLetters then
          some (.set (.named (.category l.toLower) (c = 'P')), rest)
        else none
      | [] => none
    else
      match digitCount? c with
      | some n =>
        (hexNumber m n 0 rest).bind fun (value, rest) =>
          if value.isValidChar then some (.literal ⟨Char.ofNat value, n = 2⟩, rest) else none
      | none => ((letterMeaning? m c).or (signMeaning? m c)).map fun e => (e, rest)

/-- Whether an expression may stand in this mode. Where bytes are matched, it must not match a part
of a character. -/
def Mode.admits (m : Mode) (e : Expr) : Bool :=
  !m.bytes || match e with
    | .any => false
    | .literal l => !l.byte || l.isAscii
    | .set s => s.isAscii
    | _ => true

end Reveille.Pattern
