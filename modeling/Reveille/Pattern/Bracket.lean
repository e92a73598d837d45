import Reveille.Pattern.Escape

/-!
# Sets of characters in brackets

Between brackets stand characters, ranges, escapes, classes of ASCII characters, further brackets,
and the signs of operations, all of which bind alike from the left.
-/

namespace Reveille.Pattern

open Reveille.Text

def asciiNames : List String :=
  ["alnum", "alpha", "ascii", "blank", "cntrl", "digit", "graph", "lower", "print", "punct",
   "space", "upper", "word", "xdigit"]

def asciiClass? : List Char → Option (CharSet × List Char)
  | ':' :: rest =>
    let (negated, rest) := match rest with
      | '^' :: rest => (true, rest)
      | _ => (false, rest)
    let name := rest.takeWhile (· ≠ ':')
    match rest.drop name.length with
    | ':' :: ']' :: rest =>
      if String.ofList name ∈ asciiNames then
        some (.named (.ascii (String.ofList name)) negated, rest)
      else none
    | _ => none
  | _ => none

/-- A character or an escape. -/
def setItem (m : Mode) : List Char → Option (Expr × List Char)
  | [] => none
  | '\\' :: rest => escape m rest
  | c :: rest => some (.literal ⟨c, false⟩, rest)

def Expr.set? : Expr → Option CharSet
  | .literal l => some (.literal l)
  | .set s => some s
  | _ => none

/-- The character that an expression is. -/
def Expr.literal? : Expr → Option Literal
  | .literal l => some l
  | _ => none

/-- Whether a hyphen makes no range, by the text after it: the next character is a closing bracket
or another hyphen. Of a comment the first character counts. -/
def endsItem (m : Mode) (s : List Char) : Bool :=
  let s := match m.verbose, s.dropWhile isBlank with
    | false, _ => s
    | true, '#' :: rest => rest.dropWhile isBlank
    | true, rest => rest
  s.head? = some ']' || s.head? = some '-'

def itemOrRange (m : Mode) (s : List Char) : Option (CharSet × List Char) := do
  let (low, rest) ← setItem m s
  let rest := m.skip rest
  match rest with
  | '-' :: more =>
    if endsItem m more then return (← low.set?, rest)
    let (high, rest) ← setItem m (m.skip more)
    let low ← low.literal?
    let high ← high.literal?
    if low.char ≤ high.char then return (.range low high, rest) else none
  | _ => return (← low.set?, rest)

/-- The sign of an operation. -/
def setOp? : List Char → Option (SetOp × List Char)
  | '&' :: '&' :: rest => some (.intersection, rest)
  | '-' :: '-' :: rest => some (.difference, rest)
  | '~' :: '~' :: rest => some (.symmetricDifference, rest)
  | _ => none

/-- The set of the last parts, which are given in reverse, and of the operation before them. -/
def closeSet (left : Option (SetOp × CharSet)) (parts : List CharSet) : CharSet :=
  match left with
  | none => .ofParts parts.reverse
  | some (op, s) => .combined op s (.ofParts parts.reverse)

/-- Whether brackets leave out what they hold, and the text after the sign for it. -/
def negation (m : Mode) (s : List Char) : Bool × List Char :=
  match m.skip s with
  | '^' :: rest => (true, rest)
  | rest => (false, rest)

/-- What is left of a set up to its bracket, in `n` steps at most. As long as it is `fresh`, which
is until something else than hyphens is met, a hyphen stands for itself, and so does a closing
bracket as the first character of all. -/
def setUpTo (m : Mode) :
    Nat → Bool → Option (SetOp × CharSet) → List CharSet → List Char → Option (CharSet × List Char)
  | 0, _, _, _, _ => none
  | n + 1, fresh, left, parts, s =>
    match m.skip s with
    | [] => none
    | ']' :: rest =>
      if fresh && parts.isEmpty then setUpTo m n false left [.literal ⟨']', false⟩] rest
      else some (closeSet left parts, rest)
    | '[' :: rest =>
      match asciiClass? rest with
      | some (c, rest) => setUpTo m n false left (c :: parts) rest
      | none =>
        let (negated, rest) := negation m rest
        (setUpTo m n true none [] rest).bind fun (s, rest) =>
          setUpTo m n false left (.bracket negated s :: parts) rest
    | s@(c :: rest) =>
      if fresh && c = '-' then setUpTo m n true left (.literal ⟨'-', false⟩ :: parts) rest
      else
        match setOp? s with
        | some (op, rest) => setUpTo m n false (some (op, closeSet left parts)) [] rest
        | none => (itemOrRange m s).bind fun (i, rest) => setUpTo m n false left (i :: parts) rest

def bracket (m : Mode) (s : List Char) : Option (CharSet × List Char) :=
  let (negated, rest) := negation m s
  (setUpTo m (rest.length + 1) true none [] rest).map fun (s, rest) => (.bracket negated s, rest)

end Reveille.Pattern
