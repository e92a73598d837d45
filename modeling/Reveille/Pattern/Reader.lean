import Reveille.Pattern.Bracket
import Reveille.Text.Alphanumeric

/-!
# Reading patterns

`read?` reads a whole pattern, `check` says what is wrong with one. Counts and names in braces are
not known: patterns come from fields that end at the first closing brace, so none is ever closed.
-/

namespace Reveille.Pattern

open Reveille.Text

/-! ### Groups -/

/-- What is left of a pattern, how it is read, and which names of groups are taken. -/
structure Cursor where
  mode : Mode
  names : List (List Char)
  rest : List Char
deriving DecidableEq, Repr

/-- Whether flags are letters and a hyphen before those to be taken back, each once. -/
def areFlags (flags : List Char) : Bool :=
  flags.all (· ∈ ['i', 'm', 's', 'U', 'u', 'R', 'x', '-']) && decide flags.Nodup
    && flags.getLast? ≠ some '-'

/-- What flags say of one of them, if they do. -/
def flagState? (flags : List Char) (flag : Char) : Option Bool :=
  if flag ∈ flags then some ('-' ∉ flags.takeWhile (· ≠ flag)) else none

def Mode.apply (m : Mode) (flags : List Char) : Mode :=
  { verbose := (flagState? flags 'x').getD m.verbose
    bytes := ((flagState? flags 'u').map (!·)).getD m.bytes }

def isGroupName : List Char → Bool
  | [] => false
  | c :: cs =>
    (c = '_' || isAlphabetic c)
      && cs.all fun c => c ∈ ['_', '.', '[', ']'] || isAlphanumeric c

/-- What an opening parenthesis starts. -/
inductive Opening where
  | group
  /-- Flags for the rest of the group around them. -/
  | flags
deriving DecidableEq, Repr

/-- The name of a group and what it starts. -/
def named (c : Cursor) (s : List Char) : Option (Opening × Cursor) :=
  let name := s.takeWhile (· ≠ '>')
  match s.drop name.length with
  | '>' :: rest =>
    if isGroupName name ∧ name ∉ c.names then
      some (.group, { c with names := name :: c.names, rest := rest })
    else none
  | _ => none

/-- Flags and what they start. -/
def flagged (c : Cursor) (s : List Char) : Option (Opening × Cursor) :=
  let flags := s.takeWhile fun c => c ≠ ':' && c ≠ ')'
  if areFlags flags then
    let mode := c.mode.apply flags
    match s.drop flags.length with
    | ':' :: rest => some (.group, { c with mode := mode, rest := rest })
    | ')' :: rest =>
      if flags = [] then none else some (.flags, { c with mode := mode, rest := rest })
    | _ => none
  else none

/-- What follows an opening parenthesis. -/
def opening (c : Cursor) : Option (Opening × Cursor) :=
  match c.mode.skip c.rest with
  | '?' :: 'P' :: '<' :: rest | '?' :: '<' :: rest => named c rest
  | '?' :: rest => flagged c rest
  | rest => some (.group, { c with rest := rest })

/-! ### Expressions -/

/-- An expression of one sign or escape. A brace starts none. -/
def single (m : Mode) : List Char → Option (Expr × List Char)
  | [] => none
  | '\\' :: rest => escape m rest
  | '[' :: rest => (bracket m rest).map fun (s, rest) => (.set s, rest)
  | '.' :: rest => some (.any, rest)
  | '^' :: rest => some (.anchor .lineStart m.bytes, rest)
  | '$' :: rest => some (.anchor .lineEnd m.bytes, rest)
  | '\x7b' :: _ => none
  | c :: rest => some (.literal ⟨c, false⟩, rest)

/-- The expression repeated, if it may be. -/
def Expr.repeated? : Expr → Option Expr
  | .flags => none
  | e => some (.repeated e)

/-- The choice between the branches before and the last one. All are given in reverse. -/
def closeChoice (branches items : List Expr) : Expr :=
  .ofChoice (Expr.ofSequence items.reverse :: branches).reverse

/-- What is left of a group up to its end, in `n` steps at most. Flags hold up to there too. -/
def choiceUpTo : Nat → List Expr → List Expr → Cursor → Option (Expr × Cursor)
  | 0, _, _, _ => none
  | n + 1, branches, items, c =>
    match c.mode.skip c.rest with
    | [] => some (closeChoice branches items, { c with rest := [] })
    | ')' :: rest => some (closeChoice branches items, { c with rest := ')' :: rest })
    | '|' :: rest => choiceUpTo n (.ofSequence items.reverse :: branches) [] { c with rest := rest }
    | '(' :: rest =>
      match opening { c with rest := rest } with
      | none => none
      | some (.flags, c) => choiceUpTo n branches (.flags :: items) c
      | some (.group, inner) =>
        match choiceUpTo n [] [] inner with
        | some (e, ⟨_, names, ')' :: rest⟩) =>
          choiceUpTo n branches (.group e :: items) ⟨c.mode, names, rest⟩
        | _ => none
    | s@(sign :: rest) =>
      if sign ∈ ['?', '*', '+'] then
        match items with
        | [] => none
        | e :: items =>
          let rest := match rest with
            | '?' :: rest => rest
            | _ => rest
          e.repeated?.bind fun e => choiceUpTo n branches (e :: items) { c with rest := rest }
      else
        (single c.mode s).bind fun (e, rest) =>
          if c.mode.admits e then choiceUpTo n branches (e :: items) { c with rest := rest }
          else none

/-- How deep the parts of a pattern may be nested. -/
def maxDepth : Nat := 250

/-- The expression that a pattern writes. -/
def read? (s : List Char) : Option Expr :=
  match choiceUpTo (s.length + 1) [] [] ⟨⟨false, false⟩, [], s⟩ with
  | some (e, ⟨_, _, []⟩) => if e.depth ≤ maxDepth then some e else none
  | _ => none

inductive Fault where
  | malformed
  | words
deriving DecidableEq, Repr

def Fault.message : Fault → String
  | .malformed => "error building NFA"
  | .words => "unsupported regex feature for DFAs: cannot build DFAs for regexes with Unicode "
      ++ "word boundaries; switch to ASCII word boundaries, or heuristically enable Unicode word "
      ++ "boundaries or use a different regex engine"

def check (s : List Char) : Except Fault Unit :=
  match read? s with
  | none => .error .malformed
  | some e => if e.seesWords then .error .words else .ok ()

end Reveille.Pattern
