import Reveille.Json5.Lexeme

/-!
# Reading JSON5 documents

`Document.read?` reads a whole text. Commas may trail, keys may go without quotes, and comments
stand wherever blanks may.
-/

namespace Reveille.Json5

def key : Reader (List Fragment) := fun s =>
  match name s with
  | some r => some r
  | none => string s

def scalar : Reader Document := fun s =>
  match after? "null".toList s, after? "true".toList s, after? "false".toList s with
  | some rest, _, _ => some (.null, rest)
  | _, some rest, _ => some (.bool true, rest)
  | _, _, some rest => some (.bool false, rest)
  | none, none, none =>
    match string s with
    | some (fs, rest) => some (.string fs, rest)
    | none => number s

mutual

/-- A document, the text starting with it. -/
def document : Nat → Reader Document
  | 0, _ => none
  | n + 1, s =>
    match s with
    | '[' :: rest => (items n (skipSpace rest)).map fun (ds, rest) => (.array ds, rest)
    | '\x7b' :: rest => (members n (skipSpace rest)).map fun (ms, rest) => (.object ms, rest)
    | s => scalar s

/-- The items of an array that are left, and the bracket that ends it. -/
def items : Nat → Reader (List Document)
  | 0, _ => none
  | n + 1, s =>
    match s with
    | ']' :: rest => some ([], rest)
    | s =>
      (document n s).bind fun (d, rest) =>
        match skipSpace rest with
        | ',' :: rest => (items n (skipSpace rest)).map fun (ds, rest) => (d :: ds, rest)
        | ']' :: rest => some ([d], rest)
        | _ => none

/-- The members of an object that are left, and the brace that ends it. -/
def members : Nat → Reader (List (List Fragment × Document))
  | 0, _ => none
  | n + 1, s =>
    match s with
    | '\x7d' :: rest => some ([], rest)
    | s =>
      (key s).bind fun (k, rest) =>
        (after? [':'] (skipSpace rest)).bind fun rest =>
          (document n (skipSpace rest)).bind fun (d, rest) =>
            match skipSpace rest with
            | ',' :: rest => (members n (skipSpace rest)).map fun (ms, rest) => ((k, d) :: ms, rest)
            | '\x7d' :: rest => some ([(k, d)], rest)
            | _ => none

end

def Document.read? (text : List Char) : Option Document :=
  match document (2 * text.length + 1) (skipSpace text) with
  | some (d, rest) => if skipSpace rest = [] then some d else none
  | none => none

end Reveille.Json5
