import Reveille.Json5.Document
import Reveille.Text.Blank
import Reveille.Text.Letter

/-!
# Blanks, words, numbers and strings of JSON5

Readers take a value off the front of a text and give what is left. They do not say what is
wrong with a text that they refuse.
-/

namespace Reveille.Json5

open Reveille.Text

/-- Takes a value off the front of a text. -/
abbrev Reader (α : Type) := List Char → Option (α × List Char)

def isLineEnd (c : Char) : Bool :=
  c = '\n' || c = '\r' || c = '\u2028' || c = '\u2029'

/-- The blanks between the parts of a text: those that separate words, and the byte order mark. -/
def isSpace (c : Char) : Bool :=
  (Text.isBlank c && c ≠ '\u0085') || c = '\uFEFF'

/-- The text after a comment that ends with its line. -/
def afterLine (s : List Char) : List Char :=
  s.dropWhile fun c => !isLineEnd c

/-- The text after a comment that ends with a star and a slash. -/
def afterBlock? : List Char → Option (List Char)
  | '*' :: '/' :: rest => some rest
  | _ :: rest => afterBlock? rest
  | [] => none

/-- The text without the blanks and the comments it starts with, at most `n` of them. A comment
without an end is left. -/
def skipSpaceUpTo : Nat → List Char → List Char
  | 0, s => s
  | n + 1, s =>
    match s with
    | '/' :: '/' :: rest => skipSpaceUpTo n (afterLine rest)
    | '/' :: '*' :: rest =>
      match afterBlock? rest with
      | some rest => skipSpaceUpTo n rest
      | none => s
    | c :: rest => if isSpace c then skipSpaceUpTo n rest else s
    | [] => []

/-- The text without the blanks and the comments it starts with. -/
def skipSpace (s : List Char) : List Char :=
  skipSpaceUpTo s.length s

/-- What is left after the given characters. -/
def after? (word : List Char) (s : List Char) : Option (List Char) :=
  match word with
  | [] => some s
  | w :: ws =>
    match s with
    | c :: rest => if c = w then after? ws rest else none
    | [] => none

/-! ### Numbers -/

def sign : List Char → Sign × List Char
  | '+' :: rest => (.plus, rest)
  | '-' :: rest => (.minus, rest)
  | s => (.none, s)

/-- The digits of a text up to the first other character. -/
def digits (s : List Char) : List Char × List Char :=
  (s.takeWhile Char.isDigit, s.dropWhile Char.isDigit)

/-- An exponent, if one follows. The letter alone does not start one. -/
def exponent (s : List Char) : Option Int × List Char :=
  match s with
  | c :: rest =>
    if c = 'e' ∨ c = 'E' then
      let (sg, rest) := sign rest
      match digits rest with
      | ([], _) => (none, s)
      | (ds, rest) =>
        let n : Int := ofDigits ds
        (some (if sg = .minus then -n else n), rest)
    else (none, s)
  | [] => (none, [])

def isHexDigit (c : Char) : Bool :=
  (hexValue? c).isSome

/-- A decimal number: digits without an idle zero in front, a point with digits on one side at
least, an exponent. -/
def decimalNumeral (s : List Char) : Option (Numeral × List Char) :=
  let whole := match s with
    | '0' :: _ => ['0']
    | _ => s.takeWhile Char.isDigit
  let rest := s.drop whole.length
  match rest with
  | '.' :: more =>
    let (ds, rest) := digits more
    if whole = [] ∧ ds = [] then none
    else
      let (e, rest) := exponent rest
      some (.decimal whole (some ds) e, rest)
  | _ =>
    if whole = [] then none
    else
      let (e, rest) := exponent rest
      some (.decimal whole none e, rest)

/-- A number without its sign. -/
def numeral (s : List Char) : Option (Numeral × List Char) :=
  let hex? := match s with
    | '0' :: x :: rest =>
      if (x = 'x' ∨ x = 'X') ∧ rest.takeWhile isHexDigit ≠ [] then
        some (rest.takeWhile isHexDigit, rest.dropWhile isHexDigit)
      else none
    | _ => none
  match hex? with
  | some (ds, rest) => some (.hex ds, rest)
  | none =>
    match decimalNumeral s with
    | some r => some r
    | none =>
      match after? "Infinity".toList s, after? "NaN".toList s with
      | some rest, _ => some (.infinity, rest)
      | none, some rest => some (.nan, rest)
      | none, none => none

def number : Reader Document := fun s =>
  let (sg, rest) := sign s
  (numeral rest).map fun (n, rest) => (.number sg n, rest)

/-! ### Strings and names -/

/-- The number of two hexadecimal digits. -/
def hex2? : Reader Nat
  | a :: b :: rest =>
    match hexValue? a, hexValue? b with
    | some a, some b => some (16 * a + b, rest)
    | _, _ => none
  | _ => none

/-- The number of four hexadecimal digits. -/
def hex4? : Reader Nat := fun s =>
  (hex2? s).bind fun (a, rest) => (hex2? rest).map fun (b, rest) => (256 * a + b, rest)

/-- The rest of an escape. A line end is skipped; of the digits only a zero may be escaped. -/
def escape : Reader (List Fragment)
  | [] => none
  | '\r' :: '\n' :: rest => some ([], rest)
  | 'x' :: rest => (hex2? rest).map fun (n, rest) => ([.byte n], rest)
  | 'u' :: rest => (hex4? rest).map fun (n, rest) => ([.unit n], rest)
  | c :: rest =>
    if isLineEnd c then some ([], rest)
    else if c.isDigit ∧ c ≠ '0' then none
    else some ([.escaped c], rest)

/-- The rest of a string up to its quote, at most `n` characters and escapes. -/
def quotedUpTo (quote : Char) : Nat → Reader (List Fragment)
  | 0, _ => none
  | n + 1, s =>
    match s with
    | [] => none
    | '\\' :: rest =>
      (escape rest).bind fun (fs, rest) =>
        (quotedUpTo quote n rest).map fun (gs, rest) => (fs ++ gs, rest)
    | c :: rest =>
      if c = quote then some ([], rest)
      else if isLineEnd c then none
      else (quotedUpTo quote n rest).map fun (gs, rest) => (.char c :: gs, rest)

/-- A string between quotes of either kind. -/
def string : Reader (List Fragment)
  | c :: rest => if c = '"' ∨ c = '\'' then quotedUpTo c (rest.length + 1) rest else none
  | [] => none

def startsName (c : Char) : Bool :=
  c = '$' || c = '_' || isLetter c

def continuesName (c : Char) : Bool :=
  startsName c || isContinuation c || c = '\u200C' || c = '\u200D'

/-- The characters of a name, at most `n` of them. -/
def nameUpTo (fits : Char → Bool) : Nat → List Char → List Fragment × List Char
  | 0, s => ([], s)
  | n + 1, s =>
    match s with
    | '\\' :: 'u' :: rest =>
      match hex4? rest with
      | some (bits, rest) =>
        let (fs, rest) := nameUpTo continuesName n rest
        (.unit bits :: fs, rest)
      | none => ([], s)
    | c :: rest =>
      if fits c then
        let (fs, rest) := nameUpTo continuesName n rest
        (.char c :: fs, rest)
      else ([], s)
    | [] => ([], [])

/-- A name without quotes. -/
def name : Reader (List Fragment) := fun s =>
  match nameUpTo startsName s.length s with
  | ([], _) => none
  | r => some r

end Reveille.Json5
