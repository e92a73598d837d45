import Reveille.Json.Value

/-!
# Printing JSON

`compactChars` leaves out all blanks; `prettyChars` puts every item and member on a line of its
own, indented by two spaces.
-/

namespace Reveille.Json

open Reveille.Text

/-- A character as it is written within quotes: a quote, a backslash or a control character is
escaped, anything else stands for itself. -/
def escapedChar (c : Char) : List Char :=
  if c = '"' then ['\\', '"']
  else if c = '\\' then ['\\', '\\']
  else if c = '\x08' then ['\\', 'b']
  else if c = '\t' then ['\\', 't']
  else if c = '\n' then ['\\', 'n']
  else if c = '\x0c' then ['\\', 'f']
  else if c = '\r' then ['\\', 'r']
  else if c.toNat < 0x20 then "\\u00".toList ++ hexByte (UInt8.ofNat c.toNat)
  else [c]

/-- A text within quotes. -/
def quotedChars (s : List Char) : List Char :=
  '"' :: s.flatMap escapedChar ++ ['"']

/-- A whole number. -/
def intChars (n : Int) : List Char :=
  (if n < 0 then ['-'] else []) ++ decimal n.natAbs

namespace Value

mutual

/-- The value without blanks. -/
def compactChars : Value → List Char
  | .null => "null".toList
  | .bool true => "true".toList
  | .bool false => "false".toList
  | .int n => intChars n
  | .float x => x.chars numberLayout
  | .string s => quotedChars s.toList
  | .array [] => ['[', ']']
  | .array (v :: vs) => '[' :: compactChars v ++ itemsChars vs
  | .object [] => ['\x7b', '\x7d']
  | .object ((k, v) :: ms) =>
    '\x7b' :: quotedChars k.toList ++ ':' :: compactChars v ++ membersChars ms

/-- The items after the first one, and the bracket that ends the array. -/
def itemsChars : List Value → List Char
  | [] => [']']
  | v :: vs => ',' :: compactChars v ++ itemsChars vs

/-- The members after the first one, and the brace that ends the object. -/
def membersChars : List (String × Value) → List Char
  | [] => ['\x7d']
  | (k, v) :: ms => ',' :: quotedChars k.toList ++ ':' :: compactChars v ++ membersChars ms

end

def lineBreak (level : Nat) : List Char :=
  '\n' :: List.replicate (2 * level) ' '

mutual

def prettyChars (level : Nat) : Value → List Char
  | .array (v :: vs) =>
    '[' :: lineBreak (level + 1) ++ prettyChars (level + 1) v ++ prettyItemsChars level vs
  | .object ((k, v) :: ms) =>
    '\x7b' :: lineBreak (level + 1) ++ quotedChars k.toList ++ ':' :: ' ' ::
      prettyChars (level + 1) v ++ prettyMembersChars level ms
  | v => compactChars v

/-- The items after the first one, and the bracket that ends the array. -/
def prettyItemsChars (level : Nat) : List Value → List Char
  | [] => lineBreak level ++ [']']
  | v :: vs =>
    ',' :: lineBreak (level + 1) ++ prettyChars (level + 1) v ++ prettyItemsChars level vs

/-- The members after the first one, and the brace that ends the object. -/
def prettyMembersChars (level : Nat) : List (String × Value) → List Char
  | [] => lineBreak level ++ ['\x7d']
  | (k, v) :: ms =>
    ',' :: lineBreak (level + 1) ++ quotedChars k.toList ++ ':' :: ' ' ::
      prettyChars (level + 1) v ++ prettyMembersChars level ms

end

/-- The value without blanks. -/
def compact (v : Value) : String :=
  String.ofList v.compactChars

/-- The value on indented lines. -/
def pretty (v : Value) : String :=
  String.ofList (v.prettyChars 0)

end Value

end Reveille.Json
