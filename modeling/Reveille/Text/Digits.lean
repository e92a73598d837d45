/-!
# Digits

Reading of unsigned decimal and hexadecimal numbers, and printing with a fixed width.
`readNat` says which fault it met first.
-/

namespace Reveille.Text

inductive NumberError where
  | empty
  | invalidDigit
  | tooLarge
deriving DecidableEq, Repr

def NumberError.message : NumberError → String
  | .empty => "cannot parse integer from empty string"
  | .invalidDigit => "invalid digit found in string"
  | .tooLarge => "number too large to fit in target type"

/-- The greatest unsigned number of 64 bits. -/
def maxWord : Nat := Nat.pow 2 64 - 1

def decimalValue (c : Char) : Nat :=
  c.toNat - '0'.toNat

/-- The value of a hexadecimal digit of either case. -/
def hexValue? (c : Char) : Option Nat :=
  if c.isDigit then some (decimalValue c)
  else if 'a' ≤ c ∧ c ≤ 'f' then some (c.toNat - 'a'.toNat + 10)
  else if 'A' ≤ c ∧ c ≤ 'F' then some (c.toNat - 'A'.toNat + 10)
  else none

/-- Reads on from the number read so far. The first character at fault decides. -/
def readDigits (limit value : Nat) : List Char → Except NumberError Nat
  | [] => .ok value
  | c :: cs =>
    if c.isDigit then
      let next := 10 * value + decimalValue c
      if next ≤ limit then readDigits limit next cs else .error .tooLarge
    else .error .invalidDigit

/-- A decimal number up to `limit`, after at most one `+`. -/
def readNat (limit : Nat) : List Char → Except NumberError Nat
  | [] => .error .empty
  | ['+'] => .error .invalidDigit
  | '+' :: cs => readDigits limit 0 cs
  | cs => readDigits limit 0 cs

/-- A decimal number up to `limit`, or nothing. -/
def readNat? (limit : Nat) (s : List Char) : Option Nat :=
  (readNat limit s).toOption

/-- A decimal number from `-below` to `above`, after at most one sign. -/
def readInt? (below above : Nat) : List Char → Option Int
  | '-' :: c :: cs => ((readDigits below 0 (c :: cs)).toOption).map fun n => -(n : Int)
  | cs => (readNat? above cs).map fun n => (n : Int)

/-- The value of decimal digits, the first of them the highest. -/
def ofDigits (cs : List Char) : Nat :=
  cs.foldl (fun n c => 10 * n + decimalValue c) 0

def decimal (n : Nat) : List Char :=
  Nat.toDigits 10 n

/-- At least `width` decimal digits, filled with zeros from the left. -/
def padded (width n : Nat) : String :=
  let ds := decimal n
  String.ofList (List.replicate (width - ds.length) '0' ++ ds)

/-- The lower-case hexadecimal digit of a number below 16. -/
def hexDigit (n : Nat) : Char :=
  Nat.digitChar (n % 16)

def hexByte (b : UInt8) : List Char :=
  [hexDigit (b.toNat / 16), hexDigit b.toNat]

end Reveille.Text
