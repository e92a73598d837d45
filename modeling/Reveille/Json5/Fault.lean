import Reveille.Json.Lexeme
import Reveille.Json5.Document

/-!
# What is found in JSON5 documents

The meaning of strings and numbers, the faults that they may have, and how a value is called
that is found where another one is expected.
-/

namespace Reveille.Json5

open Reveille.Json Reveille.Number Reveille.Text

/-- A number, or one of the values beside the numbers. -/
inductive Extended where
  | finite (x : Binary64)
  | infinite (negative : Bool)
  | nan
deriving DecidableEq, Repr

inductive Found where
  | null
  | bool (value : Bool)
  | int (value : Int)
  | float (value : Extended)
  | string (value : String)
  | array
  | object
deriving DecidableEq, Repr

inductive Fault where
  | wrongType (found : Found) (expected : String)
  | duplicateField (name : String)
  | unknownVariant (name : String) (known : List String)
  | notVariant
  | emptyVariant
  | integer
  | hex
  | number
  | tooLarge
  | missingTrail
  | expectedTrail
  | strayTrail
deriving DecidableEq, Repr

/-- A number laid out by place. -/
def Extended.message : Extended → String
  | .finite x => String.ofList (x.chars .plain)
  | .infinite negative => if negative then "-inf" else "inf"
  | .nan => "NaN"

/-- What was found in words. -/
def Found.message : Found → String
  | .null => "unit value"
  | .bool b => s!"boolean `{b}`"
  | .int n => s!"integer `{n}`"
  | .float x => "floating point `" ++ x.message ++ "`"
  | .string s => "string " ++ quoted s
  | .array => "sequence"
  | .object => "map"

def Fault.message : Fault → String
  | .wrongType found expected => "invalid type: " ++ found.message ++ ", expected " ++ expected
  | .duplicateField name => "duplicate field `" ++ name ++ "`"
  | .unknownVariant name known => "unknown variant `" ++ name ++ "`, expected " ++
      " or ".intercalate (known.map fun k => "`" ++ k ++ "`")
  | .notVariant => "expected a string or an object"
  | .emptyVariant => "expected a nonempty object"
  | .integer => "error parsing integer"
  | .hex => "error parsing hex"
  | .number => "error parsing number"
  | .tooLarge => "error parsing number: too large"
  | .missingTrail => "missing unicode trail surrogate"
  | .expectedTrail => "expecting unicode trail surrogate"
  | .strayTrail => "unexpected unicode trail surrogate"

/-! ### Strings -/

/-- What a character after a backslash stands for, itself if it has no meaning of its own. -/
def escapeMeaning : Char → Char
  | '0' => '\x00'
  | 'b' => '\x08'
  | 'f' => '\x0c'
  | 'n' => '\n'
  | 'r' => '\r'
  | 't' => '\t'
  | 'v' => '\x0b'
  | c => c

/-- A fragment without its backslash and the letter for its kind, read as a hexadecimal number. -/
def Fragment.hexadecimal? : Fragment → Option Nat
  | .char c | .escaped c => hexValue? c
  | .byte bits | .unit bits => some bits

/-- The character of two halves. Bit 16 is set whatever the lead says of it, so of two leads that
differ in it alone both make the same characters. -/
def joined (lead trail : Nat) : Char :=
  Char.ofNat (0x400 * (lead - 0xD800) ||| 0x10000 ||| (trail - 0xDC00))

/-- The characters of a string. The fragment after a lead is read as a number however it is
written, which has to be a trail. -/
def chars : List Fragment → Except Fault (List Char)
  | [] => .ok []
  | .char c :: rest => (chars rest).map (c :: ·)
  | .escaped c :: rest => (chars rest).map (escapeMeaning c :: ·)
  | .byte n :: rest => (chars rest).map (Char.ofNat n :: ·)
  | .unit n :: rest =>
    if isTrail n then .error .strayTrail
    else if isLead n then
      match rest with
      | [] => .error .missingTrail
      | f :: rest =>
        match f.hexadecimal? with
        | none => .error .hex
        | some m =>
          if isTrail m then (chars rest).map (joined n m :: ·) else .error .expectedTrail
    else (chars rest).map (Char.ofNat n :: ·)

def text (fragments : List Fragment) : Except Fault String :=
  (chars fragments).map String.ofList

/-! ### Numbers -/

/-- The number of hexadecimal digits, of 32 bits at most. -/
def hexNumber (digits : List Char) : Except Fault Nat :=
  let n := digits.foldl (fun n c => 16 * n + (hexValue? c).getD 0) 0
  if n < Nat.pow 2 32 then .ok n else .error .hex

/-- A number as a floating-point one. Hexadecimal digits take no sign, infinity no plus. -/
def floating (sign : Sign) : Numeral → Except Fault Extended
  | .infinity => if sign = .plus then .error .tooLarge else .ok (.infinite (sign = .minus))
  | .nan => if sign = .plus then .error .tooLarge else .ok .nan
  | .hex digits =>
    if sign = .none then
      (hexNumber digits).map fun n =>
        .finite ⟨false, (Magnitude.ofQuotient? n 1).getD .zero⟩
    else .error .number
  | .decimal whole fraction exponent =>
    let places := fraction.getD []
    match Magnitude.ofDecimal? (ofDigits (whole ++ places)) (exponent.getD 0 - places.length) with
    | some m => .ok (.finite ⟨sign = .minus, m⟩)
    | none => .error .tooLarge

/-- A whole number of 64 bits. -/
def wholeNumber (sign : Sign) (digits : List Char) : Except Fault Found :=
  let n : Int := ofDigits digits
  let n := if sign = .minus then -n else n
  if -(Nat.pow 2 63 : Int) ≤ n ∧ n < Nat.pow 2 63 then .ok (.int n) else .error .integer

/-- What a number is found to be: a whole number if it is written without a point and without
an exponent. -/
def foundNumber (sign : Sign) (numeral : Numeral) : Except Fault Found :=
  match numeral with
  | .decimal whole none none => wholeNumber sign whole
  | .hex digits =>
    if sign = .none then (hexNumber digits).map fun n => .int n
    else if 'e' ∈ digits ∨ 'E' ∈ digits then .error .number
    else .error .integer
  | .infinity | .nan =>
    if sign = .plus then .error .integer else (floating sign numeral).map .float
  | _ => (floating sign numeral).map .float

/-- The whole part of a number, kept within 64 bits without a sign. -/
def Extended.toWord : Extended → Nat
  | .finite x => if x.negative then 0 else min x.magnitude.floor maxWord
  | .infinite negative => if negative then 0 else maxWord
  | .nan => 0

/-! ### Documents -/

def Document.found : Document → Except Fault Found
  | .null => .ok .null
  | .bool b => .ok (.bool b)
  | .number sign numeral => foundNumber sign numeral
  | .string fragments => (text fragments).map .string
  | .array _ => .ok .array
  | .object _ => .ok .object

def Document.unexpected (expected : String) (d : Document) : Fault :=
  match d.found with
  | .ok found => .wrongType found expected
  | .error f => f

mutual

/-- Gives a meaning to every string and number, and forgets it. -/
def Document.check : Document → Except Fault Unit
  | .array items => checkItems items
  | .object members => checkMembers members
  | d => d.found.map fun _ => ()

def checkItems : List Document → Except Fault Unit
  | [] => .ok ()
  | d :: ds => do
    Document.check d
    checkItems ds

/-- Checks members in order, each key before its value. -/
def checkMembers : List (List Fragment × Document) → Except Fault Unit
  | [] => .ok ()
  | (k, d) :: ms => do
    let _ ← text k
    Document.check d
    checkMembers ms

end

end Reveille.Json5
