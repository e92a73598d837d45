import Reveille.Text.Digits
import Reveille.Text.Utf8

/-!
# Parts of a text as numbers

The parts that a text was cut into are read one by one into slots. A slot without a part keeps
what is in it. A part is read as a hexadecimal number, or as two digits that are bytes of UTF-8.
-/

namespace Reveille.Text

/-- Reads each part into the slot at its place. Parts that no slot is left for are not read. -/
def fill {α : Type} (read : List Char → Option α) : List α → List (List Char) → Option (List α)
  | _ :: slots, part :: parts => do
    let value ← read part
    let values ← fill read slots parts
    return value :: values
  | slots, _ => some slots

/-! ### Hexadecimal numbers -/

def readHexDigits (limit value : Nat) : List Char → Except NumberError Nat
  | [] => .ok value
  | c :: cs =>
    match hexValue? c with
    | some digit =>
      let next := 16 * value + digit
      if next ≤ limit then readHexDigits limit next cs else .error .tooLarge
    | none => .error .invalidDigit

/-- A hexadecimal number up to `limit`, after at most one `+`. -/
def readHex (limit : Nat) : List Char → Except NumberError Nat
  | [] => .error .empty
  | ['+'] => .error .invalidDigit
  | '+' :: cs => readHexDigits limit 0 cs
  | cs => readHexDigits limit 0 cs

/-- The octet that a hexadecimal number of 8 bits is. -/
def readOctet? (s : List Char) : Option UInt8 :=
  (readHex 255 s).toOption.map UInt8.ofNat

/-! ### Fields of two bytes -/

def isDigitByte (b : UInt8) : Bool :=
  48 ≤ b.toNat && b.toNat ≤ 57

/-- A number of 32 bits that is written with two bytes, both digits. -/
def readField? (s : List Char) : Option Nat :=
  let bytes := utf8 (String.ofList s)
  if bytes.length = 2 && bytes.all isDigitByte then readNat? (Nat.pow 2 32 - 1) s else none

end Reveille.Text
