import Reveille.Net.Mac
import Reveille.Text.Blank
import Reveille.Text.Slots

/-!
# Hardware addresses octet by octet

A text is held against the shape of a hardware address and then cut at its colons, and each part
is read into one of six slots. A packet of ones is filled from its seventh byte on, six bytes at a
time.
-/

namespace Reveille.Net.Mac

open Reveille.Text

/-- The kinds of characters that a hardware address is made of, in order. -/
def shape : List (Char → Bool) :=
  let digit c := (hexValue? c).isSome
  [digit, digit] ++ (List.replicate 5 [(· == ':'), digit, digit]).flatten

/-- The characters are of these kinds from the first to the last. -/
def fits : List (Char → Bool) → List Char → Bool
  | [], [] => true
  | kind :: kinds, c :: cs => kind c && fits kinds cs
  | _, _ => false

def ofOctets? : List UInt8 → Option Mac
  | [a, b, c, d, e, f] => some ⟨a, b, c, d, e, f⟩
  | _ => none

/-- The address of a text, read octet by octet. -/
def read? (s : List Char) : Option Mac :=
  if fits shape s then
    (fill readOctet? (List.replicate 6 0) ((split ':' s).map Piece.chars)).bind ofOctets?
  else none

/-- Copies the octets over six bytes after the other. Fewer than six bytes stay. -/
def fillChunks (octets : List UInt8) : List UInt8 → List UInt8
  | _ :: _ :: _ :: _ :: _ :: _ :: bytes => octets ++ fillChunks octets bytes
  | bytes => bytes

/-- The magic packet, filled in. -/
def filledPacket (m : Mac) : List UInt8 :=
  let ones := List.replicate (6 + 16 * 6) 0xff
  ones.take 6 ++ fillChunks m.octets (ones.drop 6)

end Reveille.Net.Mac
