import Reveille.Text.Digits

/-!
# Hardware addresses

A hardware address is six octets, written as six pairs of hexadecimal digits with colons
between them. The magic packet that wakes its owner repeats the octets sixteen times.
-/

namespace Reveille.Net

open Reveille.Text

structure Mac where
  a : UInt8
  b : UInt8
  c : UInt8
  d : UInt8
  e : UInt8
  f : UInt8
deriving DecidableEq, Repr

namespace Mac

def octets (m : Mac) : List UInt8 :=
  [m.a, m.b, m.c, m.d, m.e, m.f]

/-- The byte of two hexadecimal digits. -/
def pair? (high low : Char) : Option UInt8 :=
  match hexValue? high, hexValue? low with
  | some h, some l => some (UInt8.ofNat (16 * h + l))
  | _, _ => none

/-- The address of six pairs of hexadecimal digits, colons between them and nothing else. -/
def ofText? : List Char → Option Mac
  | [a, a', ':', b, b', ':', c, c', ':', d, d', ':', e, e', ':', f, f'] =>
    match pair? a a', pair? b b', pair? c c', pair? d d', pair? e e', pair? f f' with
    | some a, some b, some c, some d, some e, some f => some ⟨a, b, c, d, e, f⟩
    | _, _, _, _, _, _ => none
  | _ => none

/-- The written form, in lower case. -/
def chars (m : Mac) : List Char :=
  hexByte m.a ++ ':' :: hexByte m.b ++ ':' :: hexByte m.c ++ ':' :: hexByte m.d
    ++ ':' :: hexByte m.e ++ ':' :: hexByte m.f

def text (m : Mac) : String :=
  String.ofList m.chars

/-- What is said of a text that is no hardware address. -/
def invalidMessage (word : String) : String :=
  "invalid mac address '" ++ word ++ "': expected six colon-separated hex pairs"

/-- The packet that wakes the owner: six bytes of ones, then the octets sixteen times. -/
def magicPacket (m : Mac) : List UInt8 :=
  List.replicate 6 0xff ++ (List.replicate 16 m.octets).flatten

end Mac

end Reveille.Net
