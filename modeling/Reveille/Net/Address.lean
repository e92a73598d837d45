import Reveille.Text.Digits

/-!
# Network addresses

Addresses of IPv4 and IPv6, alone and with a port. The readers take a value from the front of a
text; a whole text is an address if nothing is left. `Address.text` writes the canonical form.
-/

namespace Reveille.Net

open Reveille.Text

inductive Address where
  | v4 (a b c d : UInt8)
  | v6 (a b c d e f g h : UInt16)
deriving DecidableEq, Repr

/-- A value read from the front of a text, and the rest of the text. -/
abbrev Front (α : Type) := Option (α × List Char)

namespace Front

def given (c : Char) : List Char → Option (List Char)
  | d :: cs => if d = c then some cs else none
  | [] => none

/-- A number of at most three decimal digits that fits a byte and starts with no idle zero. -/
def octet (s : List Char) : Front UInt8 :=
  let ds := s.takeWhile Char.isDigit
  let n := ofDigits ds
  if ds = [] ∨ 3 < ds.length ∨ 255 < n ∨ (ds.head? = some '0' ∧ 1 < ds.length) then none
  else some (UInt8.ofNat n, s.dropWhile Char.isDigit)

/-- Four octets with points between them. -/
def octets (s : List Char) : Front (UInt8 × UInt8 × UInt8 × UInt8) :=
  (octet s).bind fun (a, s) => (given '.' s).bind fun s =>
  (octet s).bind fun (b, s) => (given '.' s).bind fun s =>
  (octet s).bind fun (c, s) => (given '.' s).bind fun s =>
  (octet s).bind fun (d, s) => some ((a, b, c, d), s)

def isHex (c : Char) : Bool :=
  (hexValue? c).isSome

/-- A number of at most four hexadecimal digits. -/
def group (s : List Char) : Front UInt16 :=
  let ds := s.takeWhile isHex
  if ds = [] ∨ 4 < ds.length then none
  else
    let n := ds.foldl (fun n c => 16 * n + (hexValue? c).getD 0) 0
    some (UInt16.ofNat n, s.dropWhile isHex)

/-- The colon before every group but the first. -/
def separator (first : Bool) (s : List Char) : Option (List Char) :=
  if first then some s else given ':' s

def word (high low : UInt8) : UInt16 :=
  UInt16.ofNat (256 * high.toNat + low.toNat)

/-- As many groups as follow, up to `room` of them; the last two may be written as four octets,
which the middle part of the answer tells. -/
def groups : Nat → Bool → List Char → List UInt16 × Bool × List Char
  | 0, _, s => ([], false, s)
  | room + 1, first, s =>
    match (if room = 0 then none else (separator first s).bind octets) with
    | some ((a, b, c, d), rest) => ([word a b, word c d], true, rest)
    | none =>
      match (separator first s).bind group with
      | none => ([], false, s)
      | some (g, rest) =>
        let (gs, embedded, rest) := groups room false rest
        (g :: gs, embedded, rest)

def ofGroups? : List UInt16 → Option Address
  | [a, b, c, d, e, f, g, h] => some (.v6 a b c d e f g h)
  | _ => none

/-- Eight groups, of which `::` may stand for one or more that are zero. -/
def v6 (s : List Char) : Front Address :=
  let (front, embedded, rest) := groups 8 true s
  if front.length = 8 then (ofGroups? front).map (·, rest)
  else if embedded then none
  else
    (given ':' rest).bind fun rest => (given ':' rest).bind fun rest =>
    let (back, _, rest) := groups (7 - front.length) true rest
    let zeros := List.replicate (8 - front.length - back.length) 0
    (ofGroups? (front ++ zeros ++ back)).map (·, rest)

def v4 (s : List Char) : Front Address :=
  (octets s).map fun ((a, b, c, d), rest) => (.v4 a b c d, rest)

/-- A decimal number up to `limit`, idle zeros allowed. -/
def number (limit : Nat) (s : List Char) : Front Nat :=
  let ds := s.takeWhile Char.isDigit
  if ds = [] ∨ limit < ofDigits ds then none else some (ofDigits ds, s.dropWhile Char.isDigit)

def port (s : List Char) : Front UInt16 :=
  (given ':' s).bind fun s => (number 65535 s).map fun (n, s) => (UInt16.ofNat n, s)

/-- The zone of an address of IPv6, zero where none is written. -/
def zone (s : List Char) : Nat × List Char :=
  (((given '%' s).bind (number 0xffffffff))).getD (0, s)

end Front

namespace Address

def ofText? (s : List Char) : Option Address :=
  match Front.v4 s with
  | some (a, []) => some a
  | some _ => none
  | none =>
    match Front.v6 s with
    | some (a, []) => some a
    | _ => none

/-- The lower-case hexadecimal digits of a group, without idle zeros. -/
def groupChars (g : UInt16) : List Char :=
  Nat.toDigits 16 g.toNat

/-- Groups with colons between them. -/
def groupsChars (gs : List UInt16) : List Char :=
  List.intercalate [':'] (gs.map groupChars)

def octetsChars (os : List UInt8) : List Char :=
  List.intercalate ['.'] (os.map fun o => decimal o.toNat)

/-- The length of the run of zeros a list of groups starts with. -/
def zeroRun (gs : List UInt16) : Nat :=
  (gs.takeWhile (· == 0)).length

/-- Start and length of the longest run of zeros, the first of several. -/
def longestZeros : Nat → List UInt16 → Nat × Nat
  | _, [] => (0, 0)
  | i, g :: gs =>
    let here := zeroRun (g :: gs)
    let later := longestZeros (i + 1) gs
    if later.2 ≤ here then (i, here) else later

/-- The canonical form: octets with points; groups with colons, in which `::` stands for the
longest run of two or more zeros; an address of IPv4 mapped into IPv6 ends in octets. -/
def chars : Address → List Char
  | .v4 a b c d => octetsChars [a, b, c, d]
  | .v6 a b c d e f g h =>
    let gs := [a, b, c, d, e, f, g, h]
    if gs.take 6 = [0, 0, 0, 0, 0, 0xffff] then
      "::ffff:".toList ++ octetsChars [UInt8.ofNat (g.toNat / 256), UInt8.ofNat (g.toNat % 256),
        UInt8.ofNat (h.toNat / 256), UInt8.ofNat (h.toNat % 256)]
    else
      let (start, run) := longestZeros 0 gs
      if 1 < run then
        groupsChars (gs.take start) ++ ':' :: ':' :: groupsChars (gs.drop (start + run))
      else groupsChars gs

def text (a : Address) : String :=
  String.ofList a.chars

end Address

/-- An address and a port: where datagrams are sent to. -/
structure Endpoint where
  address : Address
  zone : Nat
  port : UInt16
deriving DecidableEq, Repr

/-- What is said of a text that is no endpoint. -/
def Endpoint.invalidMessage : String := "invalid socket address syntax"

/-- The endpoint a whole text is: `address:port`, an address of IPv6 in brackets. -/
def Endpoint.ofText? (s : List Char) : Option Endpoint :=
  match Front.v4 s with
  | some (a, rest) => (Front.port rest).bind (finish a 0)
  | none =>
    (Front.given '[' s).bind fun s => (Front.v6 s).bind fun (a, s) =>
      let (zone, s) := Front.zone s
      (Front.given ']' s).bind fun s => (Front.port s).bind (finish a zone)
where
  finish (a : Address) (zone : Nat) : UInt16 × List Char → Option Endpoint
    | (p, []) => some ⟨a, zone, p⟩
    | _ => none

end Reveille.Net
