/-!
# Likeness of words

The edit distance of two words, and the candidate closest to a misspelled word.
-/

namespace Reveille.Text

/-- A row of the distance table from the row above it. `corner` is the entry above and to the
left, `left` the entry to the left. -/
def distanceRow (c : Char) (corner left : Nat) : List Char → List Nat → List Nat
  | d :: ds, up :: ups =>
    let here := min (min (up + 1) (left + 1)) (corner + if c = d then 0 else 1)
    here :: distanceRow c up here ds ups
  | _, _ => []

/-- The last row of the distance table of `s` and `t`, from the row of the empty prefix down. -/
def distanceRows (t : List Char) : Nat → List Nat → List Char → List Nat
  | _, row, [] => row
  | i, row, c :: cs =>
    distanceRows t (i + 1) ((i + 1) :: distanceRow c (row.headD 0) (i + 1) t row.tail) cs

/-- The least number of characters to insert, delete or replace that turns `s` into `t`. -/
def distance (s t : List Char) : Nat :=
  (distanceRows t 0 (List.range (t.length + 1)) s).getLastD 0

/-- The lower case of a character, as far as likeness to an ASCII word can tell: all others
neither become ASCII nor change their number. -/
def lowered (c : Char) : List Char :=
  if c = '\u212A' then ['k']
  else if c = '\u0130' then ['i', '\u0307']
  else [c.toLower]

/-- The lower case of a text, see `lowered`. -/
def lower (s : List Char) : List Char :=
  s.flatMap lowered

/-- The first of the pairs with the least second part. -/
def firstLeast : List (String × Nat) → Option (String × Nat)
  | [] => none
  | p :: ps =>
    match firstLeast ps with
    | none => some p
    | some q => if p.2 ≤ q.2 then some p else some q

/-- The candidate with the least distance from the word, letter case aside, if that is at most
two. Of several the first wins. -/
def closest? (word : List Char) (candidates : List String) : Option String :=
  let near := candidates.map fun c => (c, distance (lower word) (lower c.toList))
  (firstLeast (near.filter (·.2 ≤ 2))).map (·.1)

end Reveille.Text
