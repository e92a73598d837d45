/-!
# Blanks, words and pieces

Texts are lists of characters. A blank is a character with the property White_Space.
A `Piece` is a part of a text with the byte offset where it starts, so that an error can
point at it; `words` and `split` cut a text into pieces.
-/

namespace Reveille.Text

/-- The characters with the property White_Space. -/
def isBlank (c : Char) : Bool :=
  let n := c.toNat
  (9 ≤ n && n ≤ 13) || n == 0x20 || n == 0x85 || n == 0xA0 || n == 0x1680
    || (0x2000 ≤ n && n ≤ 0x200A) || n == 0x2028 || n == 0x2029 || n == 0x202F
    || n == 0x205F || n == 0x3000

def trimStart (s : List Char) : List Char :=
  s.dropWhile isBlank

def trimEnd (s : List Char) : List Char :=
  (s.reverse.dropWhile isBlank).reverse

/-- The text without the blanks at both ends. -/
def trim (s : List Char) : List Char :=
  trimEnd (trimStart s)

/-- The length of a text in UTF-8 bytes. -/
def byteLength : List Char → Nat
  | [] => 0
  | c :: cs => c.utf8Size + byteLength cs

theorem byteLength_append (s t : List Char) :
    byteLength (s ++ t) = byteLength s + byteLength t := by
  induction s with
  | nil => simp [byteLength]
  | cons c s ih => simp [byteLength, ih, Nat.add_assoc]

/-- A part of a text: its characters and the byte offset of the first of them. -/
structure Piece where
  offset : Nat
  chars : List Char
deriving DecidableEq, Repr

def Piece.text (p : Piece) : String :=
  String.ofList p.chars

/-- The piece without the blanks at both ends. A piece of blanks only shrinks to its start. -/
def Piece.trim (p : Piece) : Piece :=
  match Text.trim p.chars with
  | [] => ⟨p.offset, []⟩
  | cs => ⟨p.offset + byteLength (p.chars.takeWhile isBlank), cs⟩

/-- The words of a text that starts at `offset`: its longest runs without a blank. -/
def wordsFrom (offset : Nat) : List Char → List Piece
  | [] => []
  | c :: cs =>
    let later := wordsFrom (offset + c.utf8Size) cs
    if isBlank c then later
    else if (cs.head?.map isBlank).getD true then ⟨offset, [c]⟩ :: later
    else
      match later with
      | [] => [⟨offset, [c]⟩]
      | w :: ws => ⟨offset, c :: w.chars⟩ :: ws

def words (s : List Char) : List Piece :=
  wordsFrom 0 s

/-- The pieces between the separators of a text that starts at `offset`. -/
def splitFrom (sep : Char) (offset : Nat) : List Char → List Piece
  | [] => [⟨offset, []⟩]
  | c :: cs =>
    let later := splitFrom sep (offset + c.utf8Size) cs
    if c = sep then ⟨offset, []⟩ :: later
    else
      match later with
      | [] => [⟨offset, [c]⟩]
      | p :: ps => ⟨offset, c :: p.chars⟩ :: ps

/-- The pieces between the separators of a text: one more than there are separators. -/
def split (sep : Char) (s : List Char) : List Piece :=
  splitFrom sep 0 s

theorem length_splitFrom (sep : Char) (offset : Nat) (s : List Char) :
    (splitFrom sep offset s).length = s.count sep + 1 := by
  induction s generalizing offset with
  | nil => rfl
  | cons c cs ih =>
    have hl := ih (offset + c.utf8Size)
    unfold splitFrom
    by_cases h : c = sep
    · simp [h] at hl ⊢; omega
    · rw [List.count_cons_of_ne h]
      simp only [if_neg h]
      split
      · next he => simp [he] at hl
      · next he => simpa [he] using hl

/-- The text without its last character if that is `c`, and whether it was. -/
def dropLast? (c : Char) (s : List Char) : Option (List Char) :=
  if s.getLast? = some c then some s.dropLast else none

end Reveille.Text
