/-!
# Ranges of characters

A class of characters is a list of ranges of code points, ascending and apart.
-/

namespace Reveille.Text

def inRanges (n : Nat) : List (Nat × Nat) → Bool
  | [] => false
  | (low, high) :: rest => if n < low then false else n ≤ high || inRanges n rest

end Reveille.Text
