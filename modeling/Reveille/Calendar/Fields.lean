import Reveille.Calendar.TimeOfDay
import Reveille.Text.Slots

/-!
# Times of day field by field

The parts of a time literal are read into three slots that hold zero at first.
-/

namespace Reveille.Calendar.TimeOfDay

open Reveille.Text

/-- The time that a literal names, read field by field. -/
def read? (s : List Char) : Option TimeOfDay :=
  let parts := (split ':' s).map Piece.chars
  if parts.isEmpty || 3 < parts.length then none
  else
    match fill readField? [0, 0, 0] parts with
    | some [hour, minute, second] => ofFields? hour minute second 0
    | _ => none

end Reveille.Calendar.TimeOfDay
