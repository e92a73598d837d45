/-!
# The last two motions

All that is kept of the motions seen: when the last one was, and the one before it.
-/

namespace Reveille

/-- Epoch seconds of the last two motions. -/
structure Motion where
  last : Option Int
  previous : Option Int
deriving DecidableEq, Repr

namespace Motion

/-- No motion seen yet. -/
def none : Motion := ⟨.none, .none⟩

/-- A motion at `now`. The first one of all also counts as its own predecessor. -/
def record (m : Motion) (now : Int) : Motion :=
  ⟨some now, some (m.last.getD now)⟩

@[simp] theorem last_record (m : Motion) (now : Int) : (m.record now).last = some now := rfl

@[simp] theorem previous_record (m : Motion) (now : Int) :
    (m.record now).previous = some (m.last.getD now) := rfl

end Motion

end Reveille
