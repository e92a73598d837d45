import Reveille.Text.Blank

/-!
# Reports of failure

What failed, and why, down to the first cause.
-/

namespace Reveille

open Reveille.Text

structure Report where
  message : String
  /-- Each one the cause of the one before it. -/
  causes : List String
deriving DecidableEq, Repr

namespace Report

/-- A failure without a cause that is known. -/
def plain (message : String) : Report :=
  ⟨message, []⟩

def line (r : Report) : String :=
  ": ".intercalate (r.message :: r.causes)

/-- A text with something in front of its first line, and in front of each other line. -/
def indented (first others : String) (text : String) : String :=
  first ++ ("\n" ++ others).intercalate ((split '\n' text.toList).map (·.text))

/-- The causes on lines of their own, numbered if there are several. -/
def causeLines : List String → List String
  | [] => []
  | [cause] => [indented "    " "    " cause]
  | causes => causes.zipIdx.map fun (cause, i) =>
    let number := toString i
    indented ("".pushn ' ' (5 - number.length) ++ number ++ ": ") "       " cause

/-- The report a program ends with. -/
def text (r : Report) : String :=
  let causes := causeLines r.causes
  "Error: " ++ r.message
    ++ (if causes = [] then "" else "\n\nCaused by:\n" ++ "\n".intercalate causes) ++ "\n"

end Report

end Reveille
