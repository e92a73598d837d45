import Reveille.Files.Basic
import Reveille.Report
import Reveille.RuleText.Rules

/-!
# Rules files

A rules file holds a rule text.
-/

namespace Reveille.RuleText

open Reveille.Files

inductive FileFault where
  | unreadable (cause : FileError)
  | malformed (cause : ParseError)
deriving DecidableEq, Repr

def readRules (fs : Files) (p : Pathname) : Except FileFault (List Rule) := do
  let text ← (fs.readText p).mapError .unreadable
  (parseRules text.toList).mapError .malformed

/-- What lies under a fault of a rule text. -/
def ParseError.causes : ParseError → List String
  | .malformed .. => []
  | .parts _ cause => [cause.message]

def FileFault.report (p : Pathname) : FileFault → Report
  | .unreadable cause => ⟨"Failed to read rules file: " ++ p.text, [cause.message]⟩
  | .malformed cause => ⟨"Invalid rules file: " ++ p.text, cause.message :: cause.causes⟩

end Reveille.RuleText
