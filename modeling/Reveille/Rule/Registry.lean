import Reveille.Rule.Basic

/-!
# Registries

A registry holds rules in the order in which they were added. Rules are never removed or moved;
only whether they are enabled changes.
-/

namespace Reveille

open Reveille.Net

structure Registry where
  rules : List Rule
deriving Repr, DecidableEq

namespace Registry

def empty : Registry := ⟨[]⟩

def add (reg : Registry) (rule : Rule) : Registry :=
  ⟨reg.rules ++ [rule]⟩

def addAll (reg : Registry) (rules : List Rule) : Registry :=
  ⟨reg.rules ++ rules⟩

def size (reg : Registry) : Nat := reg.rules.length

def isEmpty (reg : Registry) : Bool := reg.rules.isEmpty

def get? (reg : Registry) (index : Nat) : Option Rule := reg.rules[index]?

def setAllEnabled (reg : Registry) (enabled : Bool) : Registry :=
  ⟨reg.rules.map (·.setEnabled enabled)⟩

def enableAll (reg : Registry) : Registry := reg.setAllEnabled true

def disableAll (reg : Registry) : Registry := reg.setAllEnabled false

def enabledCount (reg : Registry) : Nat :=
  reg.rules.countP (·.enabled)

/-- Each host once, in the order in which the rules name them first. -/
def hosts (reg : Registry) : List Host :=
  reg.rules.foldl (fun hosts r => if r.host ∈ hosts then hosts else hosts ++ [r.host]) []

/-- The hosts to wake: those of the enabled rules that hold, in the order of the rules. -/
def wakes (ctx : Context) (reg : Registry) : List Host :=
  (reg.rules.filter fun r => r.enabled && r.holds ctx).map (·.host)

end Registry

end Reveille
