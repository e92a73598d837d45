import Reveille.Rule.Basic

/-!
# Putting rules together

A rule is put together from parts in any order: exactly one host, exactly one block of
conditions, and at most one hold-off. Of several faults the host comes first, then the
conditions, then the hold-off.
-/

namespace Reveille

open Reveille.Net

inductive PartsError where
  | missingHost
  | duplicateHost (count : Nat)
  | missingConditions
  | duplicateConditions (count : Nat)
  | duplicateHoldOff (count : Nat)
  | notArity (count : Nat)
deriving DecidableEq, Repr

def PartsError.message : PartsError → String
  | .missingHost => "rule requires a host"
  | .duplicateHost n => s!"rule takes exactly one host, got {n}"
  | .missingConditions => "rule requires a condition block"
  | .duplicateConditions n => s!"rule takes exactly one condition block, got {n}"
  | .duplicateHoldOff n => s!"rule takes at most one hold off, got {n}"
  | .notArity n => s!"'not' takes exactly one condition, got {n}"

def Node.negate {α : Type} : List (Node α) → Except PartsError (Node α)
  | [c] => .ok (.not c)
  | cs => .error (.notArity cs.length)

inductive RulePart where
  | host (host : Host)
  | conditions (conditions : When Condition)
  | holdOff (seconds : Nat)
deriving DecidableEq

namespace RulePart

def host? : RulePart → Option Host
  | .host h => some h
  | _ => none

def conditions? : RulePart → Option (When Condition)
  | .conditions w => some w
  | _ => none

def holdOff? : RulePart → Option Nat
  | .holdOff n => some n
  | _ => none

/-- The only part of its kind. -/
def only {α : Type} (missing : PartsError) (duplicate : Nat → PartsError) :
    List α → Except PartsError α
  | [] => .error missing
  | [a] => .ok a
  | as => .error (duplicate as.length)

/-- The hold-off, none where it is not given. -/
def holdOffOf : List Nat → Except PartsError Nat
  | [] => .ok 0
  | [n] => .ok n
  | ns => .error (.duplicateHoldOff ns.length)

end RulePart

open RulePart in
def Rule.ofParts (parts : List RulePart) : Except PartsError Rule := do
  let host ← only .missingHost .duplicateHost (parts.filterMap host?)
  let conditions ← only .missingConditions .duplicateConditions (parts.filterMap conditions?)
  let holdOff ← holdOffOf (parts.filterMap holdOff?)
  return Rule.make host holdOff conditions

end Reveille
