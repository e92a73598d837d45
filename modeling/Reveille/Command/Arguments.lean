import Reveille.Text.Digits

/-!
# Arguments

The arguments of a program are read level by level: the switches of a level, then a verb that
leads to the next level. What a switch is given is looked at only once it is clear that nothing
belongs to it any more.
-/

namespace Reveille.Command

open Reveille.Text

/-- Why arguments do not say what to do, or that they ask for help only. -/
inductive Usage where
  | unknownArgument
  | unknownVerb
  | missingVerb
  | missingArgument
  /-- No arguments at all where a verb is needed. -/
  | helpInstead
  | conflict
  | invalidValue
  | malformedValue
  | tooManyValues
  | help
  | version
deriving DecidableEq, Repr

/-- Asking for help or for the version is no failure. -/
def Usage.exitCode : Usage → Nat
  | .help | .version => 0
  | _ => 2

inductive Taking where
  | nothing
  /-- Nothing, any number of times. -/
  | repeats
  | text
  /-- A text that is not empty. -/
  | path
  | number
  | help
  | version
deriving DecidableEq, Repr

def Taking.hasValue : Taking → Bool
  | .text | .path | .number => true
  | _ => false

/-- An argument by its long name. What is given by position has no other name. -/
structure Argument where
  name : String
  short : Option Char := none
  taking : Taking := .nothing
deriving DecidableEq, Repr

/-- What may be given at a level. -/
structure Level where
  switches : List Argument
  /-- What is given by position. -/
  places : List Argument := []
  complete : Bool := false
  /-- The verbs that lead on. There is one more, `help`, if there is any. -/
  verbs : List String := []
deriving DecidableEq, Repr

/-- The arguments given, the last one first, with their values. -/
abbrev Given := List (String × String)

namespace Given

def has (given : Given) (name : String) : Bool :=
  given.any (·.1 = name)

def value? (given : Given) (name : String) : Option String :=
  (given.find? (·.1 = name)).map (·.2)

def check (taking : Taking) (value : String) : Except Usage Unit :=
  match taking with
  | .path => if value = "" then .error .invalidValue else .ok ()
  | .number =>
    match readNat maxWord value.toList with
    | .ok _ => .ok ()
    | .error _ => .error .malformedValue
  | _ => .ok ()

def add (given : Given) (a : Argument) (value : Option String) : Except Usage Given :=
  match a.taking with
  | .help => .error .help
  | .version => .error .version
  | .repeats => .ok ((a.name, "") :: given)
  | .nothing => if given.has a.name then .error .conflict else .ok ((a.name, "") :: given)
  | taking =>
    match value with
    | none => .error .invalidValue
    | some value =>
      if given.has a.name then .error .conflict
      else (check taking value).map fun _ => (a.name, value) :: given

end Given

/-- How far a level has been read. -/
structure Progress where
  given : Given := []
  /-- The argument that is not added yet, with its value as far as it is there. -/
  open? : Option (Argument × Option String) := none
  /-- How many were given by position. -/
  placed : Nat := 0
  /-- All that follows is given by position. -/
  onlyPlaces : Bool := false
deriving DecidableEq, Repr

namespace Progress

def awaits (p : Progress) : Bool :=
  match p.open? with
  | some (_, none) => !p.onlyPlaces
  | _ => false

/-- Adds the argument that is not added yet. -/
def settle (p : Progress) : Except Usage Progress :=
  match p.open? with
  | none => .ok p
  | some (a, value) => (p.given.add a value).map fun given => { p with given, open? := none }

/-- Adds an argument after the one that is not added yet. -/
def add (p : Progress) (a : Argument) (value : Option String) : Except Usage Progress := do
  let p ← p.settle
  return { p with given := ← p.given.add a value }

def leave (p : Progress) (a : Argument) (value : Option String) : Except Usage Progress :=
  p.settle.map fun p => { p with open? := some (a, value) }

end Progress

/-- What a word looks like. -/
inductive Word where
  /-- Two hyphens. -/
  | onlyPlaces
  /-- Two hyphens and a name, maybe with a value behind an equals sign. -/
  | long (name : String) (value : Option String)
  | short (names : List Char)
  | plain
deriving DecidableEq, Repr

def Word.ofText (text : String) : Word :=
  match text.toList with
  | ['-', '-'] => .onlyPlaces
  | '-' :: '-' :: cs =>
    let value := (cs.dropWhile (· ≠ '=')).tail?
    .long (String.ofList (cs.takeWhile (· ≠ '='))) (value.map String.ofList)
  | '-' :: c :: cs => .short (c :: cs)
  | _ => .plain

namespace Level

def isVerb (l : Level) (text : String) : Bool :=
  text ∈ l.verbs || (l.verbs ≠ [] && text = "help")

def readLong (l : Level) (p : Progress) (name : String) (value : Option String) :
    Except Usage Progress :=
  match l.switches.find? (·.name = name) with
  | none => .error .unknownArgument
  | some a =>
    match a.taking.hasValue, value with
    | true, none => p.leave a none
    | true, some value => p.add a (some value)
    | false, none => p.add a none
    | false, some _ => .error .tooManyValues

/-- Reads short names, none of which has a value. -/
def readShort (l : Level) : Progress → List Char → Except Usage Progress
  | p, [] => .ok p
  | p, c :: cs =>
    match l.switches.find? (·.short = some c) with
    | none => .error .unknownArgument
    | some a => do l.readShort (← p.add a none) cs

/-- Reads a word that is given by position. -/
def readPlace (l : Level) (p : Progress) (text : String) : Except Usage Progress :=
  match l.places[p.placed]? with
  | some a => (p.leave a (some text)).map fun p => { p with placed := p.placed + 1 }
  | none =>
    if l.verbs = [] ∨ (p.onlyPlaces ∧ l.isVerb text) then .error .unknownArgument
    else .error .unknownVerb

/-- Reads a word that leads not on. -/
def readWord (l : Level) (p : Progress) (text : String) : Except Usage Progress :=
  if p.onlyPlaces then l.readPlace p text
  else
    match Word.ofText text with
    | .onlyPlaces => .ok { p with onlyPlaces := true }
    | .long name value => l.readLong p name value
    | .short names => l.readShort p names
    | .plain =>
      match p.open? with
      | some (a, none) => .ok { p with open? := some (a, some text) }
      | _ => l.readPlace p text

/-- Reads words up to a verb, which is returned with what follows it. -/
def readWords (l : Level) :
    Progress → List String → Except Usage (Progress × Option (String × List String))
  | p, [] => .ok (p, none)
  | p, w :: ws =>
    if !p.onlyPlaces && !p.awaits && l.isVerb w then .ok (p, some (w, ws))
    else
      match l.readWord p w with
      | .error e => .error e
      | .ok p => l.readWords p ws

def exclusions : List (String × String) :=
  [("json", "no-json")]

def validate (l : Level) (given : Given) (ledOn : Bool) : Except Usage Unit :=
  if l.verbs ≠ [] ∧ !ledOn then .error (if given.isEmpty then .helpInstead else .missingVerb)
  else if exclusions.any fun (a, b) => given.has a && given.has b then .error .conflict
  else if l.complete ∧ ¬l.places.all (given.has ·.name) then .error .missingArgument
  else .ok ()

/-- Reads a level. The verb is followed by `next` before the level is looked at as a whole. -/
def read {α : Type} (l : Level) (next : String → List String → Except Usage α)
    (words : List String) : Except Usage (Given × Option α) := do
  let (p, verb?) ← l.readWords {} words
  let below ←
    match verb? with
    | some (verb, rest) => (next verb rest).map some
    | none => .ok none
  let p ← p.settle
  l.validate p.given below.isSome
  return (p.given, below)

end Level

end Reveille.Command
