import Reveille.Text.Blank

/-!
# Paths

A path is a text, and names a file by the parts between its slashes. Two texts may have the same
parts: slashes in a row count as one, and a lone point stands for nothing except at the start.
-/

namespace Reveille.Files

open Reveille.Text

/-- A path as it is written. -/
structure Pathname where
  text : String
deriving DecidableEq, Repr

inductive Part where
  /-- The slash a path starts with. -/
  | root
  /-- The lone point a path starts with. -/
  | here
  /-- Two points. -/
  | up
  | name (chars : List Char)
deriving DecidableEq, Repr

/-- Splits a file name at its last point: the stem and the extension. A point that the name
starts with does not count. -/
def splitName (name : List Char) : List Char × Option (List Char) :=
  let back := name.reverse
  match back.dropWhile (· ≠ '.') with
  | _ :: c :: stem => ((c :: stem).reverse, some (back.takeWhile (· ≠ '.')).reverse)
  | _ => (name, none)

/-- A text without the slashes, and lone points after slashes, that it ends with. The text is
given and returned from its end on. -/
def dropIdleEnd : List Char → List Char
  | '/' :: s => dropIdleEnd s
  | '.' :: '/' :: s => dropIdleEnd s
  | s => s

namespace Pathname

def chars (p : Pathname) : List Char :=
  p.text.toList

/-- What stands between the slashes. -/
def pieces (p : Pathname) : List (List Char) :=
  (split '/' p.chars).map (·.chars)

def isRooted (p : Pathname) : Bool :=
  p.chars.head? = some '/'

/-- The part that a piece is, unless it stands for nothing. -/
def partOf? (piece : List Char) : Option Part :=
  if piece = [] ∨ piece = ['.'] then none
  else if piece = ['.', '.'] then some .up
  else some (.name piece)

/-- The part at the start that is no piece of its own. -/
def start (p : Pathname) : List Part :=
  if p.isRooted then [.root]
  else if p.pieces.head? = some ['.'] then [.here]
  else []

def parts (p : Pathname) : List Part :=
  p.start ++ p.pieces.filterMap partOf?

def same (p q : Pathname) : Bool :=
  p.parts = q.parts

/-- The text up to the end of the last part, from its end on. -/
def bareEnd (cs : List Char) : List Char :=
  dropIdleEnd cs.reverse

/-- The name of the file, if the text ends in a name. -/
def nameOf? (cs : List Char) : Option (List Char) :=
  let name := ((bareEnd cs).takeWhile (· ≠ '/')).reverse
  match partOf? name with
  | some (.name name) => some name
  | _ => none

/-- Puts an extension after the stem of the name of the file, if it has a name. -/
def setExtension (extension cs : List Char) : List Char :=
  match nameOf? cs with
  | none => cs
  | some name =>
    let folder := ((bareEnd cs).dropWhile (· ≠ '/')).reverse
    folder ++ (splitName name).1 ++ '.' :: extension

/-- The path with another extension. As many characters as the old one has are taken off the
end of the text first. -/
def withExtension (extension : String) (p : Pathname) : Pathname :=
  let old := ((nameOf? p.chars).bind fun name => (splitName name).2).getD []
  ⟨String.ofList (setExtension extension.toList (p.chars.take (p.chars.length - old.length)))⟩

/-- The path of a name within a folder. -/
def join (p : Pathname) (name : String) : Pathname :=
  if p.text = "" ∨ p.chars.getLast? = some '/' then ⟨p.text ++ name⟩
  else ⟨p.text ++ "/" ++ name⟩

/-- The path that a text stands for, in which a tilde, alone or before a slash, is the home
folder if that is known. -/
def ofText (home : Option String) (text : String) : Pathname :=
  match home, text.toList with
  | some home, ['~'] => ⟨home⟩
  | some home, '~' :: '/' :: rest => ⟨home ++ String.ofList ('/' :: rest)⟩
  | _, _ => ⟨text⟩

end Pathname

end Reveille.Files
