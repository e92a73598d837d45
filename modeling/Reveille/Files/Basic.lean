import Reveille.Files.Pathname
import Reveille.Text.Utf8

/-!
# Files

What is kept at each place: a file, a folder, a named pipe or a socket. A path leads from the
root or from the current folder to a place, by way of folders only.
-/

namespace Reveille

open Reveille.Files Reveille.Text

namespace Files

inductive Entry where
  | file (bytes : List UInt8)
  | folder
  | pipe
  | socket
deriving DecidableEq, Repr

/-- The names from the root on. -/
abbrev Place := List String

inductive FileError where
  | notFound
  | isFolder
  | notFolder
  | exists
  | noText
  | nul
  | nameTooLong
  | noDevice
  | inUse
  | refused
  | socketNul
  | socketTooLong
  | unsupported
deriving DecidableEq, Repr

def FileError.message : FileError → String
  | .notFound => "No such file or directory (os error 2)"
  | .isFolder => "Is a directory (os error 21)"
  | .notFolder => "Not a directory (os error 20)"
  | .exists => "File exists (os error 17)"
  | .noText => "stream did not contain valid UTF-8"
  | .nul => "file name contained an unexpected NUL byte"
  | .nameTooLong => "File name too long (os error 36)"
  | .noDevice => "No such device or address (os error 6)"
  | .inUse => "Address already in use (os error 98)"
  | .refused => "Connection refused (os error 111)"
  | .socketNul => "paths must not contain interior null bytes"
  | .socketTooLong => "path must be shorter than SUN_LEN"
  | .unsupported => "Operation not supported (os error 95)"

/-- Bytes that a name may have. -/
def maxName : Nat := 255

/-- Bytes that a path must stay below. -/
def pathLimit : Nat := 4096

/-- Bytes that the path of a socket must stay below. -/
def socketLimit : Nat := 108

end Files

/-- All entries by their places, and the current folder. The root needs no entry. -/
structure Files where
  current : Place
  entries : List (Place × Entry)
deriving DecidableEq, Repr

namespace Files

def get? (fs : Files) (place : Place) : Option Entry :=
  if place = [] then some .folder else (fs.entries.find? (·.1 = place)).map (·.2)

/-- Puts an entry at a place, instead of any other. -/
def put (fs : Files) (place : Place) (entry : Entry) : Files :=
  { fs with entries := (place, entry) :: fs.entries.filter (·.1 ≠ place) }

/-- Takes away what is at a place. -/
def erase (fs : Files) (place : Place) : Files :=
  { fs with entries := fs.entries.filter (·.1 ≠ place) }

/-- Goes on from a place by the pieces of a path. The place come to may be empty, if its folder
is there. -/
def walk (fs : Files) : Place → List (List Char) → Except FileError Place
  | place, [] => .ok place
  | place, piece :: rest =>
    match fs.get? place with
    | some .folder =>
      match Pathname.partOf? piece with
      | some (.name name) =>
        if maxName < byteLength name then .error .nameTooLong
        else walk fs (place ++ [String.ofList name]) rest
      | some _ => walk fs place.dropLast rest
      | none => walk fs place rest
    | some _ => .error .notFolder
    | none => if (piece :: rest).all (·.isEmpty) then .ok place else .error .notFound

/-- The place that a path leads to. -/
def place (fs : Files) (p : Pathname) : Except FileError Place :=
  if '\x00' ∈ p.chars then .error .nul
  else if p.text = "" then .error .notFound
  else if pathLimit ≤ byteLength p.chars then .error .nameTooLong
  else fs.walk (if p.isRooted then [] else fs.current) p.pieces

/-- What a path leads to. -/
def at? (fs : Files) (p : Pathname) : Option Entry :=
  match fs.place p with
  | .ok place => fs.get? place
  | .error _ => none

def has (fs : Files) (p : Pathname) : Bool :=
  (fs.at? p).isSome

/-- The bytes of a file. A pipe has none, for there is nobody to write to it. -/
def read (fs : Files) (p : Pathname) : Except FileError (List UInt8) := do
  match fs.get? (← fs.place p) with
  | some (.file bytes) => return bytes
  | some .folder => throw .isFolder
  | some .pipe => return []
  | some .socket => throw .noDevice
  | none => throw .notFound

def readText (fs : Files) (p : Pathname) : Except FileError String := do
  match ofUtf8? (← fs.read p) with
  | some text => return text
  | none => throw .noText

def endsInSlash (p : Pathname) : Bool :=
  p.chars.getLast? = some '/'

/-- Writes a file, which need not be there. -/
def write (fs : Files) (p : Pathname) (bytes : List UInt8) : Except FileError Files := do
  let place ← fs.place p
  match fs.get? place with
  | some (.file _) => return fs.put place (.file bytes)
  | some .folder => throw .isFolder
  | some .pipe => return fs
  | some .socket => throw .noDevice
  | none => if endsInSlash p then throw .isFolder else return fs.put place (.file bytes)

/-- Makes the entry of a path, where nothing may be yet. -/
def make (fs : Files) (p : Pathname) (entry : Entry) : Except FileError Files := do
  let place ← fs.place p
  if (fs.get? place).isSome then throw .exists
  if endsInSlash p then throw .notFound
  return fs.put place entry

/-- Makes a named pipe. -/
def makePipe (fs : Files) (p : Pathname) : Except FileError Files :=
  fs.make p .pipe

def socketPath (p : Pathname) : Except FileError Pathname :=
  if '\x00' ∈ p.chars then .error .socketNul
  else if socketLimit ≤ byteLength p.chars then .error .socketTooLong
  else .ok p

/-- Makes a socket. -/
def bind (fs : Files) (p : Pathname) : Except FileError Files := do
  (fs.make (← socketPath p) .socket).mapError fun
    | .exists => .inUse
    | e => e

/-- The fault of connecting to a socket that nobody listens on. -/
def connectFault (fs : Files) (p : Pathname) : FileError :=
  match socketPath p with
  | .error e => e
  | .ok p =>
    match fs.place p with
    | .error e => e
    | .ok place => if (fs.get? place).isSome then .refused else .notFound

/-- Removes what a path leads to, unless it is a folder. -/
def remove (fs : Files) (p : Pathname) : Except FileError Files := do
  let place ← fs.place p
  match fs.get? place with
  | some .folder => throw .isFolder
  | some _ => return fs.erase place
  | none => throw .notFound

/-- Goes on from a place by pieces and makes the folders that are missing. -/
def makeFoldersFrom (fs : Files) : Place → List Part → Files × Except FileError Unit
  | _, [] => (fs, .ok ())
  | place, .name name :: rest =>
    let next := place ++ [String.ofList name]
    match fs.get? next with
    | some .folder => makeFoldersFrom fs next rest
    | some _ => (fs, .error (if rest = [] then .exists else .notFolder))
    | none =>
      if maxName < byteLength name then (fs, .error .nameTooLong)
      else makeFoldersFrom (fs.put next .folder) next rest
  | place, .up :: rest => makeFoldersFrom fs place.dropLast rest
  | place, _ :: rest => makeFoldersFrom fs place rest

/-- Makes the folders that are missing on the way to a file. -/
def makeFolders (fs : Files) (p : Pathname) : Files × Except FileError Unit :=
  if '\x00' ∈ p.chars then (fs, .error .nul)
  else fs.makeFoldersFrom (if p.isRooted then [] else fs.current) p.parts.dropLast

/-- Puts an entry where a path leads to, in folders that are made if they are missing. -/
def putAt (fs : Files) (p : Pathname) (entry : Entry) : Files :=
  let fs := (fs.makeFolders p).1
  match fs.place p with
  | .ok place => fs.put place entry
  | .error _ => fs

def filesSince (fs others : Files) : List (Place × List UInt8) :=
  fs.entries.filterMap fun (place, entry) =>
    match entry with
    | .file bytes => if others.get? place = some entry then none else some (place, bytes)
    | _ => none

end Files

end Reveille
