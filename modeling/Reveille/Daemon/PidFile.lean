import Reveille.Files.Basic
import Reveille.Text.Digits

/-!
# Process numbers on file

A running daemon keeps its process number in a file. A daemon counts as running if the number in
the file is that of a process that lives.
-/

namespace Reveille.PidFile

open Reveille.Files Reveille.Text

/-- The process number that a text is, blanks aside. -/
def number? (text : String) : Option Int :=
  readInt? (Nat.pow 2 31) (Nat.pow 2 31 - 1) (trim text.toList)

/-- The process number that a file holds. -/
def read? (fs : Files) (p : Pathname) : Option Int :=
  (fs.readText p).toOption.bind number?

def isRunning (lives : Int → Bool) (fs : Files) (p : Pathname) : Bool :=
  (read? fs p).any fun n => 0 < n && lives n

/-- What is written for a process number. -/
def bytes (process : Nat) : List UInt8 :=
  utf8 (toString process)

def write (fs : Files) (p : Pathname) (process : Nat) : Except FileError Files :=
  fs.write p (bytes process)

def remove (fs : Files) (p : Pathname) : Except FileError Files :=
  if fs.has p then fs.remove p else .ok fs

end Reveille.PidFile
