import Reveille.Files.Basic
import Reveille.Report
import Reveille.Settings.Format

/-!
# Settings files

Settings are kept in a file. Where there is no file, the settings are those that hold where
nothing is configured.
-/

namespace Reveille

open Reveille.Files Reveille.Text

namespace Settings

inductive LoadFault where
  | unreadable (cause : FileError)
  | malformed (cause : SettingsFault)
deriving DecidableEq, Repr

def readFile (fs : Files) (p : Pathname) : Except LoadFault Settings := do
  let text ← (fs.readText p).mapError .unreadable
  (read text.toList).mapError .malformed

/-- The settings of a file, which need not be there. -/
def load (fs : Files) (p : Pathname) : Except LoadFault Settings :=
  if fs.has p then readFile fs p else .ok {}

def LoadFault.report (p : Pathname) : LoadFault → Report
  | .unreadable cause => ⟨"Failed to read config file: " ++ p.text, [cause.message]⟩
  | .malformed cause => ⟨"Failed to parse config file: " ++ p.text, [cause.message]⟩

inductive SaveFault where
  | folder (cause : FileError)
  | unwritable (cause : FileError)
deriving DecidableEq, Repr

def SaveFault.report (p : Pathname) : SaveFault → Report
  | .folder cause => .plain cause.message
  | .unwritable cause => ⟨"Failed to write config file: " ++ p.text, [cause.message]⟩

/-- Saves settings in a file, in a folder that is made if it is missing. The folder stays also
if the file cannot be written. -/
def save (fs : Files) (p : Pathname) (s : Settings) : Files × Except SaveFault Unit :=
  match fs.makeFolders p with
  | (fs, .error cause) => (fs, .error (.folder cause))
  | (fs, .ok ()) =>
    match fs.write p (utf8 s.print) with
    | .error cause => (fs, .error (.unwritable cause))
    | .ok fs => (fs, .ok ())

end Settings

end Reveille
