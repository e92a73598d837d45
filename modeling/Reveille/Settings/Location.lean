import Reveille.Files.Pathname
import Reveille.Settings.Basic

/-!
# Where settings lead

The settings file is named on the command line, by the environment, or found in the home
folder. The number of the running daemon is kept next to its control socket.
-/

namespace Reveille

open Reveille.Files

/-- What the environment of a program says. -/
structure Environment where
  home : Option String
  /-- The settings file to use instead of the usual one. -/
  settingsFile : Option String
deriving DecidableEq, Repr

/-- The settings file: the one asked for, in which a tilde is the home folder, or else the one
that the environment names, or else the one in the home folder. -/
def Environment.settingsPath (env : Environment) (asked : Option String) : Pathname :=
  match asked with
  | some text => .ofText env.home text
  | none =>
    match env.settingsFile with
    | some text => ⟨text⟩
    | none => (Pathname.join ⟨env.home.getD "."⟩ ".motion-wol").join "config.json"

namespace Settings

def rulesPath (home : Option String) (s : Settings) : Pathname := .ofText home s.rules

def fifoPath (home : Option String) (s : Settings) : Pathname := .ofText home s.fifo

def socketPath (home : Option String) (s : Settings) : Pathname := .ofText home s.socket

/-- The file for the number of the running daemon: that of the socket, with another
extension. -/
def pidPath (home : Option String) (s : Settings) : Pathname :=
  (s.socketPath home).withExtension "pid"

end Settings

end Reveille
