import Reveille.Command.Run

/-!
# What an invocation looks at

An invocation depends on few files: its settings, the rules they lead to, and the number of the
running daemon. With these at hand it can be run without any others.
-/

namespace Reveille.Command

open Reveille.Files

def Action.rules? : Action → Option String
  | .daemon _ rules _ | .check rules | .eval rules _ _ => rules
  | .control _ | .settings _ => none

namespace Surroundings

/-- The settings as far as the files tell. -/
def settingsKnown (w : Surroundings) (i : Invocation) : Settings :=
  (Settings.load w.files (w.settingsPath i)).toOption.getD {}

/-- The files that an invocation looks at, as far as the files tell. -/
def lookedAt (w : Surroundings) (i : Invocation) : List Pathname :=
  let s := w.settingsKnown i
  [w.settingsPath i, w.rulesPath s i.action.rules?, s.rulesPath w.environment.home,
    s.pidPath w.environment.home]

/-- The process number that an invocation looks at, as far as the files tell. -/
def processLookedAt (w : Surroundings) (i : Invocation) : Option Int :=
  PidFile.read? w.files ((w.settingsKnown i).pidPath w.environment.home)

end Surroundings

/-- What is said about arguments that do not say what to do. -/
def Usage.message : Usage → String
  | .unknownArgument => "unexpected argument"
  | .unknownVerb => "unrecognized subcommand"
  | .missingVerb | .helpInstead => "a subcommand is required"
  | .missingArgument => "a required argument is missing"
  | .conflict => "arguments cannot be used together or several times"
  | .invalidValue => "a value is required"
  | .malformedValue => "invalid value"
  | .tooManyValues => "unexpected value"
  | .help => "wakes hosts on the network when motion is detected and their rules allow it"
  | .version => "motion-wol"

/-- The verbs there are. -/
def usageText : String :=
  "Usage: motion-wol [OPTIONS] <" ++ "|".intercalate Invocation.top.verbs ++ ">\n"

end Reveille.Command
