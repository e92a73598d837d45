import Reveille.Rule.Parts

/-!
# Faults of rule texts

A rule text is refused at its first fault. Either a line is malformed at some column, or the
clauses of a block, each well formed, do not make a rule or a group.
-/

namespace Reveille.RuleText

/-- What may have been meant by a line at column 0 that is no rule header. -/
inductive HeaderHint where
  | unknown
  /-- The first word is close to `wake`. -/
  | misspelled
  /-- The first word starts a clause. -/
  | clause
deriving DecidableEq, Repr

/-- What is wrong with a line. -/
inductive Malformation where
  | tabIndent
  | blankIndent
  | illegalNesting
  | blockExpected
  | blockMissing
  | noHeader (found : String) (hint : HeaderHint)
  | headerColon
  | macMissing
  | mac (word : String)
  | address (word : String)
  | headerExtra (word : String)
  | unrecognized (text : String) (nearest : Option String)
  | nestedRule
  | windowShape
  | time (word : String)
  | windowOrder
  | intervalShape
  | amount (word : String)
  | unit (word : String)
  | intervalTooLarge
  | holdOffShape
  | weekdayMissing
  | weekday (word : String) (nearest : Option String)
  | groupColon (keyword : String)
deriving DecidableEq, Repr

/-- The units a length of time may be given in. -/
def units : List (String × Nat) :=
  [("sec", 1), ("s", 1), ("min", 60), ("m", 60), ("hour", 3600), ("h", 3600)]

def unitNames : String :=
  ", ".intercalate (units.map (·.1))

/-- The remark on what may have been meant. -/
def didYouMean : Option String → String
  | some word => " (did you mean '" ++ word ++ "'?)"
  | none => ""

def HeaderHint.message : HeaderHint → String
  | .unknown => ""
  | .misspelled => didYouMean (some "wake")
  | .clause => " (conditions must be indented under a rule)"

def Malformation.message : Malformation → String
  | .tabIndent => "tabs are not allowed in indentation, use spaces"
  | .blankIndent => "only spaces are allowed in indentation"
  | .illegalNesting => "illegal nesting"
  | .blockExpected => "expected an indented block"
  | .blockMissing => "expected an indented block, found end of input"
  | .noHeader found hint =>
    "expected a rule header 'wake <mac>:', found '" ++ found ++ "'" ++ hint.message
  | .headerColon => "expected ':' at the end of the rule header"
  | .macMissing => "expected a mac address after 'wake'"
  | .mac word => Net.Mac.invalidMessage word
  | .address word => "invalid address '" ++ word ++ "'"
  | .headerExtra word => "unexpected '" ++ word ++ "' in rule header"
  | .unrecognized text nearest => "unrecognized clause '" ++ text ++ "'" ++ didYouMean nearest
  | .nestedRule => "rules cannot be nested inside other rules"
  | .windowShape => "expected 'hh:mm < now < hh:mm'"
  | .time word => "malformed time '" ++ word ++ "', expected hh[:mm[:ss]]"
  | .windowOrder => "time window must end after it starts (windows cannot span midnight)"
  | .intervalShape => "expected '<integer> <unit>' with unit one of " ++ unitNames
  | .amount word => "expected an integer, found '" ++ word ++ "'"
  | .unit word => "unknown unit '" ++ word ++ "', expected one of " ++ unitNames
  | .intervalTooLarge => "interval is too large"
  | .holdOffShape => "expected 'hold off <integer> <unit>'"
  | .weekdayMissing => "expected at least one weekday"
  | .weekday word nearest => "unknown weekday '" ++ word ++ "'" ++ didYouMean nearest
  | .groupColon keyword => "expected ':' after '" ++ keyword ++ "'"

/-- The first fault of a rule text. Lines and columns count from 1, columns in bytes. -/
inductive ParseError where
  | malformed (line column : Nat) (cause : Malformation)
  | parts (line : Nat) (cause : PartsError)
deriving DecidableEq, Repr

namespace ParseError

def line : ParseError → Nat
  | .malformed line _ _ => line
  | .parts line _ => line

def message : ParseError → String
  | .malformed line column cause => s!"line {line}, column {column}: " ++ cause.message
  | .parts line cause => s!"line {line}: " ++ cause.message

end ParseError

end Reveille.RuleText
