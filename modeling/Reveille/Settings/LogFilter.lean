import Reveille.Pattern.Reader
import Reveille.Text.Alphanumeric
import Reveille.Text.Blank
import Reveille.Text.Digits

/-!
# Log filters

A log filter is a list of directives with commas between them, such as `info,store=debug`. A
directive names a level, or a target with spans and fields, or both. A field may have a value, which
is a number or a pattern.
-/

namespace Reveille.LogFilter

open Reveille.Text

inductive Fault where
  | directive
  | level
  | field (cause : Pattern.Fault)
deriving DecidableEq, Repr

def Fault.message : Fault → String
  | .directive => "invalid filter directive"
  | .level => "error parsing level filter: expected one of \"off\", \"error\", \"warn\", \"info\", "
      ++ "\"debug\", \"trace\", or a number 0-5"
  | .field cause => "invalid field filter: " ++ cause.message

/-! ### Fields -/

def isExponent : List Char → Bool
  | [] => true
  | e :: rest =>
    let ds := match rest with
      | '+' :: ds | '-' :: ds => ds
      | ds => ds
    (e = 'e' || e = 'E') && !ds.isEmpty && ds.all Char.isDigit

/-- Whether a text is a number without a sign: digits on one side of the point at least. -/
def isUnsigned (s : List Char) : Bool :=
  let whole := s.takeWhile Char.isDigit
  let (places, rest) := match s.dropWhile Char.isDigit with
    | '.' :: rest => (rest.takeWhile Char.isDigit, rest.dropWhile Char.isDigit)
    | rest => ([], rest)
  (!whole.isEmpty || !places.isEmpty) && isExponent rest
    || ["inf", "infinity", "nan"].any fun name => name.toList = s.map Char.toLower

def isNumber : List Char → Bool
  | '+' :: s | '-' :: s => isUnsigned s
  | s => isUnsigned s

/-- Checks a field. What follows the first sign of equality, up to the next one, is a number or a
pattern. -/
def checkField (s : List Char) : Except Fault Unit :=
  match (split '=' s).map (·.chars) with
  | _ :: value :: _ =>
    if isNumber value then .ok () else (Pattern.check value).mapError .field
  | _ => .ok ()

/-! ### Directives -/

/-- What is being read of a directive, and the byte where a field or a level starts. -/
inductive State where
  | start
  | levelOrTarget
  | target
  | span
  | field (start : Nat)
  | fields
  | level (start : Nat)
deriving DecidableEq, Repr

/-- What a directive may start with, a span aside. -/
def startsTarget (c : Char) : Bool :=
  isAlphanumeric c || c == '-' || c == ':' || c == '_'

/-- A text without its first bytes. -/
def dropBytes : Nat → List Char → List Char
  | 0, s => s
  | _, [] => []
  | n + 1, c :: cs => dropBytes (n + 1 - c.utf8Size) cs

/-- The first bytes of a text. -/
def takeBytes : Nat → List Char → List Char
  | 0, _ => []
  | _, [] => []
  | n + 1, c :: cs => c :: takeBytes (n + 1 - c.utf8Size) cs

/-- The state after the character at byte `offset`. A field is not empty; it is looked for in the
whole text `s`. -/
def next (s : List Char) (offset : Nat) (c : Char) : State → Except Fault State
  | .start =>
    if c = '[' then .ok .span else if startsTarget c then .ok .levelOrTarget else .error .directive
  | .levelOrTarget =>
    .ok (if c = '=' then .level (offset + 1) else if c = '[' then .span else .levelOrTarget)
  | .span => .ok (if c = ']' then .target else if c = '\x7b' then .field (offset + 1) else .span)
  | .field start =>
    if c ≠ '\x7d' then .ok (.field start)
    else if start = offset then .error .directive
    else (checkField (takeBytes (offset - start) (dropBytes start s))).map fun () => .fields
  | .fields => if c = ']' then .ok .target else .error .directive
  | .target => if c = '=' then .ok (.level (offset + 1)) else .error .directive
  | .level start => .ok (.level start)

/-- The state after the rest of a directive. -/
def run (s : List Char) : State → Nat → List Char → Except Fault State
  | state, _, [] => .ok state
  | state, offset, c :: cs => do run s (← next s offset c state) (offset + c.utf8Size) cs

def isLevel (s : List Char) : Bool :=
  s.isEmpty || (readNat? maxWord s).any (· ≤ 5)
    || ["off", "error", "warn", "info", "debug", "trace"].any
      fun name => name.toList = s.map Char.toLower

/-- Checks a directive. Fields and the level are looked for in the text with its blanks, at the
bytes where they are without those at the start. -/
def checkDirective (s : List Char) : Except Fault Unit := do
  match ← run s .start 0 (trim s) with
  | .levelOrTarget | .target => return ()
  | .level start => if isLevel (dropBytes start s) then return () else throw .level
  | _ => throw .directive

def checkAll : List (List Char) → Except Fault Unit
  | [] => .ok ()
  | s :: ss => do
    checkDirective s
    checkAll ss

def check (text : String) : Except Fault Unit :=
  checkAll (((split ',' text.toList).map (·.chars)).filter (· ≠ []))

end Reveille.LogFilter
