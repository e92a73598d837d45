import Reveille.Control.Client
import Reveille.Control.Dispatch

/-!
# Control connections

What comes over a connection is cut into lines, and each line that is not blank is answered with
one line. A line that is no text ends the connection.
-/

namespace Reveille.Control

open Reveille.Calendar Reveille.Text

/-- The lines that bytes are cut into, without their ends. What follows the last end is a line
unless it is empty. -/
def linesOf : List UInt8 → List (List UInt8)
  | [] => []
  | b :: bs =>
    if b = lineEnd then [] :: linesOf bs
    else
      match linesOf bs with
      | [] => [[b]]
      | line :: lines => (b :: line) :: lines

inductive Line where
  | blank
  | request (r : Request)
  | malformed (fault : Json.Fault)
  | noText

def Line.ofBytes (bytes : List UInt8) : Line :=
  match ofUtf8? bytes with
  | none => .noText
  | some text =>
    match trim text.toList with
    | [] => .blank
    | cs =>
      match Request.read cs with
      | .ok r => .request r
      | .error f => .malformed f

/-- Carries out a line: the engine after it, and the response and what is left to do after it,
if it is answered. -/
def Line.serve (process : Nat) (now : Instant) (e : Engine) :
    Line → Engine × Option (Response × Outcome)
  | .blank | .noText => (e, none)
  | .malformed f => (e, some (malformedResponse f, .reply))
  | .request r =>
    let (e, response, outcome) := dispatch process now e r
    (e, some (response, outcome))

def Response.bytes (r : Response) : List UInt8 :=
  utf8 (r.toJson.compact) ++ [lineEnd]

end Reveille.Control
