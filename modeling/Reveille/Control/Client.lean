import Reveille.Control.Message
import Reveille.Files.Basic
import Reveille.Report

/-!
# Control clients

A client sends one request on a line of its own and reads one line back.
-/

namespace Reveille.Control

open Reveille.Files Reveille.Json Reveille.Text

inductive ClientFault where
  | unreachable (path : Pathname) (cause : FileError)
  | noText
  | silent
  | malformed (cause : Fault)
deriving DecidableEq, Repr

def ClientFault.report : ClientFault → Report
  | .unreachable path cause => ⟨"Failed to connect to daemon at " ++ path.text, [cause.message]⟩
  | .noText => .plain FileError.noText.message
  | .silent => .plain "daemon closed the connection without replying"
  | .malformed cause => .plain ("Invalid response from daemon: " ++ cause.message)

/-- The line that a client sends, without its end. -/
def requestLine (method : String) : String :=
  (Request.new method).toJson.compact

/-- The byte that ends a line. -/
def lineEnd : UInt8 := 10

/-- The first line with its end, or all if no line ends. -/
def firstLine : List UInt8 → List UInt8
  | [] => []
  | b :: bs => if b = lineEnd then [b] else b :: firstLine bs

/-- The response that is sent back. -/
def readReply (bytes : List UInt8) : Except ClientFault Response :=
  match ofUtf8? (firstLine bytes) with
  | none => .error .noText
  | some line =>
    if trim line.toList = [] then .error .silent
    else (Response.read line.toList).mapError .malformed

end Reveille.Control
