import Reveille.Files.Basic
import Reveille.Net.Address
import Reveille.Net.Mac
import Reveille.Report
import Reveille.Settings.Basic

/-!
# Wakers

A waker sends what wakes a host: a magic packet, or the hardware address as the last argument of
a command.
-/

namespace Reveille

open Reveille.Files Reveille.Net Reveille.Text

structure Waker where
  method : WakeMethod
  program : String
  arguments : List String
  broadcast : Endpoint
deriving DecidableEq, Repr

inductive Transmission where
  | packet (target : Endpoint) (bytes : List UInt8)
  | command (program : String) (arguments : List String)
deriving DecidableEq, Repr

namespace Waker

inductive Fault where
  | broadcast (text : String)
  | command
deriving DecidableEq, Repr

def Fault.report : Fault → Report
  | .broadcast text => ⟨"Invalid wake.broadcast address: " ++ text, [Endpoint.invalidMessage]⟩
  | .command => .plain "wake.command must not be empty"

/-- The waker of settings. The command is its words, and must have one even where it is not
used. -/
def ofSettings (s : WakeSettings) : Except Fault Waker :=
  match Endpoint.ofText? s.broadcast.toList with
  | none => .error (.broadcast s.broadcast)
  | some broadcast =>
    match (words s.command.toList).map Piece.text with
    | [] => .error .command
    | program :: arguments => .ok ⟨s.method, program, arguments, broadcast⟩

/-- What wakes the owner of a hardware address. -/
def transmission (w : Waker) (mac : Mac) : Transmission :=
  match w.method with
  | .packet => .packet w.broadcast mac.magicPacket
  | .command => .command w.program (w.arguments ++ [mac.text])

/-- How a command ends. -/
inductive Ending where
  | exited (code : Nat)
  | notRun (cause : FileError)
deriving DecidableEq, Repr

/-- The report of a command that fails. -/
def failure? (program : String) : Ending → Option Report
  | .exited 0 => none
  | .exited code => some (.plain (program ++ s!" exited with exit status: {code}"))
  | .notRun cause => some ⟨"Failed to run " ++ program, [cause.message]⟩

end Waker

end Reveille
