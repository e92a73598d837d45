import Reveille.Engine.Basic

/-!
# Pings

A monitor pings a host that has an address for as long as it runs, and puts every reply on
record.
-/

namespace Reveille

open Reveille.Net

namespace Ping

def contains (part : List Char) : List Char → Bool
  | [] => part.isEmpty
  | c :: cs => part.isPrefixOf (c :: cs) || contains part cs

/-- What every reply says. -/
def replyMark : String := " bytes from "

def isReply (line : String) : Bool :=
  contains replyMark.toList line.toList

/-- The arguments of a ping: the seconds between two of them, and the address. -/
def arguments (interval : Nat) (address : Address) : List String :=
  ["-i", toString interval, address.text]

/-- The pings that monitor hosts, none for a host without an address. -/
def commands (interval : Nat) (hosts : List Host) : List (List String) :=
  hosts.filterMap fun h => h.address.map (arguments interval)

end Ping

namespace Engine

/-- A line of the output of the ping of a host, which counts only if it is a reply. -/
def heardPing (host : Host) (epoch : Int) (e : Engine) (line : String) : Engine :=
  if Ping.isReply line then e.recordPing host epoch else e

def monitor (host : Host) (epoch : Int) (lines : List String) (e : Engine) : Engine :=
  match host.address with
  | some _ => lines.foldl (heardPing host epoch) e
  | none => e

end Engine

end Reveille
