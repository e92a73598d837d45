/-!
# Settings

What can be configured, with the values that hold where nothing is configured.
-/

namespace Reveille

/-- How a host is woken. -/
inductive WakeMethod where
  /-- By a magic packet of ours. -/
  | packet
  /-- By a command that gets the hardware address as its last argument. -/
  | command
deriving DecidableEq, Repr

structure PingSettings where
  enabled : Bool := true
  /-- Seconds between two pings. -/
  interval : Nat := 5
deriving DecidableEq, Repr

structure WakeSettings where
  method : WakeMethod := .packet
  command : String := "wakeonlan"
  /-- Where magic packets are sent to. -/
  broadcast : String := "255.255.255.255:9"
deriving DecidableEq, Repr

structure LogSettings where
  /-- Which events are logged. -/
  level : String := "info"
deriving DecidableEq, Repr

structure Settings where
  rules : String := "~/.motion-wol/rules"
  /-- The named pipe that motions are written to. -/
  fifo : String := "/tmp/motion-wol.fifo"
  socket : String := "/tmp/motion-wol.sock"
  ping : PingSettings := {}
  wake : WakeSettings := {}
  log : LogSettings := {}
deriving DecidableEq, Repr

namespace WakeMethod

def all : List WakeMethod := [packet, command]

def name : WakeMethod → String
  | packet => "packet"
  | command => "command"

/-- The methods by their names. -/
def byName : List (String × WakeMethod) :=
  all.map fun m => (m.name, m)

end WakeMethod

end Reveille
