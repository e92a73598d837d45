import Reveille.Net.Address
import Reveille.Net.Mac

/-!
# Hosts

A host is what a rule wakes: its hardware address, and its network address if that is known.
Two hosts are the same only if both agree.
-/

namespace Reveille.Net

structure Host where
  address : Option Address
  mac : Mac
deriving DecidableEq, Repr

namespace Host

/-- The network address, if there is one, and the hardware address. -/
def text (h : Host) : String :=
  match h.address with
  | some a => a.text ++ " " ++ h.mac.text
  | none => h.mac.text

end Host

end Reveille.Net
