import Herbarium.Error
import Herbarium.Port
import Herbarium.Url.Host

/-!
Where the service can listen.

A host is an address in numbers or a name. Of the addresses only those of this machine itself can be listened on: the
unspecified one, which stands for all, and those that lead back. Of the names only that of this machine is known.
-/

namespace Herbarium.Listener

/-- A host and a port as they are written together. -/
def address (host : String) (port : Port) : String := host ++ ":" ++ port.text

/-- The host a setting writes; an address of eight groups may go without brackets. -/
def hostOf (host : String) : Except Url.Fault Url.Host :=
  match Url.ipv6Of host.toList with
  | .ok h => .ok h
  | .error _ => Url.Host.parse host.toList

/-- Whether a host is this machine. -/
def isOwn : Url.Host → Bool
  | .ipv4 n => n == 0 || n / 0x1000000 == 127
  | .ipv6 groups => groups.dropLast.all (· == 0) && groups.getLastD 2 ≤ 1
  | .domain name => name = "localhost".toList

def isNumeric : Url.Host → Bool
  | .ipv4 _ | .ipv6 _ => true
  | .domain _ => false

/-- Listens on a host, which fails unless it is this machine. -/
def listen (host : String) : Except Error Unit :=
  match hostOf host with
  | .ok h =>
    if isOwn h then .ok ()
    else if isNumeric h then .error (.internal "Cannot assign requested address (os error 99)")
    else .error (.internal "failed to lookup address information: Temporary failure in name resolution")
  | .error _ => .error (.internal "failed to lookup address information: Name or service not known")

end Herbarium.Listener
