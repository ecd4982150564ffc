import SandboxHost.Limits
import SandboxHost.Output

/-!
# The host's side of an instance

What services work on: the collected output, the clock and the limits.
-/

namespace SandboxHost

/-- The state that the host keeps for an instance. -/
structure Host where
  /-- Where fragments go. -/
  output : Transcript
  /-- The time that guests are told, in milliseconds. -/
  clock : Int64 := 0
  /-- The bounds put on the guest. -/
  limits : Limits := {}

namespace Host

/-- Collect a fragment. -/
def emit (host : Host) (fragment : Fragment) : Host :=
  { host with output := host.output.append fragment }

/-- Collect fragments in order. -/
def emitAll (host : Host) (fragments : List Fragment) : Host :=
  { host with output := host.output.appendAll fragments }

/-- Print past the routing, as the host does with words of its own. -/
def print (host : Host) (stream : Stream) (text : String) : Host :=
  { host with output := host.output.put ⟨stream, text⟩ }

def clearOutput (host : Host) : Host :=
  { host with output := host.output.clear }

end Host
end SandboxHost
