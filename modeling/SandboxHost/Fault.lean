import SandboxHost.FileError
import SandboxHost.Guest.Link

/-!
# Faults

Everything that can go wrong between the host and a guest, as causes, with one wording each.
-/

namespace SandboxHost

/-- What ends the work of a guest. -/
inductive Setback
  /-- The entry trapped. -/
  | trap (cause : Guest.Trap)
  /-- A budget was to be set, and the work of the guest is not metered. -/
  | unmetered
  deriving DecidableEq, Repr

def Setback.message : Setback → String
  | .trap cause => cause.message
  | .unmetered => "fuel setup failed: fuel is not configured in this store"

/-- What went wrong between host and guest. -/
inductive Fault
  /-- The guest's allocator gave nothing for a request. -/
  | outOfMemory (length : UInt32)
  /-- The host, or a service that the entry called, did not touch guest memory. -/
  | refused (refusal : Guest.Refusal)
  /-- The source is longer than a guest can be told. -/
  | sourceTooLarge (size : Nat)
  | trapped (setback : Setback)
  /-- The allocator or the release function stopped early. -/
  | helperStopped (entry : Guest.Entry) (stop : Guest.Stop)
  | notLoaded (failure : Guest.LoadFailure)
  | unreadable (error : FileError)
  deriving DecidableEq, Repr

namespace Fault

/-- What the guest was doing when it was stopped. -/
def trapMessage (text : String) : String :=
  "guest trapped: " ++ text

/-- The wording of a fault. -/
def message : Fault → String
  | outOfMemory length => s!"guest allocator could not reserve {length} bytes"
  | refused refusal => refusal.message
  | sourceTooLarge size => s!"source of {size} bytes does not fit a guest pointer"
  | trapped setback => trapMessage setback.message
  | helperStopped entry stop => trapMessage (entry.name ++ ": " ++ stop.message)
  | notLoaded failure => "failed to load guest module: " ++ failure.message
  | unreadable error => "IO error: " ++ error.message

/-- The fault of an entry that stopped early: a refused service is a fault of its own. -/
def ofEntry : Guest.Stop → Fault
  | .trap cause => trapped (.trap cause)
  | .refused refusal => refused refusal

/-- The line that a failed run leaves on the error stream. -/
def report : Fault → String
  | outOfMemory _ => "Failed to allocate memory\n"
  | fault => "error: " ++ fault.message ++ "\n"

end Fault
end SandboxHost
