import SandboxHost.Fault
import SandboxHost.Guest.Instance

/-!
# Loans

The host does not decide where its data lies in guest memory.  It borrows a span from the guest's
allocator and gives exactly that span back to the guest's release function.
-/

namespace SandboxHost

open Guest

/-- A span borrowed from a guest. -/
structure Loan where
  /-- Where it lies. -/
  span : Span
  deriving DecidableEq, Repr

namespace Loan

/-- What a call of the allocator means.  Address zero is a refusal. -/
def ofOutcome (length : UInt32) : Except Stop UInt32 → Except Fault Loan
  | .error stop => .error (.helperStopped .memAlloc stop)
  | .ok ptr => if ptr = 0 then .error (.outOfMemory length) else .ok ⟨ptr, length⟩

/-- Ask the guest for a span. -/
def borrow (env : Env) (machine : Machine) (length : UInt32) : Except Fault Loan × Call :=
  let call := Call.perform env (.alloc length) machine
  (ofOutcome length call.outcome, call)

/-- What a call of the release function means. -/
def ofRelease : Except Stop UInt32 → Except Fault Unit
  | .error stop => .error (.helperStopped .memFree stop)
  | .ok _ => .ok ()

/-- Give a span back.  The loan is over, whatever the guest makes of it. -/
def release (env : Env) (machine : Machine) (loan : Loan) : Except Fault Unit × Call :=
  let call := Call.perform env (.free loan.span.ptr loan.span.len) machine
  (ofRelease call.outcome, call)

/-- Whether a program has what loans need. -/
def supported (program : Program) : Except Fault Unit := do
  (program.callable .memAlloc).mapError .refused
  (program.callable .memFree).mapError .refused

end Loan
end SandboxHost
