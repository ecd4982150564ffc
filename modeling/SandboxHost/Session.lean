import SandboxHost.Loan

/-!
# Sessions

A session runs sources on one instance.  Each run borrows a span, copies the source there, calls the
entry and gives the span back, on every path.  The calls that a run makes are kept in its record.
-/

namespace SandboxHost

open Guest

/-- The record of one run: what it did to the guest and how it ended. -/
structure Exchange where
  /-- The calls made into the guest, in order. -/
  calls : List Call
  /-- The span that the guest lent, if it lent one. -/
  loan : Option Loan
  /-- Success, or the first step that failed. -/
  outcome : Except Fault Unit
  machine : Machine

namespace Exchange

/-- Copy octets into a borrowed span.  The memory is looked up afresh, since the allocator may have
grown it. -/
def stage (env : Env) (machine : Machine) (loan : Loan) (octets : List UInt8) :
    Except Refusal Machine := do
  let memory ← memoryOf env.program machine
  let memory ← memory.write loan.span.ptr octets
  return { machine with memory := some memory }

/-- Give the machine the budget of a run, if runs have one. -/
def refuel (budget : Option Nat) (machine : Machine) : Except Fault Machine :=
  match budget with
  | none => .ok machine
  | some fuel =>
      match machine.setFuel? fuel with
      | some machine => .ok machine
      | none => .error (.trapped .unmetered)

/-- Release a loan after the calls made so far, with a fresh budget.  The loan is released even if
there is no budget to be had, and a fault of an earlier step comes before one of a later step. -/
def conclude (env : Env) (budget : Option Nat) (calls : List Call) (machine : Machine) (loan : Loan)
    (outcome : Except Fault Unit) : Exchange :=
  let refueled := refuel budget machine
  let (released, call) := loan.release env (refueled.toOption.getD machine)
  { calls := calls ++ [call], loan := some loan, outcome := outcome *> refueled *> released,
    machine := call.left }

/-- Hand octets to a guest that takes them. -/
def deliver (env : Env) (budget : Option Nat) (machine : Machine) (octets : List UInt8) :
    Exchange :=
  match refuel budget machine with
  | .error fault => ⟨[], none, .error fault, machine⟩
  | .ok machine =>
      let (loan, asked) := Loan.borrow env machine octets.length.toUInt32
      match loan with
      | .error fault => ⟨[asked], none, .error fault, asked.left⟩
      | .ok loan =>
          match stage env asked.left loan octets with
          | .error refusal =>
              conclude env budget [asked] asked.left loan (.error (.refused refusal))
          | .ok staged =>
              let ran := Call.perform env (.run loan.span.ptr loan.span.len) staged
              conclude env budget [asked, ran] ran.left loan
                ((ran.outcome.mapError Fault.ofEntry).map fun _ => ())

/-- The octets that a source must have fewer than: a guest is told the length as a signed word. -/
def sourceBound : Nat := 2147483648

/-- Run a source.  The empty source does nothing; one of `sourceBound` octets or more cannot be told
to the guest. -/
def run (env : Env) (budget : Option Nat) (machine : Machine) (source : String) : Exchange :=
  let octets := Utf8.encode source
  if octets.isEmpty then ⟨[], none, .ok (), machine⟩
  else if sourceBound ≤ octets.length then
    ⟨[], none, .error (.sourceTooLarge octets.length), machine⟩
  else deliver env budget machine octets

/-- The report of a failed run, as a fragment. -/
def report : Except Fault Unit → List Fragment
  | .ok _ => []
  | .error fault => [⟨.stderr, fault.report⟩]

/-- Everything a run adds to the output: what the guest wrote, then the report if it failed. -/
def fragments (exchange : Exchange) : List Fragment :=
  exchange.calls.flatMap Call.written ++ report exchange.outcome

end Exchange

/-- An instance on which sources are run. -/
structure Session where
  program : Program
  /-- What the guest can change. -/
  machine : Machine
  host : Host
  /-- The runs for which the guest lent a span. -/
  runs : Nat := 0

namespace Session

/-- Open a session on an instance that has a memory, an allocator, a release function and an
entry. -/
def ofInstance (self : Instance) : Except Fault Session := do
  let _ ← (memoryOf self.program self.machine).mapError fun _ =>
    Fault.refused (.missing .memory .noMemory)
  Loan.supported self.program
  (self.program.callable .runCodeApi).mapError .refused
  return { program := self.program, machine := self.machine, host := self.host }

/-- What does not change while the session lives. -/
def env (session : Session) : Env :=
  ⟨session.program, some session.host.limits, session.host.clock⟩

/-- The record of running a source in the session's present state. -/
def exchange (session : Session) (source : String) : Exchange :=
  Exchange.run session.env session.host.limits.fuelPerRun session.machine source

/-- Run a source: how it ended, and the session afterwards. -/
def run (session : Session) (source : String) : Except Fault Unit × Session :=
  let exchange := session.exchange source
  (exchange.outcome,
    { session with
      machine := exchange.machine
      host := session.host.emitAll exchange.fragments
      runs := session.runs + if exchange.loan.isSome then 1 else 0 })

def clearOutput (session : Session) : Session :=
  { session with host := session.host.clearOutput }

def memorySize (session : Session) : Nat :=
  session.machine.memorySize

/-- The globals that the host can see. -/
def globals (session : Session) : List (String × Value) :=
  session.machine.publicGlobals

end Session
end SandboxHost
