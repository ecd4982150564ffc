import SandboxHost.Guest.Eval
import SandboxHost.Guest.Link
import SandboxHost.Host

/-!
# Instances

Making an instance of a program: link it, check the initial sizes against the limits, copy the
initial data, run the start function.  The limits are always the loader's; what the host came with
is replaced.  A metered machine starts without any fuel.
-/

namespace SandboxHost
namespace Guest

/-- A call that the host made into a guest, from its entry to its end. -/
structure Call where
  /-- The function, with its arguments. -/
  callee : Callee
  /-- The machine when the call began. -/
  entered : Machine
  /-- The value given back, or why there is none. -/
  outcome : Except Stop UInt32
  /-- The machine when the call was over. -/
  left : Machine
  /-- What was written during the call, in order. -/
  written : List Fragment

/-- Call one of the guest's functions from outside. -/
def Call.perform (env : Env) (callee : Callee) (machine : Machine) : Call :=
  let (outcome, state) := (env.program.behavior callee).run env { machine }
  ⟨callee, machine, outcome, state.machine, state.log.toList⟩

def copySegment (machine : Machine) (segment : Segment) : Except LoadFailure Machine :=
  match machine.memory with
  | none => .error (.stopped (.trap .memoryAccess))
  | some memory =>
      if segment.address.toNat + segment.octets.length ≤ memory.size then
        .ok { machine with
          memory := some (memory.store segment.address.toNat segment.octets) }
      else .error (.stopped (.trap .memoryAccess))

/-- The initial memory, unless the limits forbid its size. -/
def initialMemory (env : Env) : Except LoadFailure (Option Memory) :=
  match env.program.memory with
  | none => .ok none
  | some type =>
      if env.limits.all (·.allowsMemory (type.minimum * pageSize)) then
        .ok (some { pages := type.minimum, maximum := type.maximum })
      else .error (.memoryTooLarge type.minimum)

/-- The initial table, unless the limits forbid its size. -/
def initialTable (env : Env) : Except LoadFailure (Option Nat) :=
  match env.program.table with
  | none => .ok none
  | some elements =>
      if env.limits.all (·.allowsTable elements) then .ok (some elements)
      else .error (.tableTooLarge elements)

/-- The budget of a new machine: nothing, if work is metered. -/
def initialFuel (env : Env) : Option Nat :=
  (env.limits.bind Limits.fuelPerRun).map fun _ => 0

/-- The machine of a program before its start function runs. -/
def assemble (env : Env) : Except LoadFailure Machine := do
  link env.program.imports
  let memory ← initialMemory env
  let table ← initialTable env
  env.program.data.foldlM copySegment
    { memory, globals := env.program.globals, table, fuel := initialFuel env }

/-- The machine of a program after its start function, and what that function wrote. -/
def boot (env : Env) : Except LoadFailure Machine × List Fragment :=
  match assemble env with
  | .error failure => (.error failure, [])
  | .ok machine =>
      if env.program.start.isNone then (.ok machine, [])
      else
        let call := Call.perform env .start machine
        match call.outcome with
        | .ok _ => (.ok call.left, call.written)
        | .error stop => (.error (.stopped stop), call.written)

/-- A program that runs, with the host's state for it. -/
structure Instance where
  program : Program
  /-- What the guest can change. -/
  machine : Machine
  host : Host

/-- Make an instance under a loader's limits.  The host's state comes back in any case, with what
the start function wrote. -/
def Instance.make (limits : Limits) (program : Program) (host : Host) :
    Except LoadFailure Instance × Host :=
  let host := { host with limits }
  let (machine, written) := boot ⟨program, some limits, host.clock⟩
  let host := host.emitAll written
  (machine.map fun machine => ⟨program, machine, host⟩, host)

end Guest
end SandboxHost
