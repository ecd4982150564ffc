import SandboxHost.Guest.Program
import SandboxHost.Memory

/-!
# The state of a guest

A machine is what a guest can change: memory, globals, table and the metered work it has left.
While a call runs, the log of what it wrote grows beside the machine.
-/

namespace SandboxHost
namespace Guest

structure Machine where
  /-- Memory, if the program has one. -/
  memory : Option Memory
  globals : List (String × Value)
  /-- Elements in the table, if the program has one. -/
  table : Option Nat
  /-- Units of work left, if work is metered. -/
  fuel : Option Nat := none

/-- A machine at work, with the fragments written since the call began. -/
structure State where
  /-- What the guest can change. -/
  machine : Machine
  /-- What the guest wrote, in order. -/
  log : Array Fragment := #[]

/-- What does not change while an instance lives. -/
structure Env where
  /-- The program that runs. -/
  program : Program
  /-- The limits on growth, if the host sets any. -/
  limits : Option Limits
  /-- The time that the host tells. -/
  clock : Int64

namespace Machine

def word (machine : Machine) (name : String) : UInt32 :=
  match machine.globals.lookup name with
  | some (.word value) => value
  | _ => 0

def assign (machine : Machine) (name : String) (value : Value) : Machine :=
  { machine with
    globals := machine.globals.map fun entry => if entry.1 = name then (name, value) else entry }

/-- The globals that the host can see. -/
def publicGlobals (machine : Machine) : List (String × Value) :=
  machine.globals.filter fun entry => Program.isPublic entry.1

def memorySize (machine : Machine) : Nat :=
  match machine.memory with
  | some memory => memory.size
  | none => 0

/-- Give the machine a fresh budget.  A machine whose work is not metered takes none. -/
def setFuel? (machine : Machine) (fuel : Nat) : Option Machine :=
  machine.fuel.map fun _ => { machine with fuel := some fuel }

/-- Use up some of the budget, if work is metered. -/
def spend (machine : Machine) (cost : Nat) : Machine :=
  { machine with fuel := machine.fuel.map (· - cost) }

/-- The octets of a stretch of memory, whatever the host can see of it. -/
def load (machine : Machine) (address : UInt32) (count : Nat) : Except Trap (List UInt8) :=
  match machine.memory with
  | none => .error .memoryAccess
  | some memory =>
      if address.toNat + count ≤ memory.size then .ok (memory.load address.toNat count)
      else .error .memoryAccess

def store (machine : Machine) (address : UInt32) (octets : List UInt8) : Except Trap Machine :=
  match machine.memory with
  | none => .error .memoryAccess
  | some memory =>
      if address.toNat + octets.length ≤ memory.size then
        .ok { machine with memory := some (memory.store address.toNat octets) }
      else .error .memoryAccess

def pages (machine : Machine) : UInt32 :=
  match machine.memory with
  | some memory => memory.pages.toUInt32
  | none => 0

/-- Grow memory under some limits, if there are any: the old size in pages, or all ones if that is
refused. -/
def growMemory (limits : Option Limits) (machine : Machine) (extra : UInt32) : UInt32 × Machine :=
  match machine.memory with
  | none => (-1, machine)
  | some memory =>
      match memory.grow? (fun bytes => limits.all (·.allowsMemory bytes)) extra.toNat with
      | none => (-1, machine)
      | some grown => (memory.pages.toUInt32, { machine with memory := some grown })

/-- Grow the table under some limits, if there are any: the old number of elements, or all ones if
that is refused. -/
def growTable (limits : Option Limits) (machine : Machine) (extra : UInt32) : UInt32 × Machine :=
  match machine.table with
  | none => (-1, machine)
  | some elements =>
      let grown := elements + extra.toNat
      if grown < UInt32.size ∧ limits.all (·.allowsTable grown) then
        (elements.toUInt32, { machine with table := some grown })
      else (-1, machine)

end Machine

/-- The memory that the host reaches under its name. -/
def memoryOf (program : Program) (machine : Machine) : Except Refusal Memory :=
  match program.offers .memory with
  | .own | .memory =>
      match machine.memory with
      | some memory => .ok memory
      | none => .error (.missing .memory .noMemory)
  | .nothing => .error (.missing .memory .noMemory)
  | .global | .function _ => .error (.missing .memory .notMemory)

end Guest
end SandboxHost
