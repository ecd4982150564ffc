import SandboxHost.Guest.Stop
import SandboxHost.Output

/-!
# Behaviors

A behavior is guest code with its control flow resolved: which instruction comes next is a function
of the answers so far.  What holds of each instruction carries over to guest code of any shape by
one induction.
-/

namespace SandboxHost
namespace Guest

/-- The steps that guest code is made of. -/
inductive Instruction
  /-- Use up work, whatever is left. -/
  | spend (cost : Nat)
  /-- Use up work and stop if nothing is left. -/
  | meter (cost : Nat)
  | global (name : String)
  | pages
  | tableSize
  | load (address : UInt32) (count : Nat)
  | growMemory (extra : UInt32)
  | growTable (extra : UInt32)
  | assign (name : String) (value : UInt32)
  | store (address : UInt32) (octets : List UInt8)
  /-- Call the service that writes a span to a stream. -/
  | write (stream : Stream) (span : Span)
  /-- Call the service that tells the time and keep the time in a global. -/
  | readClock (name : String)
  deriving DecidableEq, Repr

/-- What a call of a guest's function does, as a tree of instructions. -/
inductive Behavior
  | done (value : UInt32)
  | stop (cause : Trap)
  /-- Perform an instruction and go on with its answer. -/
  | step (instruction : Instruction) (next : UInt32 → Behavior)

/-- One behavior after another, which is given the value of the first. -/
def Behavior.andThen (later : UInt32 → Behavior) : Behavior → Behavior
  | .done value => later value
  | .stop cause => .stop cause
  | .step instruction next => .step instruction fun answer => (next answer).andThen later

/-- Code inside a function: given what follows once it has a value, what happens from its start. -/
def Code (α : Type) : Type :=
  (α → Behavior) → Behavior

namespace Code

instance : Monad Code where
  pure value := fun later => later value
  bind code next := fun later => code fun value => next value later

def just (instruction : Instruction) : Code UInt32 :=
  .step instruction

/-- Nothing follows a trap. -/
def stop {α : Type} (cause : Trap) : Code α :=
  fun _ => .stop cause

/-- All of a behavior. -/
def all (behavior : Behavior) : Code UInt32 :=
  fun later => behavior.andThen later

end Code
end Guest
end SandboxHost
