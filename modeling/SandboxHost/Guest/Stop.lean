import SandboxHost.Span

/-!
# How guest calls stop early

A guest call stops at a trap of its own or because a host service refuses what it was asked for.
-/

namespace SandboxHost
namespace Guest

/-- The names under which the host looks for what a guest offers. -/
inductive Entry
  | memory
  | memAlloc
  | memFree
  | runCodeApi
  deriving DecidableEq, Repr

def Entry.name : Entry → String
  | .memory => "memory"
  | .memAlloc => "memAlloc"
  | .memFree => "memFree"
  | .runCodeApi => "runCodeApi"

/-- Why an entry cannot be used. -/
inductive Absence
  /-- The guest has no memory under that name. -/
  | noMemory
  /-- The name stands for something that is no memory. -/
  | notMemory
  /-- No function has the name. -/
  | noFunction
  /-- The function has another type. -/
  | otherType
  deriving DecidableEq, Repr

def Absence.message (name : String) : Absence → String
  | .noMemory => "no exported memory"
  | .notMemory => "export is not a memory"
  | .noFunction => s!"failed to find function export `{name}`"
  | .otherType => s!"failed to convert function `{name}` to given type"

/-- Why a host service, or the host itself, does not touch guest memory. -/
inductive Refusal
  /-- The span does not fit a memory of `size` octets. -/
  | outOfBounds (span : Span) (size : Nat)
  | missing (entry : Entry) (absence : Absence)
  deriving DecidableEq, Repr

def Refusal.message : Refusal → String
  | .outOfBounds span size =>
      s!"span [{span.ptr}, {span.ptr}+{span.len}) is outside guest memory of {size} bytes"
  | .missing entry absence =>
      s!"guest export `{entry.name}` unavailable: " ++ absence.message entry.name

/-- The faults that end a guest's own computation. -/
inductive Trap
  | unreachable
  | memoryAccess
  | divideByZero
  | overflow
  | callStack
  | fuel
  /-- A loop was cut off after `Guest.loopLimit` rounds. -/
  | interrupted
  deriving DecidableEq, Repr

def Trap.message : Trap → String
  | .unreachable => "wasm trap: wasm `unreachable` instruction executed"
  | .memoryAccess => "wasm trap: out of bounds memory access"
  | .divideByZero => "wasm trap: integer divide by zero"
  | .overflow => "wasm trap: integer overflow"
  | .callStack => "wasm trap: call stack exhausted"
  | .fuel => "wasm trap: all fuel consumed by WebAssembly"
  | .interrupted => "wasm trap: interrupt"

/-- Why a guest call ended before its end. -/
inductive Stop
  | trap (cause : Trap)
  | refused (refusal : Refusal)
  deriving DecidableEq, Repr

def Stop.message : Stop → String
  | .trap cause => cause.message
  | .refused refusal => refusal.message

end Guest
end SandboxHost
