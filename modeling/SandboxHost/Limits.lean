/-!
# Limits

What a guest may use: octets of memory, elements of a table, and metered work in each run.
-/

namespace SandboxHost

/-- Octets in a page of guest memory. -/
def pageSize : Nat := 65536

/-- The largest memory where nothing else is said: 256 MiB. -/
def defaultMemoryBytes : Nat := 268435456

/-- The bounds that a loader puts on its guests. -/
structure Limits where
  /-- Largest memory, in octets. -/
  maxMemoryBytes : Nat := defaultMemoryBytes
  /-- Units of metered work that a run may use, if work is metered. -/
  fuelPerRun : Option Nat := none
  deriving DecidableEq, Repr

namespace Limits

/-- Largest table, in elements. -/
def maxTableElements : Nat := 10000

/-- Whether a memory may have a size in octets. -/
def allowsMemory (limits : Limits) (bytes : Nat) : Bool :=
  bytes ≤ limits.maxMemoryBytes

/-- Whether a table may have a number of elements, which is the same under all limits. -/
def allowsTable (_ : Limits) (elements : Nat) : Bool :=
  elements ≤ maxTableElements

end Limits
end SandboxHost
