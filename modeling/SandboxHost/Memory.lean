import SandboxHost.Guest.Stop
import SandboxHost.Limits
import Std.Data.TreeMap

/-!
# Guest memory

A memory is a row of whole pages that begin as zeros and can grow.  Only octets that were written
are stored.  The view of a memory is its `size` together with `byteAt`; reading, writing, filling
and growing are described through it.
-/

namespace SandboxHost

/-- A growable memory whose octets begin as zero. -/
structure Memory where
  pages : Nat
  /-- The most pages the memory may come to have, if it says so. -/
  maximum : Option Nat := none
  /-- The octets that were written. -/
  cells : Std.TreeMap Nat UInt8 := ∅

namespace Memory

/-- The most pages that a 32-bit address can reach. -/
def maxPages : Nat := 65536

def size (memory : Memory) : Nat :=
  memory.pages * pageSize

def byteAt (memory : Memory) (address : Nat) : UInt8 :=
  memory.cells.getD address 0

/-- Enter octets at an address and the addresses after it. -/
def enter (cells : Std.TreeMap Nat UInt8) (address : Nat) : List UInt8 → Std.TreeMap Nat UInt8
  | [] => cells
  | octet :: octets => enter (cells.insert address octet) (address + 1) octets

/-- Store octets without asking whether they fit. -/
def store (memory : Memory) (address : Nat) (octets : List UInt8) : Memory :=
  { memory with cells := enter memory.cells address octets }

/-- The octets of a stretch, without asking whether it fits. -/
def load (memory : Memory) (address length : Nat) : List UInt8 :=
  (List.range' address length).map memory.byteAt

def read (memory : Memory) (span : Span) : Except Guest.Refusal (List UInt8) :=
  if span.Fits memory.size then .ok (memory.load span.ptr.toNat span.len.toNat)
  else .error (.outOfBounds span memory.size)

/-- Set every octet of a span to one value. -/
def fill (memory : Memory) (span : Span) (octet : UInt8) : Except Guest.Refusal Memory :=
  if span.Fits memory.size then
    .ok (memory.store span.ptr.toNat (List.replicate span.len.toNat octet))
  else .error (.outOfBounds span memory.size)

/-- Copy octets to an address, all of them or none.  There must be fewer than 2^32 of them. -/
def write (memory : Memory) (ptr : UInt32) (octets : List UInt8) : Except Guest.Refusal Memory :=
  let span : Span := ⟨ptr, octets.length.toUInt32⟩
  if span.Fits memory.size then .ok (memory.store ptr.toNat octets)
  else .error (.outOfBounds span memory.size)

/-- The most pages a memory may come to have. -/
def bound (memory : Memory) : Nat :=
  match memory.maximum with
  | some maximum => min maximum maxPages
  | none => maxPages

/-- Grow by some pages, unless the bound or the owner's rule on sizes in octets forbids it. -/
def grow? (memory : Memory) (allows : Nat → Bool) (extra : Nat) : Option Memory :=
  let pages := memory.pages + extra
  if pages ≤ memory.bound ∧ allows (pages * pageSize) then some { memory with pages } else none

end Memory
end SandboxHost
