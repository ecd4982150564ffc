/-!
# Spans of guest memory

Addresses and lengths travel as 32-bit words.  Guests pass them as signed words; the host reads the
same bits as unsigned, and adds them without wrapping around.
-/

namespace SandboxHost

/-- A stretch of guest memory. -/
structure Span where
  /-- First address. -/
  ptr : UInt32
  /-- Number of octets. -/
  len : UInt32
  deriving DecidableEq, Repr

namespace Span

/-- The span that two signed words denote by their bits. -/
def ofSigned (ptr len : Int32) : Span :=
  ⟨ptr.toUInt32, len.toUInt32⟩

/-- The address after the last octet, as an exact number. -/
def stop (span : Span) : Nat :=
  span.ptr.toNat + span.len.toNat

/-- The span lies inside a memory of `size` octets.  An empty span may stand at the very end. -/
def Fits (span : Span) (size : Nat) : Prop :=
  span.stop ≤ size

instance (span : Span) (size : Nat) : Decidable (span.Fits size) :=
  inferInstanceAs (Decidable (_ ≤ _))

end Span
end SandboxHost
