import SandboxHost.Output

/-!
# Shared output

A desk keeps transcripts in cells.  Handles name cells, so that several holders write to one
transcript; a snapshot is a transcript taken out of its cell, on which later writes to the cell have
no effect.
-/

namespace SandboxHost

/-- Transcripts, the handles that share them, and the snapshots taken. -/
structure Desk where
  /-- The transcripts that handles stand for. -/
  cells : Array Transcript
  /-- For each handle the cell it stands for. -/
  handles : Array Nat
  /-- Independent copies, in the order they were taken. -/
  snapshots : Array Transcript
  deriving DecidableEq, Repr

namespace Desk

/-- One empty transcript and one handle to it. -/
def new (routing : Routing) : Desk :=
  ⟨#[.new routing], #[0], #[]⟩

/-- The transcript that a handle shows. -/
def show? (desk : Desk) (handle : Nat) : Option Transcript := do
  desk.cells[← desk.handles[handle]?]?

/-- Change the transcript that a handle stands for. -/
def update (desk : Desk) (handle : Nat) (change : Transcript → Transcript) : Desk :=
  match desk.handles[handle]? with
  | some cell => { desk with cells := desk.cells.modify cell change }
  | none => desk

/-- Write through a handle. -/
def append (desk : Desk) (handle : Nat) (fragment : Fragment) : Desk :=
  desk.update handle (·.append fragment)

/-- Clear through a handle. -/
def clear (desk : Desk) (handle : Nat) : Desk :=
  desk.update handle Transcript.clear

/-- A further handle to the same transcript. -/
def share (desk : Desk) (handle : Nat) : Desk :=
  match desk.handles[handle]? with
  | some cell => { desk with handles := desk.handles.push cell }
  | none => desk

/-- Take a copy of what a handle shows. -/
def snapshot (desk : Desk) (handle : Nat) : Desk :=
  match desk.show? handle with
  | some transcript => { desk with snapshots := desk.snapshots.push transcript }
  | none => desk

/-- Write to a snapshot. -/
def appendSnapshot (desk : Desk) (index : Nat) (fragment : Fragment) : Desk :=
  { desk with snapshots := desk.snapshots.modify index (·.append fragment) }

end Desk
end SandboxHost
