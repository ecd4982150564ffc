import SandboxHost.Proofs.Guest.Steps
import SandboxHost.Proofs.Memory

/-!
# Alike machines

The same memory can be stored in different ways.  Two machines are alike if they differ in nothing
but that.  Alike machines answer each instruction alike and stay alike, and so do whole calls on
them.
-/

namespace SandboxHost

open Guest

/-- Two results that are failures of the same cause, or values that are related. -/
inductive Matching {ε α : Type} (Related : α → α → Prop) : Except ε α → Except ε α → Prop
  | error (cause : ε) : Matching Related (.error cause) (.error cause)
  | ok {first second : α} (related : Related first second) :
      Matching Related (.ok first) (.ok second)

namespace Matching

variable {ε α β : Type} {Related : α → α → Prop} {Later : β → β → Prop}

theorem refl (refl : ∀ value, Related value value) (result : Except ε α) :
    Matching Related result result := by
  cases result with
  | error cause => exact .error cause
  | ok value => exact .ok (refl value)

theorem bind {first second : Except ε α} (matching : Matching Related first second)
    {next other : α → Except ε β}
    (each : ∀ {one two}, Related one two → Matching Later (next one) (other two)) :
    Matching Later (first >>= next) (second >>= other) := by
  cases matching with
  | error cause => exact .error cause
  | ok related => exact each related

theorem eq {first second : Except ε α} (matching : Matching Eq first second) : first = second := by
  cases matching with
  | error cause => rfl
  | ok same => rw [same]

end Matching

/-! ## Memories -/

/-- Two memories with the same view and the same room to grow. -/
structure Memory.Alike (first second : Memory) : Prop where
  pages_eq : first.pages = second.pages
  maximum_eq : first.maximum = second.maximum
  byteAt_eq : ∀ address, first.byteAt address = second.byteAt address

namespace Memory.Alike

variable {first second : Memory}

theorem refl (memory : Memory) : memory.Alike memory :=
  ⟨rfl, rfl, fun _ => rfl⟩

theorem size_eq (alike : first.Alike second) : first.size = second.size := by
  rw [size, size, alike.pages_eq]

theorem load_eq (alike : first.Alike second) (address length : Nat) :
    first.load address length = second.load address length :=
  List.map_congr_left fun other _ => alike.byteAt_eq other

theorem read_eq (alike : first.Alike second) (span : Span) :
    first.read span = second.read span := by
  rw [read, read, alike.size_eq, alike.load_eq]

theorem store (alike : first.Alike second) (address : Nat) (octets : List UInt8) :
    (first.store address octets).Alike (second.store address octets) where
  pages_eq := alike.pages_eq
  maximum_eq := alike.maximum_eq
  byteAt_eq := by
    intro other
    rw [byteAt_store, byteAt_store, alike.byteAt_eq]

theorem write (alike : first.Alike second) (ptr : UInt32) (octets : List UInt8) :
    Matching Memory.Alike (first.write ptr octets) (second.write ptr octets) := by
  simp only [Memory.write, alike.size_eq]
  split
  · exact .ok (alike.store ptr.toNat octets)
  · exact .error _

theorem grow? (alike : first.Alike second) (allows : Nat → Bool) (extra : Nat) :
    Option.Rel Memory.Alike (first.grow? allows extra) (second.grow? allows extra) := by
  have bound_eq : first.bound = second.bound := by rw [bound, bound, alike.maximum_eq]
  simp only [Memory.grow?, alike.pages_eq, bound_eq]
  split
  · exact .some ⟨rfl, alike.maximum_eq, alike.byteAt_eq⟩
  · exact .none

end Memory.Alike

/-! ## Machines -/

namespace Guest

/-- Two machines that differ in nothing but in how the same memory is stored. -/
inductive Machine.Alike (first : Machine) : Machine → Prop
  | same : first.Alike first
  | stored {old new : Memory} (here : first.memory = some old) (alike : old.Alike new) :
      first.Alike { first with memory := some new }

namespace Machine.Alike

variable {first second : Machine}

theorem globals_eq (alike : first.Alike second) : first.globals = second.globals := by
  cases alike <;> rfl

theorem table_eq (alike : first.Alike second) : first.table = second.table := by
  cases alike <;> rfl

theorem fuel_eq (alike : first.Alike second) : first.fuel = second.fuel := by
  cases alike <;> rfl

theorem spend (alike : first.Alike second) (cost : Nat) :
    (first.spend cost).Alike (second.spend cost) := by
  cases alike with
  | same => exact .same
  | stored here alike => exact .stored here alike

theorem assign (alike : first.Alike second) (name : String) (value : Value) :
    (first.assign name value).Alike (second.assign name value) := by
  cases alike with
  | same => exact .same
  | stored here alike => exact .stored here alike

theorem word_eq (alike : first.Alike second) (name : String) :
    first.word name = second.word name := by
  rw [word, word, alike.globals_eq]

theorem load_eq (alike : first.Alike second) (address : UInt32) (count : Nat) :
    first.load address count = second.load address count := by
  cases alike with
  | same => rfl
  | stored here alike => simp only [load, here, alike.size_eq, alike.load_eq]

theorem pages_eq (alike : first.Alike second) : first.pages = second.pages := by
  cases alike with
  | same => rfl
  | stored here alike => simp only [pages, here, alike.pages_eq]

theorem store (alike : first.Alike second) (address : UInt32) (octets : List UInt8) :
    Matching Machine.Alike (first.store address octets) (second.store address octets) := by
  cases alike with
  | same => exact .refl (fun _ => .same) _
  | @stored old new here alike =>
      simp only [Machine.store, here, alike.size_eq]
      split
      · exact .ok (.stored rfl (alike.store address.toNat octets))
      · exact .error _

theorem growMemory (alike : first.Alike second) (limits : Option Limits) (extra : UInt32) :
    (first.growMemory limits extra).1 = (second.growMemory limits extra).1 ∧
      (first.growMemory limits extra).2.Alike (second.growMemory limits extra).2 := by
  cases alike with
  | same => exact ⟨rfl, .same⟩
  | @stored old new here alike =>
      have grown := alike.grow? (fun bytes => limits.all (·.allowsMemory bytes)) extra.toNat
      simp only [Machine.growMemory, here]
      generalize old.grow? _ extra.toNat = result at grown ⊢
      generalize new.grow? _ extra.toNat = other at grown ⊢
      cases grown with
      | none => exact ⟨rfl, .stored here alike⟩
      | some grown => exact ⟨congrArg Nat.toUInt32 alike.pages_eq, .stored rfl grown⟩

theorem growTable (alike : first.Alike second) (limits : Option Limits) (extra : UInt32) :
    (first.growTable limits extra).1 = (second.growTable limits extra).1 ∧
      (first.growTable limits extra).2.Alike (second.growTable limits extra).2 := by
  cases alike with
  | same => exact ⟨rfl, .same⟩
  | @stored old new here alike =>
      obtain ⟨memory, globals, table, fuel⟩ := first
      cases table with
      | none => exact ⟨rfl, .stored here alike⟩
      | some elements =>
          simp only [Machine.growTable]
          split
          · exact ⟨rfl, .stored here alike⟩
          · exact ⟨rfl, .stored here alike⟩

theorem memoryOf (alike : first.Alike second) (program : Program) :
    Matching Memory.Alike (memoryOf program first) (memoryOf program second) := by
  cases alike with
  | same => exact .refl .refl _
  | @stored old new here alike =>
      unfold Guest.memoryOf
      split
      · simp only [here]
        exact .ok alike
      · simp only [here]
        exact .ok alike
      all_goals exact .error _

theorem writtenBy_eq (alike : first.Alike second) (env : Env) (stream : Stream) (span : Span) :
    writtenBy env first stream span = writtenBy env second stream span := by
  apply Matching.eq
  apply (alike.memoryOf env.program).bind
  intro old new memories
  rw [memories.read_eq]
  exact .refl (fun _ => rfl) _

end Machine.Alike

/-! ## Runs -/

structure State.Alike (first second : State) : Prop where
  machine : first.machine.Alike second.machine
  log_eq : first.log = second.log

/-- Alike states give the same answer to an instruction and are alike afterwards. -/
theorem Instruction.perform_alike (env : Env) {first second : State} (alike : first.Alike second)
    (instruction : Instruction) :
    (instruction.perform env first).1 = (instruction.perform env second).1 ∧
      (instruction.perform env first).2.Alike (instruction.perform env second).2 := by
  obtain ⟨alike, log_eq⟩ := alike
  cases instruction with
  | spend cost => exact ⟨rfl, alike.spend cost, log_eq⟩
  | meter cost =>
      have spent := alike.spend cost
      refine ⟨?_, spent, log_eq⟩
      simp only [perform, spent.fuel_eq]
  | global name => exact ⟨congrArg Except.ok (alike.word_eq name), alike, log_eq⟩
  | pages => exact ⟨congrArg Except.ok alike.pages_eq, alike, log_eq⟩
  | tableSize =>
      refine ⟨?_, alike, log_eq⟩
      simp only [perform, alike.table_eq]
  | load address count =>
      simp only [perform, alike.load_eq]
      split
      · exact ⟨rfl, alike, log_eq⟩
      · exact ⟨rfl, alike, log_eq⟩
  | growMemory extra =>
      obtain ⟨answer_eq, grown⟩ := alike.growMemory env.limits extra
      exact ⟨congrArg Except.ok answer_eq, grown, log_eq⟩
  | growTable extra =>
      obtain ⟨answer_eq, grown⟩ := alike.growTable env.limits extra
      exact ⟨congrArg Except.ok answer_eq, grown, log_eq⟩
  | assign name value => exact ⟨rfl, alike.assign name (.word value), log_eq⟩
  | store address octets =>
      have stored := alike.store address octets
      simp only [perform]
      generalize first.machine.store address octets = result at stored ⊢
      generalize second.machine.store address octets = other at stored ⊢
      cases stored with
      | error cause => exact ⟨rfl, alike, log_eq⟩
      | ok stored => exact ⟨rfl, stored, log_eq⟩
  | write stream span =>
      simp only [perform, alike.writtenBy_eq, log_eq]
      split
      · exact ⟨rfl, alike, rfl⟩
      · exact ⟨rfl, alike, log_eq⟩
  | readClock name => exact ⟨rfl, alike.assign name (.double env.clock), log_eq⟩

theorem Behavior.run_alike (env : Env) {first second : State} (alike : first.Alike second)
    (behavior : Behavior) :
    (behavior.run env first).1 = (behavior.run env second).1 ∧
      (behavior.run env first).2.Alike (behavior.run env second).2 := by
  induction behavior generalizing first second with
  | done value => exact ⟨rfl, alike⟩
  | stop cause => exact ⟨rfl, alike⟩
  | step instruction next ih =>
      obtain ⟨answer_eq, later⟩ := instruction.perform_alike env alike
      simp only [run]
      rcases performed : instruction.perform env first with ⟨cause | answer, left⟩
      all_goals
        rcases mirrored : instruction.perform env second with ⟨result, other⟩
        rw [performed, mirrored] at answer_eq later
        obtain rfl : _ = result := answer_eq
      · exact ⟨rfl, later⟩
      · exact ih answer later

/-- Two calls of which nobody in the guest can tell which is which. -/
structure Call.Alike (first second : Call) : Prop where
  callee_eq : first.callee = second.callee
  entered : first.entered.Alike second.entered
  outcome_eq : first.outcome = second.outcome
  left : first.left.Alike second.left
  written_eq : first.written = second.written

theorem Call.perform_alike (env : Env) (callee : Callee) {first second : Machine}
    (alike : first.Alike second) :
    (Call.perform env callee first).Alike (Call.perform env callee second) := by
  have start : State.Alike { machine := first } { machine := second } := ⟨alike, rfl⟩
  obtain ⟨outcome_eq, later⟩ := (env.program.behavior callee).run_alike env start
  exact ⟨rfl, alike, outcome_eq, later.machine, congrArg Array.toList later.log_eq⟩

end Guest
end SandboxHost
