import SandboxHost.Proofs.Guest.Steps
import SandboxHost.Proofs.Memory

/-!
# Growth of memory and table

Guest code and the host's copies leave a memory with the bound it was made with.  Its pages become
more within that bound and the limits, never fewer, and what lies beyond them was never written.
The table grows within the limits.  Growth that is refused changes nothing.
-/

namespace SandboxHost

open Guest

theorem Limits.allowsMemory_iff {limits : Limits} {bytes : Nat} :
    limits.allowsMemory bytes = true ↔ bytes ≤ limits.maxMemoryBytes :=
  decide_eq_true_iff

namespace Memory

/-- Nothing was stored beyond the size. -/
def Clean (memory : Memory) : Prop :=
  ∀ address, memory.size ≤ address → memory.byteAt address = 0

/-- What a memory can become if `allows` decides on its sizes. -/
structure Grows (allows : Nat → Bool) (before after : Memory) : Prop where
  maximum_eq : after.maximum = before.maximum
  pages_le : before.pages ≤ after.pages
  /-- A size that is new was allowed. -/
  allowed : after.pages = before.pages ∨ after.pages ≤ after.bound ∧ allows after.size = true
  clean : before.Clean → after.Clean

variable {allows : Nat → Bool}

theorem Grows.refl (memory : Memory) : memory.Grows allows memory where
  maximum_eq := rfl
  pages_le := Nat.le_refl _
  allowed := .inl rfl
  clean := id

theorem Grows.trans {before middle after : Memory} (first : before.Grows allows middle)
    (second : middle.Grows allows after) : before.Grows allows after where
  maximum_eq := second.maximum_eq.trans first.maximum_eq
  pages_le := Nat.le_trans first.pages_le second.pages_le
  allowed := by
    -- Either the last size is new, or it is the one in the middle, under the same bound.
    rcases second.allowed with same | new
    · rcases first.allowed with still | earlier
      · exact .inl (same.trans still)
      · have bound_eq : after.bound = middle.bound := by rw [bound, bound, second.maximum_eq]
        have size_eq : after.size = middle.size := by rw [size, size, same]
        rw [bound_eq, size_eq, same]
        exact .inr earlier
    · exact .inr new
  clean := fun before => second.clean (first.clean before)

theorem grows_store (memory : Memory) {address : Nat} {octets : List UInt8}
    (fits : address + octets.length ≤ memory.size) :
    memory.Grows allows (memory.store address octets) where
  maximum_eq := rfl
  pages_le := Nat.le_refl _
  allowed := .inl rfl
  clean := by
    intro clean other beyond
    rw [size_store] at beyond
    rw [byteAt_store_outside memory (by omega)]
    exact clean other beyond

theorem grows_of_grow? {memory grown : Memory} {extra : Nat}
    (performed : memory.grow? allows extra = some grown) : memory.Grows allows grown := by
  simp only [grow?] at performed
  split at performed
  · rename_i admitted
    obtain rfl := Option.some.inj performed
    have grows : memory.size ≤ (memory.pages + extra) * pageSize :=
      Nat.mul_le_mul_right pageSize (Nat.le_add_right _ extra)
    refine ⟨rfl, Nat.le_add_right .., .inr admitted, ?_⟩
    intro clean address beyond
    exact clean address (Nat.le_trans grows beyond)
  · simp at performed

theorem grow?_of_forbidden {memory : Memory} {extra : Nat}
    (forbidden : allows ((memory.pages + extra) * pageSize) = false) :
    memory.grow? allows extra = none := by
  simp [grow?, forbidden]

theorem size_le_of_grows {before after : Memory} (grows : before.Grows allows after) :
    before.size ≤ after.size :=
  Nat.mul_le_mul_right pageSize grows.pages_le

end Memory

namespace Guest

/-- What a machine can become under limits on growth, as far as sizes are concerned. -/
structure Machine.Grows (limits : Option Limits) (before after : Machine) : Prop where
  memory : Option.Rel (Memory.Grows fun bytes => limits.all (·.allowsMemory bytes))
    before.memory after.memory
  table : Option.Rel
    (fun old new : Nat => old ≤ new ∧ (new = old ∨ limits.all (·.allowsTable new) = true))
    before.table after.table

theorem optionRel_refl {α : Type} {Related : α → α → Prop} (refl : ∀ value, Related value value)
    (value : Option α) : Option.Rel Related value value := by
  cases value with
  | none => exact .none
  | some value => exact .some (refl value)

theorem optionRel_trans {α : Type} {Related : α → α → Prop} {first second third : Option α}
    (early : Option.Rel Related first second) (late : Option.Rel Related second third)
    (trans : ∀ {first second third}, Related first second → Related second third →
      Related first third) : Option.Rel Related first third := by
  cases early with
  | none => exact late
  | some early =>
      cases late with
      | some late => exact .some (trans early late)

namespace Machine.Grows

variable {limits : Option Limits}

theorem refl (machine : Machine) : machine.Grows limits machine where
  memory := optionRel_refl Memory.Grows.refl machine.memory
  table := optionRel_refl (fun _ => ⟨Nat.le_refl _, .inl rfl⟩) machine.table

theorem trans {before middle after : Machine} (first : before.Grows limits middle)
    (second : middle.Grows limits after) : before.Grows limits after where
  memory := optionRel_trans first.memory second.memory Memory.Grows.trans
  table := by
    apply optionRel_trans first.table second.table
    rintro old present new ⟨early_le, early⟩ ⟨late_le, late⟩
    refine ⟨Nat.le_trans early_le late_le, ?_⟩
    rcases late with rfl | allowed
    · exact early
    · exact .inr allowed

/-- Machines of the same memory and table have the same sizes. -/
theorem of_eq {before after : Machine} (memory_eq : after.memory = before.memory)
    (table_eq : after.table = before.table) : before.Grows limits after where
  memory := by
    rw [memory_eq]
    exact optionRel_refl Memory.Grows.refl before.memory
  table := by
    rw [table_eq]
    exact optionRel_refl (fun _ => ⟨Nat.le_refl _, .inl rfl⟩) before.table

theorem of_memory {before : Machine} {old new : Memory} (here : before.memory = some old)
    (grows : old.Grows (fun bytes => limits.all (·.allowsMemory bytes)) new) :
    before.Grows limits { before with memory := some new } where
  memory := by
    rw [here]
    exact .some grows
  table := optionRel_refl (fun _ => ⟨Nat.le_refl _, .inl rfl⟩) before.table

end Machine.Grows

theorem Machine.grows_growMemory (limits : Option Limits) (machine : Machine) (extra : UInt32) :
    machine.Grows limits (machine.growMemory limits extra).2 := by
  unfold growMemory
  split
  · exact .refl machine
  · rename_i memory here
    split
    · exact .refl machine
    · rename_i grown performed
      exact .of_memory here (Memory.grows_of_grow? performed)

theorem Machine.grows_growTable (limits : Option Limits) (machine : Machine) (extra : UInt32) :
    machine.Grows limits (machine.growTable limits extra).2 := by
  unfold growTable
  split
  · exact .refl machine
  · rename_i elements here
    dsimp only
    split
    · rename_i admitted
      constructor
      · exact optionRel_refl Memory.Grows.refl machine.memory
      · rw [here]
        exact .some ⟨Nat.le_add_right .., .inr admitted.2⟩
    · exact .refl machine

theorem Machine.grows_of_store {limits : Option Limits} {machine stored : Machine}
    {address : UInt32} {octets : List UInt8}
    (performed : machine.store address octets = .ok stored) : machine.Grows limits stored := by
  unfold store at performed
  split at performed
  · simp at performed
  · rename_i memory here
    split at performed
    · rename_i fits
      obtain rfl := Except.ok.inj performed
      exact .of_memory here (Memory.grows_store memory fits)
    · simp at performed

/-- An instruction changes sizes only within the limits. -/
theorem Instruction.grows_effect (env : Env) (machine : Machine) (instruction : Instruction) :
    machine.Grows env.limits (instruction.effect env machine) := by
  cases instruction with
  | load address count =>
      simp only [effect, perform]
      cases machine.load address count <;> exact .refl machine
  | store address octets =>
      simp only [effect, perform]
      cases performed : machine.store address octets with
      | error cause => exact .refl machine
      | ok stored => exact Machine.grows_of_store performed
  | growMemory extra => exact machine.grows_growMemory env.limits extra
  | growTable extra => exact machine.grows_growTable env.limits extra
  | write stream span =>
      rw [Instruction.effect_of_isWrite rfl]
      exact .refl machine
  | _ => exact .of_eq rfl rfl

/-! ## Refused growth -/

/-- A growth past a cap is refused, and one that is refused changes nothing. -/
structure Step.KeepsCaps (limits : Limits) (step : Step) : Prop where
  memory : ∀ extra, step.instruction = .growMemory extra →
    limits.maxMemoryBytes < step.before.machine.memorySize + extra.toNat * 65536 →
      step.outcome = .ok (-1)
  table : ∀ extra elements, step.instruction = .growTable extra →
    step.before.machine.table = some elements → 10000 < elements + extra.toNat →
      step.outcome = .ok (-1)
  unchanged : ∀ extra, step.instruction = .growMemory extra ∨ step.instruction = .growTable extra →
    step.outcome = .ok (-1) → step.after = step.before

variable {limits : Limits} {machine : Machine} {extra : UInt32}

theorem Machine.growMemory_refused
    (past : limits.maxMemoryBytes < machine.memorySize + extra.toNat * pageSize) :
    (machine.growMemory (some limits) extra).1 = -1 := by
  unfold growMemory
  split
  · rfl
  · rename_i memory here
    have size_eq : machine.memorySize = memory.pages * pageSize := by
      rw [memorySize, here]
      rfl
    rw [size_eq, ← Nat.add_mul] at past
    rw [Memory.grow?_of_forbidden]
    rw [Option.all_some, Bool.eq_false_iff, ne_eq, Limits.allowsMemory_iff]
    exact Nat.not_le.mpr past

theorem Machine.growTable_refused {elements : Nat} (here : machine.table = some elements)
    (past : 10000 < elements + extra.toNat) :
    (machine.growTable (some limits) extra).1 = -1 := by
  have refused : ¬ elements + extra.toNat ≤ Limits.maxTableElements := Nat.not_le.mpr past
  simp [growTable, here, Limits.allowsTable, refused]

/-- A number of pages or elements is not mistaken for a refusal. -/
theorem toUInt32_ne_neg_one {count : Nat} (small : count ≤ 65536) : count.toUInt32 ≠ -1 := by
  intro same
  have values := congrArg UInt32.toNat same
  have value : count.toUInt32.toNat = count := by
    simp only [Nat.toUInt32_eq, UInt32.toNat_ofNat']
    omega
  have refusal : (-1 : UInt32).toNat = 4294967295 := rfl
  omega

theorem Machine.growMemory_unchanged
    (reach : ∀ memory, machine.memory = some memory → memory.pages ≤ 65536)
    (refused : (machine.growMemory (some limits) extra).1 = -1) :
    (machine.growMemory (some limits) extra).2 = machine := by
  unfold growMemory at refused ⊢
  split at refused
  · rfl
  · rename_i memory here
    split at refused
    · rfl
    · exact absurd refused (toUInt32_ne_neg_one (reach memory here))

theorem Machine.growTable_unchanged
    (reach : ∀ elements, machine.table = some elements → elements ≤ 10000)
    (refused : (machine.growTable (some limits) extra).1 = -1) :
    (machine.growTable (some limits) extra).2 = machine := by
  unfold growTable at refused ⊢
  split at refused
  · rfl
  · rename_i elements here
    have small : elements ≤ 65536 := Nat.le_trans (reach elements here) (by decide)
    dsimp only at refused ⊢
    split at refused
    · exact absurd refused (toUInt32_ne_neg_one small)
    · rename_i refusal
      rw [if_neg refusal]

/-- Growth keeps the caps on any machine that is within them. -/
theorem Step.keepsCaps_perform {env : Env} (limits_eq : env.limits = some limits)
    (state : State) (instruction : Instruction)
    (pages_le : ∀ memory, state.machine.memory = some memory → memory.pages ≤ 65536)
    (elements_le : ∀ elements, state.machine.table = some elements → elements ≤ 10000) :
    (Step.perform env state instruction).KeepsCaps limits where
  memory := by
    rintro extra asks past
    obtain rfl : instruction = .growMemory extra := asks
    simp only [perform, Instruction.perform, limits_eq]
    exact congrArg Except.ok (Machine.growMemory_refused past)
  table := by
    rintro extra elements asks here past
    obtain rfl : instruction = .growTable extra := asks
    simp only [perform, Instruction.perform, limits_eq]
    exact congrArg Except.ok (Machine.growTable_refused here past)
  unchanged := by
    rintro extra (asks | asks) refused
    · obtain rfl : instruction = .growMemory extra := asks
      simp only [perform, Instruction.perform, limits_eq, Except.ok.injEq] at refused ⊢
      rw [Machine.growMemory_unchanged pages_le refused]
    · obtain rfl : instruction = .growTable extra := asks
      simp only [perform, Instruction.perform, limits_eq, Except.ok.injEq] at refused ⊢
      rw [Machine.growTable_unchanged elements_le refused]

end Guest
end SandboxHost
