import SandboxHost.Proofs.Guest.Growth
import SandboxHost.Proofs.Session.Course

/-!
# Confinement to the loader's limits

Every machine that comes up in the life of an instance, from its assembly through the start function
and through each instruction of each run, has grown from the machine that its program describes.
What this says of sizes is that memory and table stay within the limits of the loader and that
memory does not shrink.
-/

namespace SandboxHost

open Guest

/-! ## The life of an instance -/

namespace Guest

/-- The calls made while an instance is made. -/
def bootCalls (env : Env) : List Call :=
  match assemble env with
  | .error _ => []
  | .ok machine =>
      if env.program.start.isNone then [] else [Call.perform env .start machine]

/-- The machines that come up while an instance is made, in order. -/
def bootMachines (env : Env) : List Machine :=
  match assemble env with
  | .error _ => []
  | .ok machine => machine :: (bootCalls env).flatMap (Call.machines env)

end Guest

namespace Session

/-- The machines that come up in the calls of a deed, in order. -/
def during (session : Session) : Deed → List Machine
  | .run source => (session.exchange source).calls.flatMap (Call.machines session.env)
  | .clear => []

/-- The machines that come up in some deeds and after each of them, in order. -/
def machines (session : Session) : List Deed → List Machine
  | [] => []
  | deed :: later =>
      session.during deed ++ (session.act deed).machine :: (session.act deed).machines later

end Session

/-- The machines and the calls of an instance, as far as it has come: while it is made, whether or
not it comes to be, and in a session on it. -/
inductive Life (limits : Limits) (program : Program) (host : Host) :
    List Machine → List Call → Prop
  | making : Life limits program host (bootMachines ⟨program, some limits, host.clock⟩)
      (bootCalls ⟨program, some limits, host.clock⟩)
  | used {session : Session} (opened : session.OpenedWith limits program host)
      (deeds : List Deed) :
      Life limits program host
        (bootMachines ⟨program, some limits, host.clock⟩ ++ session.machines deeds)
        (bootCalls ⟨program, some limits, host.clock⟩ ++ session.calls deeds)

namespace Guest

/-- The machine that a program describes, before anything is copied or executed. -/
def Program.blank (program : Program) : Machine where
  memory := program.memory.map fun type => { pages := type.minimum, maximum := type.maximum }
  globals := program.globals
  table := program.table

/-- The initial sizes of a program are within the limits. -/
structure Program.Admitted (limits : Limits) (program : Program) : Prop where
  memory : ∀ type, program.memory = some type → type.minimum * pageSize ≤ limits.maxMemoryBytes
  table : ∀ elements, program.table = some elements → elements ≤ Limits.maxTableElements

section

variable {limits : Limits} {program : Program} {clock : Int64} {machine : Machine}

theorem initialMemory_eq_ok {memory : Option Memory}
    (initial : initialMemory ⟨program, some limits, clock⟩ = .ok memory) :
    memory = program.blank.memory ∧
      ∀ type, program.memory = some type → type.minimum * pageSize ≤ limits.maxMemoryBytes := by
  unfold initialMemory Program.blank at *
  cases present : program.memory with
  | none =>
      simp only [present] at initial
      exact ⟨(Except.ok.inj initial).symm, nofun⟩
  | some type =>
      simp only [present] at initial
      split at initial
      · rename_i allowed
        rw [Option.all_some, Limits.allowsMemory_iff] at allowed
        refine ⟨(Except.ok.inj initial).symm, ?_⟩
        rintro _ ⟨⟩
        exact allowed
      · cases initial

theorem initialTable_eq_ok {table : Option Nat}
    (initial : initialTable ⟨program, some limits, clock⟩ = .ok table) :
    table = program.blank.table ∧
      ∀ elements, program.table = some elements → elements ≤ Limits.maxTableElements := by
  unfold initialTable Program.blank at *
  cases present : program.table with
  | none =>
      simp only [present] at initial
      exact ⟨(Except.ok.inj initial).symm, nofun⟩
  | some elements =>
      simp only [present] at initial
      split at initial
      · rename_i allowed
        rw [Option.all_some] at allowed
        refine ⟨(Except.ok.inj initial).symm, ?_⟩
        rintro _ ⟨⟩
        exact of_decide_eq_true allowed
      · cases initial

/-- What is assembled was admitted and has grown from the blank machine. -/
theorem grows_of_assemble (assembled : assemble ⟨program, some limits, clock⟩ = .ok machine) :
    program.blank.Grows (some limits) machine ∧ program.Admitted limits := by
  obtain ⟨memory, table, memory_ok, table_ok, grows⟩ :=
    relates_of_assemble (Machine.Grows (some limits)) .refl .trans
      (fun _ memory _ _ here fits => .of_memory here (Memory.grows_store memory fits)) assembled
  obtain ⟨rfl, memory_le⟩ := initialMemory_eq_ok memory_ok
  obtain ⟨rfl, table_le⟩ := initialTable_eq_ok table_ok
  have start : program.blank.Grows (some limits)
      { memory := program.blank.memory, globals := program.globals, table := program.blank.table,
        fuel := initialFuel ⟨program, some limits, clock⟩ } := .of_eq rfl rfl
  exact ⟨start.trans grows, memory_le, table_le⟩

/-- A machine that was booted was assembled before. -/
theorem passage_boot (assembled : assemble ⟨program, some limits, clock⟩ = .ok machine) :
    ∃ last, Passage (Machine.Grows (some limits)) program.blank
        (bootMachines ⟨program, some limits, clock⟩) last ∧
      ∀ booted, (boot ⟨program, some limits, clock⟩).1 = .ok booted → booted = last := by
  have first := (grows_of_assemble assembled).1
  cases absent : program.start.isNone with
  | true =>
      refine ⟨machine, ?_, ?_⟩
      · simp only [bootMachines, bootCalls, assembled, absent, if_true, List.flatMap_nil]
        exact Passage.cons first (Passage.nil (.refl machine)) .trans
      · intro booted done
        simp only [boot, assembled, absent, if_true] at done
        exact (Except.ok.inj done).symm
  | false =>
      refine ⟨(Call.perform ⟨program, some limits, clock⟩ .start machine).left, ?_, ?_⟩
      · simp only [bootMachines, bootCalls, assembled, absent, Bool.false_eq_true, if_false,
          List.flatMap_cons, List.flatMap_nil, List.append_nil]
        have starting := Call.passage (genuine_perform ⟨program, some limits, clock⟩ .start machine)
          Machine.Grows.refl Machine.Grows.trans
          (Instruction.grows_effect ⟨program, some limits, clock⟩) (.refl machine)
        exact Passage.cons first starting .trans
      · intro booted done
        simp only [boot, assembled, absent, Bool.false_eq_true, if_false] at done
        split at done
        · exact (Except.ok.inj done).symm
        · simp at done

theorem exists_assembled {env : Env} {booted : Machine} (done : (boot env).1 = .ok booted) :
    ∃ machine, assemble env = .ok machine := by
  unfold boot at done
  split at done
  · simp at done
  · rename_i machine assembled
    exact ⟨machine, assembled⟩

end

end Guest

namespace Session

variable {session : Session}

/-- Sizes only grow, and within the limits, in everything that happens in a run. -/
theorem lasting_grows (session : Session) :
    Lasting session.env session.host.limits.fuelPerRun
      (Machine.Grows (some session.host.limits)) where
  refl := .refl
  trans := .trans
  perform := Instruction.grows_effect session.env
  refuel := fun _ => .of_eq rfl rfl
  store := fun _ memory _ _ here fits => .of_memory here (Memory.grows_store memory fits)

theorem Ready.passage_machines (ready : session.Ready) (deeds : List Deed) :
    Passage (Machine.Grows (some session.host.limits)) session.machine (session.machines deeds)
      (session.after deeds).machine := by
  induction deeds generalizing session with
  | nil => exact Passage.nil (.refl session.machine)
  | cons deed later ih =>
      have rest := ih (ready.act deed)
      have same : (session.act deed).host.limits = session.host.limits := by cases deed <;> rfl
      rw [same] at rest
      have front : Passage (Machine.Grows (some session.host.limits)) session.machine
          (session.during deed) (session.act deed).machine := by
        cases deed with
        | run source => exact ready.passage_exchange session.lasting_grows source
        | clear => exact Passage.nil (.refl session.machine)
      exact front.append (Passage.cons (.refl _) rest .trans) .trans

/-- The machines from the assembly up to the present one have grown from the blank machine. -/
theorem OpenedWith.passage {limits : Limits} {program : Program} {host : Host}
    (opened : session.OpenedWith limits program host) (deeds : List Deed) :
    Passage (Machine.Grows (some limits)) program.blank
      (bootMachines ⟨program, some limits, host.clock⟩ ++ session.machines deeds)
      (session.after deeds).machine := by
  have booted := opened.fresh.booted
  obtain ⟨machine, assembled⟩ := exists_assembled booted
  obtain ⟨last, front, last_eq⟩ := passage_boot assembled
  have back := opened.ready.passage_machines deeds
  have limits_eq := Option.some.inj (congrArg Env.limits opened.env_eq)
  rw [limits_eq, last_eq _ booted] at back
  exact front.append back .trans

theorem mem_machines_of_mem_calls {deeds : List Deed} {call : Call}
    (member : call ∈ session.calls deeds) {machine : Machine}
    (found : machine ∈ call.machines session.env) : machine ∈ session.machines deeds := by
  induction deeds generalizing session with
  | nil => simp [calls, exchanges] at member
  | cons deed later ih =>
      have env_eq := session.env_act deed
      simp only [machines, List.mem_append, List.mem_cons]
      cases deed with
      | run source =>
          simp only [calls, exchanges, List.flatMap_cons, List.mem_append] at member
          rcases member with now | member
          · exact .inl (List.mem_flatMap.mpr ⟨call, now, found⟩)
          · rw [← env_eq] at found
            exact .inr (.inr (ih member found))
      | clear =>
          rw [← env_eq] at found
          exact .inr (.inr (ih member found))

end Session

/-! ## Caps -/

/-- A memory is within the loader's limits and within the bounds that its program declares. -/
structure Memory.Capped (limits : Limits) (type : MemoryType) (memory : Memory) : Prop where
  whole : 65536 ∣ memory.size
  size_le : memory.size ≤ limits.maxMemoryBytes
  size_le_maximum : ∀ maximum, type.maximum = some maximum → memory.size ≤ maximum * 65536
  minimum_le : type.minimum * 65536 ≤ memory.size
  /-- The memory can be addressed with 32 bits. -/
  pages_le : memory.pages ≤ 65536

/-- Memory and table of a machine are within their caps. -/
structure Guest.Machine.Capped (limits : Limits) (program : Program) (machine : Machine) :
    Prop where
  memory : ∀ memory, machine.memory = some memory →
    ∃ type, program.memory = some type ∧ memory.Capped limits type
  table : ∀ elements, machine.table = some elements → elements ≤ 10000

section

variable {limits : Limits} {program : Program} {host : Host} {artifact : Artifact}

/-- The sizes of a program that compiles fit together. -/
theorem sizes_of_compile (compiled : compile artifact = .ok program) {type : MemoryType}
    (present : program.memory = some type) :
    type.minimum ≤ 65536 ∧ ∀ maximum, type.maximum = some maximum →
      maximum ≤ 65536 ∧ type.minimum ≤ maximum := by
  have wellFormed : program.wellFormed = true := by
    unfold compile at compiled
    split at compiled
    · split at compiled
      · obtain rfl := Except.ok.inj compiled
        rfl
      · simp at compiled
    · split at compiled
      · rename_i wellFormed
        exact Except.ok.inj compiled ▸ wellFormed
      · simp at compiled
  unfold Program.wellFormed at wellFormed
  simp only [present, Bool.and_eq_true, decide_eq_true_eq] at wellFormed
  obtain ⟨⟨-, minimum_le⟩, bounded⟩ := wellFormed
  refine ⟨minimum_le, ?_⟩
  intro maximum declared
  simpa [declared] using bounded

theorem bound_le_maxPages (memory : Memory) : memory.bound ≤ 65536 := by
  unfold Memory.bound
  split
  · exact Nat.min_le_right ..
  · exact Nat.le_refl _

theorem bound_le_maximum {memory : Memory} {maximum : Nat}
    (declared : memory.maximum = some maximum) : memory.bound ≤ maximum := by
  unfold Memory.bound
  rw [declared]
  exact Nat.min_le_left ..

theorem capped_of_grows (compiled : compile artifact = .ok program)
    (admitted : program.Admitted limits) {machine : Machine}
    (grows : program.blank.Grows (some limits) machine) : machine.Capped limits program where
  memory := by
    intro memory here
    have grown := grows.memory
    cases present : program.memory with
    | none =>
        simp only [here, Program.blank, present, Option.map_none] at grown
        cases grown
    | some type =>
        simp only [here, Program.blank, present, Option.map_some] at grown
        obtain ⟨minimum_reach, declared_reach⟩ := sizes_of_compile compiled present
        have initial_le := admitted.memory type present
        cases grown with
        | some grown =>
            have maximum_eq : memory.maximum = type.maximum := grown.maximum_eq
            have minimum_le : type.minimum ≤ memory.pages := grown.pages_le
            refine ⟨type, rfl, ⟨memory.pages, Nat.mul_comm ..⟩, ?_, ?_,
              Nat.mul_le_mul_right 65536 minimum_le, ?_⟩
            -- Its size is the one that the program declares, or it was allowed when it was new.
            · rcases grown.allowed with same | new
              · rw [Memory.size, same]
                exact initial_le
              · have allowed := new.2
                rw [Option.all_some] at allowed
                exact Limits.allowsMemory_iff.mp allowed
            · intro maximum declared
              apply Nat.mul_le_mul_right
              rcases grown.allowed with same | new
              · rw [same]
                exact (declared_reach maximum declared).2
              · exact Nat.le_trans new.1 (bound_le_maximum (maximum_eq.trans declared))
            · rcases grown.allowed with same | new
              · rw [same]
                exact minimum_reach
              · exact Nat.le_trans new.1 (bound_le_maxPages memory)
  table := by
    intro elements here
    have grown := grows.table
    cases present : program.table with
    | none =>
        simp only [here, Program.blank, present] at grown
        cases grown
    | some initial =>
        have initial_le := admitted.table initial present
        simp only [here, Program.blank, present] at grown
        cases grown with
        | some grown =>
            rcases grown.2 with rfl | allowed
            · exact initial_le
            · exact of_decide_eq_true allowed

theorem memorySize_le_of_grows {before after : Machine} (grows : before.Grows (some limits) after) :
    before.memorySize ≤ after.memorySize := by
  have grown := grows.memory
  unfold Machine.memorySize
  generalize before.memory = old at grown ⊢
  generalize after.memory = new at grown ⊢
  cases grown with
  | none => exact Nat.le_refl _
  | some grown => exact Memory.size_le_of_grows grown

/-- In the life of an instance all machines have grown from the blank machine, each from those
before it. -/
theorem Life.pairwise_grows {machines : List Machine} {calls : List Call}
    (life : Life limits program host machines calls) :
    (∀ machine ∈ machines, program.blank.Grows (some limits) machine ∧ program.Admitted limits) ∧
      machines.Pairwise (Machine.Grows (some limits)) := by
  cases life with
  | making =>
      cases assembled : assemble ⟨program, some limits, host.clock⟩ with
      | error failure => simp [bootMachines, assembled]
      | ok machine =>
          obtain ⟨last, passage, -⟩ := passage_boot assembled
          obtain ⟨fromBlank, pairwise⟩ := List.pairwise_cons.mp passage.pairwise
          have admitted := (grows_of_assemble assembled).2
          exact ⟨fun machine member => ⟨fromBlank machine member, admitted⟩, pairwise⟩
  | used opened deeds =>
      obtain ⟨machine, assembled⟩ := exists_assembled opened.fresh.booted
      obtain ⟨fromBlank, pairwise⟩ := List.pairwise_cons.mp (opened.passage deeds).pairwise
      have admitted := (grows_of_assemble assembled).2
      exact ⟨fun machine member => ⟨fromBlank machine member, admitted⟩, pairwise⟩

/-- The machines of the calls are among the machines of the life. -/
theorem Life.mem_machines {machines : List Machine} {calls : List Call}
    (life : Life limits program host machines calls) {call : Call} (member : call ∈ calls)
    {machine : Machine} (found : machine ∈ call.machines ⟨program, some limits, host.clock⟩) :
    machine ∈ machines := by
  have booting : call ∈ bootCalls ⟨program, some limits, host.clock⟩ →
      machine ∈ bootMachines ⟨program, some limits, host.clock⟩ := by
    intro member
    unfold bootMachines
    split
    · rename_i failed
      simp [bootCalls, failed] at member
    · exact List.mem_cons_of_mem _ (List.mem_flatMap.mpr ⟨call, member, found⟩)
  cases life with
  | making => exact booting member
  | used opened deeds =>
      rw [List.mem_append] at member ⊢
      rcases member with early | late
      · exact .inl (booting early)
      · rw [← opened.env_eq] at found
        exact .inr (Session.mem_machines_of_mem_calls late found)

/-- A program whose initial memory or table is past its cap does not come to be an instance. -/
theorem exists_failure_of_not_admitted (refused : ¬ program.Admitted limits) :
    ∃ failure, (Instance.make limits program host).1 = .error failure := by
  cases booted : (boot ⟨program, some limits, host.clock⟩).1 with
  | error failure =>
      refine ⟨failure, ?_⟩
      simp only [Instance.make]
      rw [booted]
      rfl
  | ok machine =>
      obtain ⟨machine, assembled⟩ := exists_assembled booted
      exact absurd (grows_of_assemble assembled).2 refused

/-- **Growth is confined.**  Memory and table are within their caps in every state of every life,
whatever limits the host came with.  Memory never shrinks, and growth past a cap is refused and
changes nothing. -/
theorem growth_confined (compiled : compile artifact = .ok program) (limits : Limits)
    (host : Host) :
    (∀ machines calls, Life limits program host machines calls →
      (∀ machine ∈ machines, machine.Capped limits program) ∧
      machines.Pairwise (fun earlier later => earlier.memorySize ≤ later.memorySize) ∧
      ∀ call ∈ calls, ∀ step ∈ call.steps ⟨program, some limits, host.clock⟩,
        step.KeepsCaps limits) ∧
    (∀ type, program.memory = some type → limits.maxMemoryBytes < type.minimum * 65536 →
      ∃ failure, (Instance.make limits program host).1 = .error failure) ∧
    ∀ elements, program.table = some elements → 10000 < elements →
      ∃ failure, (Instance.make limits program host).1 = .error failure := by
  refine ⟨?_, ?_, ?_⟩
  · intro machines calls life
    obtain ⟨fromBlank, pairwise⟩ := life.pairwise_grows
    have capped : ∀ machine ∈ machines, machine.Capped limits program := by
      intro machine member
      obtain ⟨grows, admitted⟩ := fromBlank machine member
      exact capped_of_grows compiled admitted grows
    refine ⟨capped, pairwise.imp memorySize_le_of_grows, ?_⟩
    intro call member step found
    have before := capped _ (life.mem_machines member (Call.before_mem_machines found))
    rw [Behavior.eq_perform_of_mem_steps found]
    apply Step.keepsCaps_perform rfl
    · intro memory here
      obtain ⟨type, -, within⟩ := before.memory memory here
      exact within.pages_le
    · exact before.table
  · intro type present past
    apply exists_failure_of_not_admitted
    intro admitted
    exact absurd (admitted.memory type present) (Nat.not_le.mpr past)
  · intro elements present past
    apply exists_failure_of_not_admitted
    intro admitted
    exact absurd (admitted.table elements present) (Nat.not_le.mpr past)

end

/-- The allocator asks for a page of its own each time. -/
def hungryProgram : Program where
  alloc := .leave (.binary .mul (.growMemory (.word 1)) (.word 65536))

/-- A session on `hungryProgram` with room for two pages, just opened. -/
def hungrySession : Session where
  program := hungryProgram
  machine := { memory := some { pages := 1 }, globals := [], table := none }
  host := { output := .new .merged, limits := { maxMemoryBytes := 131072 } }

theorem growth_confined_hungrySession :
    (hungrySession.after [.run "a", .run "b"]).machine.memorySize = 131072 ∧
    (hungrySession.after [.run "a", .run "b"]).machine.Capped { maxMemoryBytes := 131072 }
      hungryProgram ∧
    (∀ call ∈ hungrySession.calls [.run "a", .run "b"], ∀ step ∈ call.steps hungrySession.env,
      step.KeepsCaps { maxMemoryBytes := 131072 }) ∧
    ∃ failure, (Instance.make { maxMemoryBytes := 65536 }
      { hungryProgram with memory := some { minimum := 2 } }
      { output := .new .merged }).1 = .error failure := by
  have compiled : compile (.program hungryProgram) = .ok hungryProgram := rfl
  have larger : compile (.program { hungryProgram with memory := some { minimum := 2 } }) =
      .ok { hungryProgram with memory := some { minimum := 2 } } := rfl
  have opened : hungrySession.OpenedWith { maxMemoryBytes := 131072 } hungryProgram
      { output := .new .merged } := ⟨_, _, rfl, rfl⟩
  obtain ⟨capped, -, kept⟩ := (growth_confined compiled { maxMemoryBytes := 131072 }
    { output := .new .merged }).1 _ _ (.used opened [.run "a", .run "b"])
  refine ⟨by decide +kernel, ?_, ?_, ?_⟩
  · apply capped
    apply List.mem_append_right
    apply List.mem_append_right
    apply List.mem_cons_of_mem
    apply List.mem_append_right
    exact List.mem_cons_self
  · intro call member
    rw [opened.env_eq]
    exact kept call (List.mem_append_right _ member)
  · exact (growth_confined larger { maxMemoryBytes := 65536 } { output := .new .merged }).2.1 _ rfl
      (by decide)

end SandboxHost
