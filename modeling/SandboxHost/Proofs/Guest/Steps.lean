import SandboxHost.Guest.Instance

/-!
# Guest code step by step

A call of a guest's function is a row of steps, one for each instruction that is performed, at
whatever depth of nested calls it stands.  What one instruction does to the state is settled here
once; the run lemmas carry it over to whole calls by induction on the behavior.
-/

namespace SandboxHost
namespace Guest

/-- One instruction at work. -/
structure Step where
  /-- What is performed. -/
  instruction : Instruction
  /-- The state that the instruction finds. -/
  before : State
  /-- Its answer, or why the guest stops. -/
  outcome : Except Stop UInt32
  /-- The state that the instruction leaves. -/
  after : State

/-- Perform an instruction as a step. -/
def Step.perform (env : Env) (state : State) (instruction : Instruction) : Step :=
  let (outcome, after) := instruction.perform env state
  ⟨instruction, state, outcome, after⟩

/-- The steps of a behavior, in order. -/
def Behavior.steps (env : Env) (state : State) : Behavior → List Step
  | .done _ | .stop _ => []
  | .step instruction next =>
      Step.perform env state instruction ::
        match instruction.perform env state with
        | (.ok answer, state) => (next answer).steps env state
        | (.error _, _) => []

/-- The steps of a call. -/
def Call.steps (env : Env) (call : Call) : List Step :=
  (env.program.behavior call.callee).steps env { machine := call.entered }

/-- The record of a call tells what the call does under an environment. -/
def Call.Genuine (env : Env) (call : Call) : Prop :=
  call = Call.perform env call.callee call.entered

theorem genuine_perform (env : Env) (callee : Callee) (machine : Machine) :
    (Call.perform env callee machine).Genuine env :=
  rfl

theorem Call.left_eq_run {env : Env} (call : Call) (genuine : call.Genuine env) :
    call.left =
      ((env.program.behavior call.callee).run env { machine := call.entered }).2.machine :=
  congrArg Call.left genuine

theorem Call.written_eq_run {env : Env} (call : Call) (genuine : call.Genuine env) :
    call.written =
      ((env.program.behavior call.callee).run env { machine := call.entered }).2.log.toList :=
  congrArg Call.written genuine

/-! ## From steps to runs -/

/-- A row of states on the way from one state to another.  Each is related to all that come after
it, and to the last one. -/
structure Passage {α : Type} (Related : α → α → Prop) (first : α) (row : List α) (last : α) :
    Prop where
  pairwise : (first :: row).Pairwise Related
  reaches : ∀ state ∈ first :: row, Related state last

namespace Passage

variable {α : Type} {Related : α → α → Prop} {first middle last : α} {row later : List α}

theorem nil (refl : Related first first) : Passage Related first [] first where
  pairwise := List.pairwise_singleton ..
  reaches := by
    intro state member
    obtain rfl := List.mem_singleton.mp member
    exact refl

theorem append (front : Passage Related first row middle)
    (back : Passage Related middle later last)
    (trans : ∀ {first second third}, Related first second → Related second third →
      Related first third) :
    Passage Related first (row ++ later) last := by
  obtain ⟨fromMiddle, after⟩ := List.pairwise_cons.mp back.pairwise
  constructor
  · rw [← List.cons_append, List.pairwise_append]
    refine ⟨front.pairwise, after, ?_⟩
    intro early inFront late inBack
    exact trans (front.reaches early inFront) (fromMiddle late inBack)
  · intro state member
    rw [← List.cons_append, List.mem_append] at member
    rcases member with inFront | inBack
    · exact trans (front.reaches state inFront) (back.reaches middle List.mem_cons_self)
    · exact back.reaches state (List.mem_cons_of_mem middle inBack)

theorem cons (related : Related first middle) (rest : Passage Related middle later last)
    (trans : ∀ {first second third}, Related first second → Related second third →
      Related first third) :
    Passage Related first (middle :: later) last := by
  obtain ⟨fromMiddle, _⟩ := List.pairwise_cons.mp rest.pairwise
  constructor
  · rw [List.pairwise_cons]
    refine ⟨?_, rest.pairwise⟩
    intro late member
    rcases List.mem_cons.mp member with rfl | member
    · exact related
    · exact trans related (fromMiddle late member)
  · intro state member
    rcases List.mem_cons.mp member with rfl | member
    · exact trans related (rest.reaches middle List.mem_cons_self)
    · exact rest.reaches state member

/-- States can be looked at through a function. -/
theorem map {β : Type} {Related : β → β → Prop} (look : α → β)
    (passage : Passage (fun before after => Related (look before) (look after)) first row last) :
    Passage Related (look first) (row.map look) (look last) where
  pairwise := List.pairwise_map.mpr passage.pairwise
  reaches := by
    intro seen member
    rw [← List.map_cons, List.mem_map] at member
    obtain ⟨state, member, rfl⟩ := member
    exact passage.reaches state member

end Passage

/-- What holds between the states around each instruction holds between any two states of a
behavior, the later of which may be its last. -/
theorem Behavior.passage {env : Env} (Related : State → State → Prop)
    (refl : ∀ state, Related state state)
    (trans : ∀ {first second third}, Related first second → Related second third →
      Related first third)
    (each : ∀ state (instruction : Instruction), Related state (instruction.perform env state).2)
    (behavior : Behavior) (state : State) :
    Passage Related state ((behavior.steps env state).map Step.after)
      (behavior.run env state).2 := by
  induction behavior generalizing state with
  | done value => exact Passage.nil (refl state)
  | stop cause => exact Passage.nil (refl state)
  | step instruction next ih =>
      have first := each state instruction
      rcases performed : instruction.perform env state with ⟨cause | answer, later⟩
      · simp only [performed] at first
        simp only [steps, run, Step.perform, performed, List.map_cons, List.map_nil]
        exact Passage.cons first (Passage.nil (refl later)) trans
      · simp only [performed] at first
        simp only [steps, run, Step.perform, performed, List.map_cons]
        exact Passage.cons first (ih answer later) trans

/-- In particular it holds between the states around a whole behavior. -/
theorem Behavior.relates {env : Env} (Related : State → State → Prop)
    (refl : ∀ state, Related state state)
    (trans : ∀ {first second third}, Related first second → Related second third →
      Related first third)
    (each : ∀ state (instruction : Instruction), Related state (instruction.perform env state).2)
    (behavior : Behavior) (state : State) : Related state (behavior.run env state).2 :=
  (behavior.passage Related refl trans each state).reaches state List.mem_cons_self

/-- Each step begins in the state that a behavior began in or that an earlier step left. -/
theorem Behavior.before_mem {env : Env} {behavior : Behavior} {state : State} {step : Step}
    (member : step ∈ behavior.steps env state) :
    step.before ∈ state :: (behavior.steps env state).map Step.after := by
  induction behavior generalizing state with
  | done value => simp [steps] at member
  | stop cause => simp [steps] at member
  | step instruction next ih =>
      rcases performed : instruction.perform env state with ⟨cause | answer, later⟩
      · simp only [steps, performed, List.mem_singleton] at member
        rw [member]
        exact List.mem_cons_self
      · simp only [steps, performed, Step.perform, List.mem_cons] at member
        rcases member with rfl | member
        · exact List.mem_cons_self
        · have found := ih answer member
          simp only [steps, performed, Step.perform, List.map_cons]
          exact List.mem_cons_of_mem state found

/-- Every step of a behavior is an instruction performed where the step says it was. -/
theorem Behavior.eq_perform_of_mem_steps {env : Env} {behavior : Behavior} {state : State}
    {step : Step} (member : step ∈ behavior.steps env state) :
    step = Step.perform env step.before step.instruction := by
  induction behavior generalizing state with
  | done value => simp [steps] at member
  | stop cause => simp [steps] at member
  | step instruction next ih =>
      simp only [steps, List.mem_cons] at member
      rcases member with rfl | member
      · rfl
      · split at member
        · exact ih _ member
        · simp at member

/-- What the first of a row contributes stands before what the others contribute. -/
theorem filterMap_cons_eq_append {α β : Type} (pick : α → Option β) (first : α) (later : List α) :
    (first :: later).filterMap pick = (pick first).toList ++ later.filterMap pick := by
  cases picked : pick first <;> simp [picked]

/-! ## The machine -/

/-- What an instruction makes of a machine. -/
def Instruction.effect (env : Env) (machine : Machine) (instruction : Instruction) : Machine :=
  (instruction.perform env { machine }).2.machine

/-- Whether an instruction asks the host to write. -/
def Instruction.isWrite : Instruction → Bool
  | .write .. => true
  | _ => false

/-- No instruction looks at the log. -/
theorem Instruction.machine_perform (env : Env) (state : State) (instruction : Instruction) :
    (instruction.perform env state).2.machine = instruction.effect env state.machine := by
  unfold effect
  cases instruction with
  | load address count =>
      simp only [perform]
      cases state.machine.load address count <;> rfl
  | store address octets =>
      simp only [perform]
      cases state.machine.store address octets <;> rfl
  | write stream span =>
      simp only [perform]
      cases writtenBy env state.machine stream span <;> rfl
  | _ => rfl

/-- The services that write leave the machine alone, whether they succeed or refuse. -/
theorem Instruction.effect_of_isWrite {env : Env} {machine : Machine} {instruction : Instruction}
    (writes : instruction.isWrite) : instruction.effect env machine = machine := by
  cases instruction with
  | write stream span =>
      simp only [effect, perform]
      cases writtenBy env machine stream span <;> rfl
  | _ => simp [isWrite] at writes

/-- The machine after a behavior is the machine before it with the effect of each step in turn. -/
theorem Behavior.machine_run (env : Env) (behavior : Behavior) (state : State) :
    (behavior.run env state).2.machine =
      ((behavior.steps env state).map Step.instruction).foldl (Instruction.effect env)
        state.machine := by
  induction behavior generalizing state with
  | done value => rfl
  | stop cause => rfl
  | step instruction next ih =>
      have first := instruction.machine_perform env state
      rcases performed : instruction.perform env state with ⟨cause | answer, later⟩
      · rw [performed] at first
        simp only [run, steps, performed, List.map_cons, List.foldl_cons]
        exact first
      · rw [performed] at first
        simp only [run, steps, performed, List.map_cons, List.foldl_cons]
        rw [ih, first]
        rfl

/-- Instructions without an effect can be left out. -/
theorem foldl_effect_filter (env : Env) (machine : Machine) (instructions : List Instruction) :
    instructions.foldl (Instruction.effect env) machine =
      (instructions.filter (!·.isWrite)).foldl (Instruction.effect env) machine := by
  induction instructions generalizing machine with
  | nil => rfl
  | cons instruction later ih =>
      by_cases writes : instruction.isWrite
      · simp [writes, Instruction.effect_of_isWrite writes, ih]
      · simp [writes, ih]

/-- What a call leaves is what it found with the effect of the guest's own instructions: the host's
part in it is nothing. -/
theorem Call.left_eq_foldl {env : Env} {call : Call} (genuine : call.Genuine env) :
    call.left =
      (((call.steps env).map Step.instruction).filter (!·.isWrite)).foldl
        (Instruction.effect env) call.entered := by
  rw [call.left_eq_run genuine, Behavior.machine_run, foldl_effect_filter]
  rfl

/-- The machines that come up during a call, in order. -/
def Call.machines (env : Env) (call : Call) : List Machine :=
  call.entered :: (call.steps env).map fun step => step.after.machine

/-- What holds between the machines around each instruction holds between any two machines of a
call. -/
theorem Call.passage {env : Env} {call : Call} (genuine : call.Genuine env)
    {Related : Machine → Machine → Prop} (refl : ∀ machine, Related machine machine)
    (trans : ∀ {first second third}, Related first second → Related second third →
      Related first third)
    (each : ∀ machine (instruction : Instruction),
      Related machine (instruction.effect env machine)) {first : Machine}
    (enters : Related first call.entered) :
    Passage Related first (call.machines env) call.left := by
  have states : Passage (fun before after : State => Related before.machine after.machine)
      { machine := call.entered } ((call.steps env).map Step.after)
      ((env.program.behavior call.callee).run env { machine := call.entered }).2 := by
    apply Behavior.passage fun before after : State => Related before.machine after.machine
    · exact fun state => refl state.machine
    · exact trans
    intro state instruction
    rw [instruction.machine_perform]
    exact each state.machine instruction
  have machines := states.map State.machine
  rw [List.map_map, ← call.left_eq_run genuine] at machines
  exact Passage.cons enters machines trans

/-- Each step of a call finds one of its machines. -/
theorem Call.before_mem_machines {env : Env} {call : Call} {step : Step}
    (member : step ∈ call.steps env) : step.before.machine ∈ call.machines env := by
  have found : step.before.machine ∈
      (({ machine := call.entered } : State) :: (call.steps env).map Step.after).map
        State.machine :=
    List.mem_map_of_mem (Behavior.before_mem member)
  rw [List.map_cons, List.map_map] at found
  exact found

/-! ## What guest code cannot change -/

/-- What a machine is built with: guest code changes contents and sizes, never these. -/
structure Equipment where
  /-- There is a memory. -/
  memory : Bool
  /-- There is a table. -/
  table : Bool
  /-- Work is metered. -/
  metered : Bool
  /-- The names of the globals. -/
  globals : List String

def Machine.equipment (machine : Machine) : Equipment :=
  ⟨machine.memory.isSome, machine.table.isSome, machine.fuel.isSome, machine.globals.map Prod.fst⟩

@[simp]
theorem Machine.equipment_spend (machine : Machine) (cost : Nat) :
    (machine.spend cost).equipment = machine.equipment := by
  simp [spend, equipment]

@[simp]
theorem Machine.equipment_assign (machine : Machine) (name : String) (value : Value) :
    (machine.assign name value).equipment = machine.equipment := by
  simp only [assign, equipment, List.map_map, Equipment.mk.injEq, true_and]
  apply List.map_congr_left
  rintro ⟨other, old⟩ -
  by_cases same : other = name <;> simp [same]

theorem Machine.equipment_store {machine stored : Machine} {address : UInt32}
    {octets : List UInt8} (performed : machine.store address octets = .ok stored) :
    stored.equipment = machine.equipment := by
  unfold store at performed
  split at performed
  · simp at performed
  · rename_i memory here
    split at performed
    · obtain rfl := Except.ok.inj performed
      simp [equipment, here]
    · simp at performed

@[simp]
theorem Machine.equipment_growMemory (limits : Option Limits) (machine : Machine)
    (extra : UInt32) : (machine.growMemory limits extra).2.equipment = machine.equipment := by
  unfold growMemory
  split
  · rfl
  · rename_i memory here
    split
    · rfl
    · simp [equipment, here]

@[simp]
theorem Machine.equipment_growTable (limits : Option Limits) (machine : Machine)
    (extra : UInt32) : (machine.growTable limits extra).2.equipment = machine.equipment := by
  unfold growTable
  split
  · rfl
  · rename_i elements here
    dsimp only
    split
    · simp [equipment, here]
    · rfl

theorem Instruction.equipment_perform (env : Env) (state : State) (instruction : Instruction) :
    (instruction.perform env state).2.machine.equipment = state.machine.equipment := by
  cases instruction with
  | load address count =>
      simp only [perform]
      cases state.machine.load address count <;> rfl
  | store address octets =>
      simp only [perform]
      cases performed : state.machine.store address octets with
      | error cause => rfl
      | ok machine => exact Machine.equipment_store performed
  | write stream span =>
      simp only [perform]
      cases writtenBy env state.machine stream span <;> rfl
  | _ => simp [perform]

/-- A call leaves the equipment of the machine as it was. -/
theorem Call.equipment_left {env : Env} {call : Call} (genuine : call.Genuine env) :
    call.left.equipment = call.entered.equipment := by
  rw [call.left_eq_run genuine]
  exact Behavior.relates
    (fun before after => after.machine.equipment = before.machine.equipment)
    (fun _ => rfl) (fun first second => second.trans first)
    (fun state instruction => instruction.equipment_perform env state)
    (env.program.behavior call.callee) { machine := call.entered }

theorem memory_of_memoryOf {program : Program} {machine : Machine} {memory : Memory}
    (reached : memoryOf program machine = .ok memory) : machine.memory = some memory := by
  unfold memoryOf at reached
  split at reached
  · split at reached
    · rename_i here
      rw [here, Except.ok.inj reached]
    · simp at reached
  · split at reached
    · rename_i here
      rw [here, Except.ok.inj reached]
    · simp at reached
  · simp at reached
  · simp at reached
  · simp at reached

/-- Whether the host reaches a memory depends on the equipment only. -/
theorem memoryOf_of_equipment {program : Program} {before after : Machine} {memory : Memory}
    (reached : memoryOf program before = .ok memory) (same : after.equipment = before.equipment) :
    ∃ found, memoryOf program after = .ok found ∧ after.memory = some found := by
  have present : after.memory.isSome := by
    rw [show after.memory.isSome = before.memory.isSome from congrArg Equipment.memory same,
      memory_of_memoryOf reached]
    rfl
  obtain ⟨found, here⟩ := Option.isSome_iff_exists.mp present
  refine ⟨found, ?_, here⟩
  unfold memoryOf at reached ⊢
  cases offer : program.offers .memory <;> simp_all

end Guest
end SandboxHost
