import SandboxHost.Proofs.Guest.Likeness
import SandboxHost.Proofs.Guest.Stops

/-!
# Metered and unmetered work

No instruction tells a guest how much fuel it has.  As long as no metered work leaves nothing, a call
does the same on a machine with more fuel, or with work that is not metered at all, and only the
fuel that is left differs.  The budget that the limits give is no part of what a guest is run with.
-/

namespace SandboxHost
namespace Guest

/-! ## Budgets -/

/-- One budget is at least another.  No budget at all is more than any. -/
def Covers (larger budget : Option Nat) : Prop :=
  ∀ units, larger = some units → ∃ fewer ≤ units, budget = some fewer

theorem Covers.sub {larger budget : Option Nat} (covers : Covers larger budget) (cost : Nat) :
    Covers (larger.map (· - cost)) (budget.map (· - cost)) := by
  intro units left
  obtain ⟨before, rfl, rfl⟩ := Option.map_eq_some_iff.mp left
  obtain ⟨fewer, fewer_le, rfl⟩ := covers before rfl
  exact ⟨fewer - cost, Nat.sub_le_sub_right fewer_le cost, rfl⟩

/-- Where something is left of a budget, something is left of a larger one. -/
theorem Covers.ne_zero {larger budget : Option Nat} (covers : Covers larger budget)
    (left : budget ≠ some 0) : larger ≠ some 0 := by
  rintro rfl
  obtain ⟨fewer, fewer_le, rfl⟩ := covers 0 rfl
  exact left (congrArg some (Nat.le_zero.mp fewer_le))

/-- The same surroundings with another budget for each run. -/
def Env.budgeted (env : Env) (budget : Option Nat) : Env :=
  { env with limits := env.limits.map fun limits => { limits with fuelPerRun := budget } }

/-- The budget of a run has no part in what an instruction does. -/
theorem Instruction.perform_budgeted (env : Env) (budget : Option Nat) (state : State)
    (instruction : Instruction) :
    instruction.perform (env.budgeted budget) state = instruction.perform env state := by
  cases instruction with
  | growMemory extra =>
      simp only [perform, Machine.growMemory, Env.budgeted, Option.all_map]
      rfl
  | growTable extra =>
      simp only [perform, Machine.growTable, Env.budgeted, Option.all_map]
      rfl
  | _ => rfl

theorem Behavior.run_budgeted (env : Env) (budget : Option Nat) (behavior : Behavior)
    (state : State) : behavior.run (env.budgeted budget) state = behavior.run env state := by
  induction behavior generalizing state with
  | done value => rfl
  | stop cause => rfl
  | step instruction next ih =>
      simp only [run, Instruction.perform_budgeted]
      rcases instruction.perform env state with ⟨cause | answer, later⟩
      · rfl
      · exact ih answer later

theorem Call.perform_budgeted (env : Env) (budget : Option Nat) (callee : Callee)
    (machine : Machine) :
    Call.perform (env.budgeted budget) callee machine = Call.perform env callee machine := by
  simp only [Call.perform, Behavior.run_budgeted]
  rfl

/-! ## Machines -/

/-- The second machine is the first, but with at least as much fuel. -/
inductive Machine.Backed (first : Machine) : Machine → Prop
  | fueled {fuel : Option Nat} (covers : Covers fuel first.fuel) :
      first.Backed { first with fuel }

namespace Machine.Backed

variable {first second : Machine}

theorem memory_eq (backed : first.Backed second) : first.memory = second.memory := by
  cases backed
  rfl

/-- The same change of contents on both machines. -/
theorem withMemory (backed : first.Backed second) (memory : Option Memory) :
    ({ first with memory } : Machine).Backed { second with memory } := by
  obtain ⟨covers⟩ := backed
  exact .fueled covers

theorem store (backed : first.Backed second) (address : UInt32) (octets : List UInt8) :
    Matching Machine.Backed (first.store address octets) (second.store address octets) := by
  obtain ⟨covers⟩ := backed
  simp only [Machine.store]
  split
  · exact .error _
  · split
    · exact .ok (.fueled covers)
    · exact .error _

theorem growMemory (backed : first.Backed second) (limits : Option Limits) (extra : UInt32) :
    (first.growMemory limits extra).1 = (second.growMemory limits extra).1 ∧
      (first.growMemory limits extra).2.Backed (second.growMemory limits extra).2 := by
  obtain ⟨covers⟩ := backed
  simp only [Machine.growMemory]
  split
  · exact ⟨rfl, .fueled covers⟩
  · split
    · exact ⟨rfl, .fueled covers⟩
    · exact ⟨rfl, .fueled covers⟩

theorem growTable (backed : first.Backed second) (limits : Option Limits) (extra : UInt32) :
    (first.growTable limits extra).1 = (second.growTable limits extra).1 ∧
      (first.growTable limits extra).2.Backed (second.growTable limits extra).2 := by
  obtain ⟨covers⟩ := backed
  simp only [Machine.growTable]
  split
  · exact ⟨rfl, .fueled covers⟩
  · split
    · exact ⟨rfl, .fueled covers⟩
    · exact ⟨rfl, .fueled covers⟩

end Machine.Backed

/-! ## Calls -/

/-- States whose machines differ in nothing but fuel, of which the second has at least as much. -/
structure State.Backed (first second : State) : Prop where
  machine : first.machine.Backed second.machine
  log_eq : first.log = second.log

/-- An instruction that does not use up all fuel does the same with more. -/
theorem Instruction.perform_backed (env : Env) {first second : State}
    (backed : first.Backed second) (instruction : Instruction)
    (ample : ¬ (Step.perform env first instruction).Exhausts) :
    (instruction.perform env first).1 = (instruction.perform env second).1 ∧
      (instruction.perform env first).2.Backed (instruction.perform env second).2 := by
  obtain ⟨first, log⟩ := first
  obtain ⟨second, _⟩ := second
  obtain ⟨backed, rfl⟩ := backed
  cases instruction with
  | spend cost =>
      obtain ⟨covers⟩ := backed
      exact ⟨rfl, .fueled (covers.sub cost), rfl⟩
  | meter cost =>
      obtain ⟨covers⟩ := backed
      have left : (first.spend cost).fuel ≠ some 0 := fun nothing => ample ⟨⟨cost, rfl⟩, nothing⟩
      have more := (covers.sub cost).ne_zero left
      refine ⟨?_, .fueled (covers.sub cost), rfl⟩
      simp only [perform, if_neg left]
      exact (if_neg more).symm
  | store address octets =>
      have stored := backed.store address octets
      simp only [perform]
      generalize first.store address octets = result at stored ⊢
      generalize second.store address octets = other at stored ⊢
      cases stored with
      | error cause => exact ⟨rfl, backed, rfl⟩
      | ok stored => exact ⟨rfl, stored, rfl⟩
  | growMemory extra =>
      obtain ⟨answer_eq, grown⟩ := backed.growMemory env.limits extra
      exact ⟨congrArg Except.ok answer_eq, grown, rfl⟩
  | growTable extra =>
      obtain ⟨answer_eq, grown⟩ := backed.growTable env.limits extra
      exact ⟨congrArg Except.ok answer_eq, grown, rfl⟩
  | load address count =>
      obtain ⟨covers⟩ := backed
      simp only [perform, Machine.load]
      split
      · exact ⟨rfl, .fueled covers, rfl⟩
      · exact ⟨rfl, .fueled covers, rfl⟩
  | write stream span =>
      obtain ⟨covers⟩ := backed
      have same (fuel : Option Nat) :
          writtenBy env { first with fuel } stream span = writtenBy env first stream span := rfl
      simp only [perform, same]
      split
      · exact ⟨rfl, .fueled covers, rfl⟩
      · exact ⟨rfl, .fueled covers, rfl⟩
  | _ =>
      obtain ⟨covers⟩ := backed
      exact ⟨rfl, .fueled covers, rfl⟩

/-- A behavior that never uses up all fuel does the same with more. -/
theorem Behavior.run_backed (env : Env) {first second : State} (backed : first.Backed second)
    (behavior : Behavior) (ample : ∀ step ∈ behavior.steps env first, ¬ step.Exhausts) :
    (behavior.run env first).1 = (behavior.run env second).1 ∧
      (behavior.run env first).2.Backed (behavior.run env second).2 := by
  induction behavior generalizing first second with
  | done value => exact ⟨rfl, backed⟩
  | stop cause => exact ⟨rfl, backed⟩
  | step instruction next ih =>
      rw [steps, List.forall_mem_cons] at ample
      obtain ⟨now, rest⟩ := ample
      obtain ⟨answer_eq, later⟩ := instruction.perform_backed env backed now
      simp only [run]
      rcases performed : instruction.perform env first with ⟨cause | answer, left⟩
      all_goals
        rcases mirrored : instruction.perform env second with ⟨result, other⟩
        rw [performed, mirrored] at answer_eq later
        obtain rfl : _ = result := answer_eq
      · exact ⟨rfl, later⟩
      · rw [performed] at rest
        exact ih answer later rest

/-- Metered work leaves nothing of the budget at some step of a call, at whatever depth of nested
calls. -/
def Call.Exhausts (env : Env) (call : Call) : Prop :=
  ∃ step ∈ call.steps env, step.Exhausts

/-- Two calls that differ in nothing but fuel, of which the second has at least as much. -/
structure Call.Backed (first second : Call) : Prop where
  callee_eq : first.callee = second.callee
  entered : first.entered.Backed second.entered
  outcome_eq : first.outcome = second.outcome
  left : first.left.Backed second.left
  written_eq : first.written = second.written

theorem Call.perform_backed (env : Env) (callee : Callee) {first second : Machine}
    (backed : first.Backed second) (ample : ¬ (Call.perform env callee first).Exhausts env) :
    (Call.perform env callee first).Backed (Call.perform env callee second) := by
  have start : State.Backed { machine := first } { machine := second } := ⟨backed, rfl⟩
  have each : ∀ step ∈ (env.program.behavior callee).steps env { machine := first },
      ¬ step.Exhausts := fun step member exhausts => ample ⟨step, member, exhausts⟩
  obtain ⟨outcome_eq, later⟩ := (env.program.behavior callee).run_backed env start each
  exact ⟨rfl, backed, outcome_eq, later.machine, congrArg Array.toList later.log_eq⟩

/-- A call that does not end for want of fuel never used it up. -/
theorem Call.not_exhausts {env : Env} {call : Call} (genuine : call.Genuine env)
    (ended : call.outcome ≠ .error (.trap .fuel)) : ¬ call.Exhausts env := by
  rintro ⟨step, member, exhausts⟩
  exact ended (Call.outcome_of_exhausts genuine member exhausts)

/-! ## New machines -/

theorem copySegment_fueled (machine : Machine) (segment : Segment) (fuel : Option Nat) :
    copySegment { machine with fuel } segment =
      (copySegment machine segment).map ({ · with fuel }) := by
  unfold copySegment
  dsimp only
  split
  · rfl
  · split <;> rfl

theorem copySegments_fueled (machine : Machine) (segments : List Segment) (fuel : Option Nat) :
    segments.foldlM copySegment { machine with fuel } =
      (segments.foldlM copySegment machine).map ({ · with fuel }) := by
  induction segments generalizing machine with
  | nil => rfl
  | cons segment segments ih =>
      rw [List.foldlM_cons, List.foldlM_cons, copySegment_fueled]
      cases copySegment machine segment with
      | error failure => rfl
      | ok middle => exact ih middle

/-- A new machine differs in nothing but fuel from one that is made for another budget. -/
theorem assemble_budgeted (env : Env) (budget : Option Nat) :
    assemble (env.budgeted budget) =
      (assemble env).map ({ · with fuel := initialFuel (env.budgeted budget) }) := by
  have memory_eq : initialMemory (env.budgeted budget) = initialMemory env := by
    simp only [initialMemory, Env.budgeted, Option.all_map]
    rfl
  have table_eq : initialTable (env.budgeted budget) = initialTable env := by
    simp only [initialTable, Env.budgeted, Option.all_map]
    rfl
  have program_eq : (env.budgeted budget).program = env.program := rfl
  simp only [assemble, memory_eq, table_eq, program_eq, bind, Except.bind]
  cases link env.program.imports with
  | error failure => rfl
  | ok _ =>
      cases initialMemory env with
      | error failure => rfl
      | ok memory =>
          cases initialTable env with
          | error failure => rfl
          | ok table =>
              exact copySegments_fueled
                { memory, globals := env.program.globals, table, fuel := initialFuel env }
                env.program.data (initialFuel (env.budgeted budget))

end Guest
end SandboxHost
