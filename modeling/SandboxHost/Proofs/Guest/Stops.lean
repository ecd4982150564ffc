import SandboxHost.Proofs.Guest.Writes

/-!
# How calls stop early

A step that fails is the last step of its call, and the call fails as it does.  While the host
reaches the guest's memory, a service refuses exactly the spans that lie outside the memory as it is
at that step, and metered work traps exactly where nothing is left.
-/

namespace SandboxHost
namespace Guest

/-- A behavior ends with the failure of any step that fails. -/
theorem Behavior.outcome_of_mem_steps {env : Env} {behavior : Behavior} {state : State}
    {step : Step} {stop : Stop} (member : step ∈ behavior.steps env state)
    (failed : step.outcome = .error stop) : (behavior.run env state).1 = .error stop := by
  induction behavior generalizing state with
  | done value => simp [steps] at member
  | stop cause => simp [steps] at member
  | step instruction next ih =>
      rcases performed : instruction.perform env state with ⟨cause | answer, later⟩
      · simp only [steps, performed, Step.perform, List.mem_singleton] at member
        rw [member] at failed
        simpa only [run, performed] using failed
      · simp only [steps, performed, Step.perform, List.mem_cons] at member
        rcases member with rfl | member
        · simp at failed
        · simpa only [run, performed] using ih answer member

/-- Code itself does not refuse: a refusal comes from a step. -/
theorem Behavior.exists_step_of_refused {env : Env} {behavior : Behavior} {state : State}
    {refusal : Refusal} (ended : (behavior.run env state).1 = .error (.refused refusal)) :
    ∃ step ∈ behavior.steps env state, step.outcome = .error (.refused refusal) := by
  induction behavior generalizing state with
  | done value => simp [run] at ended
  | stop cause => simp [run] at ended
  | step instruction next ih =>
      rcases performed : instruction.perform env state with ⟨cause | answer, later⟩
      · simp only [run, performed] at ended
        refine ⟨Step.perform env state instruction, by simp [steps], ?_⟩
        simpa only [Step.perform, performed] using ended
      · simp only [run, performed] at ended
        obtain ⟨step, member, failed⟩ := ih answer ended
        refine ⟨step, ?_, failed⟩
        simp only [steps, performed]
        exact List.mem_cons_of_mem _ member

theorem Call.outcome_eq_run {env : Env} (call : Call) (genuine : call.Genuine env) :
    call.outcome = ((env.program.behavior call.callee).run env { machine := call.entered }).1 :=
  congrArg Call.outcome genuine

theorem Call.outcome_of_mem_steps {env : Env} {call : Call} (genuine : call.Genuine env)
    {step : Step} {stop : Stop} (member : step ∈ call.steps env)
    (failed : step.outcome = .error stop) : call.outcome = .error stop := by
  rw [call.outcome_eq_run genuine]
  exact Behavior.outcome_of_mem_steps member failed

/-! ## Refused writes -/

/-- A step asks the host to write a span that does not lie in a memory of `size` octets, which is
the size that the step finds. -/
structure Step.Misses (step : Step) (span : Span) (size : Nat) : Prop where
  asks : ∃ stream, step.instruction = .write stream span
  size_eq : step.before.machine.memorySize = size
  outside : ¬ span.Fits size

/-- A step of the call, at whatever depth of nested calls, asks for a span outside the memory. -/
def Call.Misses (env : Env) (call : Call) (span : Span) (size : Nat) : Prop :=
  ∃ step ∈ call.steps env, step.Misses span size

theorem writtenBy_eq {env : Env} {machine : Machine} {memory : Memory}
    (reached : memoryOf env.program machine = .ok memory) (stream : Stream) (span : Span) :
    writtenBy env machine stream span =
      if span.Fits memory.size then
        .ok ⟨stream, Utf8.decode (memory.load span.ptr.toNat span.len.toNat)⟩
      else .error (.outOfBounds span memory.size) := by
  simp only [writtenBy, reached, Memory.read, bind, Except.bind]
  by_cases fits : span.Fits memory.size
  · simp only [if_pos fits]
    rfl
  · simp only [if_neg fits]

theorem Step.refused_iff {env : Env} {state : State} {instruction : Instruction}
    {refusal : Refusal} {memory : Memory}
    (reached : memoryOf env.program state.machine = .ok memory) :
    (Step.perform env state instruction).outcome = .error (.refused refusal) ↔
      ∃ span size, refusal = .outOfBounds span size ∧
        (Step.perform env state instruction).Misses span size := by
  have size_eq : state.machine.memorySize = memory.size := by
    simp only [Machine.memorySize, memory_of_memoryOf reached]
  constructor
  · intro refused
    cases instruction with
    | write stream span =>
        simp only [Step.perform, Instruction.perform, writtenBy_eq reached] at refused
        by_cases fits : span.Fits memory.size
        · simp [fits] at refused
        · simp only [if_neg fits, Except.error.injEq, Stop.refused.injEq] at refused
          exact ⟨span, memory.size, refused.symm, ⟨stream, rfl⟩, size_eq, fits⟩
    | load address count =>
        simp only [Step.perform, Instruction.perform] at refused
        cases loaded : state.machine.load address count <;> simp [loaded] at refused
    | store address octets =>
        simp only [Step.perform, Instruction.perform] at refused
        cases stored : state.machine.store address octets <;> simp [stored] at refused
    | meter cost =>
        simp only [Step.perform, Instruction.perform] at refused
        split at refused <;> simp at refused
    | _ => simp [Step.perform, Instruction.perform] at refused
  · rintro ⟨span, size, rfl, ⟨stream, asks⟩, found, outside⟩
    obtain rfl : memory.size = size := size_eq.symm.trans found
    obtain rfl : instruction = .write stream span := asks
    simp [Step.perform, Instruction.perform, writtenBy_eq reached, outside]

/-- While the host reaches the memory, a call ends with a refusal exactly if one of its steps asked
for a span outside it. -/
theorem Call.refused_iff {env : Env} {call : Call} (genuine : call.Genuine env)
    (reaches : ∀ machine ∈ call.machines env,
      ∃ memory, memoryOf env.program machine = .ok memory) (refusal : Refusal) :
    call.outcome = .error (.refused refusal) ↔
      ∃ span size, refusal = .outOfBounds span size ∧ call.Misses env span size := by
  have each : ∀ step ∈ call.steps env, step.outcome = .error (.refused refusal) ↔
      ∃ span size, refusal = .outOfBounds span size ∧ step.Misses span size := by
    intro step member
    obtain ⟨memory, reached⟩ := reaches _ (Call.before_mem_machines member)
    rw [Behavior.eq_perform_of_mem_steps member]
    exact Step.refused_iff reached
  constructor
  · intro ended
    rw [call.outcome_eq_run genuine] at ended
    obtain ⟨step, member, refused⟩ := Behavior.exists_step_of_refused ended
    obtain ⟨span, size, refusal_eq, misses⟩ := (each step member).mp refused
    exact ⟨span, size, refusal_eq, step, member, misses⟩
  · rintro ⟨span, size, refusal_eq, step, member, misses⟩
    have refused := (each step member).mpr ⟨span, size, refusal_eq, misses⟩
    exact Call.outcome_of_mem_steps genuine member refused

/-! ## Exhausted budgets -/

/-- A step meters work and leaves nothing of the budget. -/
structure Step.Exhausts (step : Step) : Prop where
  meters : ∃ cost, step.instruction = .meter cost
  nothing : step.after.machine.fuel = some 0

/-- A call in which metered work leaves nothing ends there. -/
theorem Call.outcome_of_exhausts {env : Env} {call : Call} (genuine : call.Genuine env)
    {step : Step} (member : step ∈ call.steps env) (exhausts : step.Exhausts) :
    call.outcome = .error (.trap .fuel) := by
  apply Call.outcome_of_mem_steps genuine member
  have performed := Behavior.eq_perform_of_mem_steps member
  obtain ⟨⟨cost, meters⟩, nothing⟩ := exhausts
  rw [performed, meters] at nothing ⊢
  simp only [Step.perform, Instruction.perform] at nothing ⊢
  rw [if_pos nothing]

end Guest
end SandboxHost
