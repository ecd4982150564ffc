import SandboxHost.Proofs.Guest.Stops
import SandboxHost.Proofs.Memory.History
import SandboxHost.Proofs.Output

/-!
# Services in the middle of a call

A call of a guest can be looked at between any two of its steps.  There the memory is what the
guest's stores and growth made of it so far, and that is the memory a write is judged by and takes
its octets from.  A service changes nothing of the guest and nothing of what was written before.
-/

namespace SandboxHost
namespace Guest

variable {env : Env} {earlier later : List Step} {step : Step}

/-! ## The middle of a call -/

/-- What is left of a behavior before one of its steps has the steps from there on and the same end.
The machine and the log at that point are the work of the steps before. -/
theorem Behavior.exists_rest {behavior : Behavior} {state : State}
    (parts : behavior.steps env state = earlier ++ step :: later) :
    ∃ next : UInt32 → Behavior,
      (Behavior.step step.instruction next).steps env step.before = step :: later ∧
      (Behavior.step step.instruction next).run env step.before = behavior.run env state ∧
      step.before.machine =
        (earlier.map Step.instruction).foldl (Instruction.effect env) state.machine ∧
      step.before.log.toList = state.log.toList ++ earlier.filterMap Step.emitted? := by
  induction earlier generalizing behavior state with
  | nil =>
      cases behavior with
      | done value => simp [steps] at parts
      | stop cause => simp [steps] at parts
      | step instruction next =>
          have same := parts
          rw [steps, List.nil_append] at same
          obtain ⟨rfl, -⟩ := List.cons.inj same
          exact ⟨next, parts, rfl, rfl, (List.append_nil _).symm⟩
  | cons first earlier ih =>
      cases behavior with
      | done value => simp [steps] at parts
      | stop cause => simp [steps] at parts
      | step instruction next =>
          rw [steps, List.cons_append] at parts
          obtain ⟨rfl, rest⟩ := List.cons.inj parts
          have machine_eq := instruction.machine_perform env state
          have log_eq := log_perform env state instruction
          rcases performed : instruction.perform env state with ⟨cause | answer, middle⟩
          · -- A step that fails is the last one, and here another follows.
            simp [performed] at rest
          · rw [performed] at rest machine_eq log_eq
            obtain ⟨last, steps_eq, run_eq, machine, log⟩ := ih rest
            refine ⟨last, steps_eq, ?_, ?_, ?_⟩
            · rw [run_eq, run, performed]
            · rw [machine, machine_eq]
              rfl
            · rw [log, log_eq, filterMap_cons_eq_append, List.append_assoc]

/-- The log after a step holds what the step adds behind what was there. -/
theorem Step.log_after {behavior : Behavior} {state : State}
    (member : step ∈ behavior.steps env state) :
    step.after.log.toList = step.before.log.toList ++ step.emitted?.toList := by
  rw [Behavior.eq_perform_of_mem_steps member]
  exact log_perform env step.before step.instruction

section Call

variable {callee : Callee} {machine : Machine}

theorem Call.log_before
    (parts : (Call.perform env callee machine).steps env = earlier ++ step :: later) :
    step.before.log.toList = earlier.filterMap Step.emitted? := by
  obtain ⟨_, -, -, -, log⟩ := Behavior.exists_rest parts
  exact log

/-- What a call wrote is its log after any step and what the steps from there on added. -/
theorem Call.written_eq_append
    (parts : (Call.perform env callee machine).steps env = earlier ++ step :: later) :
    (Call.perform env callee machine).written =
      step.after.log.toList ++ later.filterMap Step.emitted? := by
  have member : step ∈ (Call.perform env callee machine).steps env := by simp [parts]
  rw [Call.written_eq_entries (genuine_perform ..), Call.entries, parts, List.filterMap_append,
    filterMap_cons_eq_append, Step.log_after member, Call.log_before parts, List.append_assoc]

/-- The log after a step is kept by all later steps. -/
theorem Call.log_prefix_of_mem
    (parts : (Call.perform env callee machine).steps env = earlier ++ step :: later) {other : Step}
    (member : other ∈ later) : step.after.log.toList <+: other.after.log.toList := by
  obtain ⟨next, steps_eq, -, -, -⟩ := Behavior.exists_rest parts
  have passage := @Behavior.passage env
    (fun before after : State => before.log.toList <+: after.log.toList)
    (fun _ => List.prefix_refl _) (fun first second => first.trans second)
    (fun state instruction => ⟨_, (log_perform env state instruction).symm⟩)
    (.step step.instruction next) step.before
  rw [steps_eq, List.map_cons] at passage
  obtain ⟨-, pairwise⟩ := List.pairwise_cons.mp passage.pairwise
  exact (List.pairwise_cons.mp pairwise).1 _ (List.mem_map_of_mem member)

/-- A step that fails is the last one of its call, and the call ends there and in the same way. -/
theorem Call.end_of_failed {stop : Stop}
    (parts : (Call.perform env callee machine).steps env = earlier ++ step :: later)
    (failed : step.outcome = .error stop) :
    later = [] ∧ (Call.perform env callee machine).outcome = .error stop ∧
      (Call.perform env callee machine).left = step.after.machine := by
  obtain ⟨next, steps_eq, run_eq, -, -⟩ := Behavior.exists_rest parts
  have performed := Behavior.eq_perform_of_mem_steps (steps_eq ▸ List.mem_cons_self)
  rcases answered : step.instruction.perform env step.before with ⟨cause | answer, after⟩
  · have outcome : step.outcome = .error cause := by rw [performed, Step.perform, answered]
    have left : step.after = after := by rw [performed, Step.perform, answered]
    obtain rfl : cause = stop := Except.error.inj (outcome.symm.trans failed)
    simp only [Behavior.steps, answered, List.cons.injEq] at steps_eq
    simp only [Behavior.run, answered] at run_eq
    refine ⟨steps_eq.2.symm, (congrArg Prod.fst run_eq).symm, ?_⟩
    rw [left]
    exact (congrArg (·.2.machine) run_eq).symm
  · rw [performed, Step.perform, answered] at failed
    cases failed

end Call

/-! ## Writes -/

/-- The memory that a program shows under the name of its memory. -/
def Program.Exports (program : Program) (machine : Machine) (memory : Memory) : Prop :=
  (program.offers .memory = .own ∨ program.offers .memory = .memory) ∧
    machine.memory = some memory

theorem memoryOf_eq_ok_iff {program : Program} {machine : Machine} {memory : Memory} :
    memoryOf program machine = .ok memory ↔ program.Exports machine memory := by
  unfold memoryOf Program.Exports
  cases offer : program.offers .memory <;> cases here : machine.memory <;> simp

theorem exists_absence_of_memoryOf {program : Program} {machine : Machine} {refusal : Refusal}
    (failed : memoryOf program machine = .error refusal) :
    ∃ absence, refusal = .missing .memory absence := by
  unfold memoryOf at failed
  grind

/-- What a call of a service that writes answers, and what it adds to the output. -/
inductive Writes (program : Program) (machine : Machine) (stream : Stream) (span : Span) :
    Except Stop UInt32 → List Fragment → Prop
  /-- The span lies in the memory as it is now, and its octets there are decoded. -/
  | appended (memory : Memory) (exported : program.Exports machine memory)
      (inside : span.ptr.toNat + span.len.toNat ≤ memory.size) :
      Writes program machine stream span (.ok 0)
        [⟨stream, Utf8.decode ((List.range' span.ptr.toNat span.len.toNat).map memory.byteAt)⟩]
  | outside (memory : Memory) (exported : program.Exports machine memory)
      (outside : memory.size < span.ptr.toNat + span.len.toNat) :
      Writes program machine stream span (.error (.refused (.outOfBounds span memory.size))) []
  | missing (absence : Absence) (hidden : ∀ memory, ¬ program.Exports machine memory) :
      Writes program machine stream span (.error (.refused (.missing .memory absence))) []

/-- A write answers as it should, adds what it should to the log and leaves the machine alone. -/
theorem writes_perform (env : Env) (state : State) (stream : Stream) (span : Span) :
    let performed := Step.perform env state (.write stream span)
    ∃ appended, Writes env.program state.machine stream span performed.outcome appended ∧
      performed.after.machine = state.machine ∧
      performed.after.log.toList = state.log.toList ++ appended := by
  simp only [Step.perform, Instruction.perform]
  cases reached : memoryOf env.program state.machine with
  | ok memory =>
      have exported := memoryOf_eq_ok_iff.mp reached
      rw [writtenBy_eq reached]
      by_cases fits : span.Fits memory.size
      · rw [if_pos fits]
        exact ⟨_, .appended memory exported fits, rfl, Array.toList_push⟩
      · rw [if_neg fits]
        exact ⟨[], .outside memory exported (Nat.not_le.mp fits), rfl, (List.append_nil _).symm⟩
  | error refusal =>
      have hidden : ∀ memory, ¬ env.program.Exports state.machine memory := by
        intro memory exported
        rw [memoryOf_eq_ok_iff.mpr exported] at reached
        cases reached
      obtain ⟨absence, rfl⟩ := exists_absence_of_memoryOf reached
      have refused : writtenBy env state.machine stream span =
          .error (.missing .memory absence) := by
        rw [writtenBy, reached]
        rfl
      rw [refused]
      exact ⟨[], .missing absence hidden, rfl, (List.append_nil _).symm⟩

/-! ## The clock -/

/-- An assignment changes the global it names, if there is one, and no other. -/
theorem Machine.lookup_assign (machine : Machine) (name other : String) (value : Value) :
    (machine.assign name value).globals.lookup other =
      if other = name then (machine.globals.lookup other).map fun _ => value
      else machine.globals.lookup other := by
  unfold assign
  induction machine.globals with
  | nil => simp
  | cons entry globals ih =>
      obtain ⟨key, old⟩ := entry
      have same_key : (if key = name then (name, value) else (key, old)) =
          (key, if key = name then value else old) := by
        split
        · rename_i named
          rw [named]
        · rfl
      rw [List.map_cons, same_key, List.lookup_cons, List.lookup_cons, ih]
      by_cases asked : other = key
      · subst asked
        simp only [beq_self_eq_true, Option.map_some, apply_ite some]
      · rw [beq_false_of_ne asked]

/-- **Services work on the guest as it is.**  Whatever a call has stored, grown and written so far,
a write in it is judged by the memory there is now under its name: exactly one fragment is added,
the text of the octets that the span holds now, or the call ends with a refusal and nothing is
added.  It leaves the machine, the limits and the clock alone, as well as what was written before,
and nothing later changes what it wrote.  The clock's service gives the guest the host's time and
changes nothing but the global that the guest keeps it in. -/
theorem services_read_live_memory (env : Env) (callee : Callee) (machine : Machine)
    (earlier later : List Step) (step : Step)
    (parts : (Call.perform env callee machine).steps env = earlier ++ step :: later) :
    let call := Call.perform env callee machine
    step.before.machine =
      (earlier.map Step.instruction).foldl (Instruction.effect env) machine ∧
    step.before.log.toList = earlier.filterMap Step.emitted? ∧
    (∀ stream span, step.instruction = .write stream span →
      ∃ (ptr len : Int32) (appended : List Fragment),
        span = .ofSigned ptr len ∧
        (span.ptr.toNat : Int) = ptr.toInt % 2 ^ 32 ∧ (span.len.toNat : Int) = len.toInt % 2 ^ 32 ∧
        Writes env.program step.before.machine stream span step.outcome appended ∧
        step.after.machine = step.before.machine ∧
        step.after.log.toList = step.before.log.toList ++ appended ∧
        (∀ host : Host, host.emitAll step.after.log.toList =
          { host with
            output := (host.emitAll step.before.log.toList).output.appendAll appended }) ∧
        (∀ other ∈ later, step.after.log.toList <+: other.after.log.toList) ∧
        call.written = step.after.log.toList ++ later.filterMap Step.emitted? ∧
        ∀ stop, step.outcome = .error stop →
          later = [] ∧ call.outcome = .error stop ∧ call.left = step.before.machine) ∧
    ∀ name, step.instruction = .readClock name →
      step.outcome = .ok 0 ∧ step.after.log = step.before.log ∧
      step.after.machine =
        { step.before.machine with globals := step.after.machine.globals } ∧
      ∀ other, step.after.machine.globals.lookup other =
        if other = name then
          (step.before.machine.globals.lookup other).map fun _ => .double env.clock
        else step.before.machine.globals.lookup other := by
  intro call
  obtain ⟨next, steps_eq, -, machine_eq, log_eq⟩ := Behavior.exists_rest parts
  have performed := Behavior.eq_perform_of_mem_steps (steps_eq ▸ List.mem_cons_self)
  refine ⟨machine_eq, log_eq, ?_, ?_⟩
  · intro stream span writes
    obtain ⟨appended, answers, machine_after, log_after⟩ :=
      writes_perform env step.before stream span
    rw [← writes, ← performed] at answers machine_after log_after
    have span_eq : span = .ofSigned span.ptr.toInt32 span.len.toInt32 := by simp [Span.ofSigned]
    have signed := Span.toNat_ofSigned span.ptr.toInt32 span.len.toInt32
    rw [← span_eq] at signed
    refine ⟨_, _, appended, span_eq, signed.1, signed.2, answers, machine_after, log_after, ?_,
      fun other member => Call.log_prefix_of_mem parts member, Call.written_eq_append parts, ?_⟩
    · intro host
      simp only [Host.emitAll, log_after, Transcript.appendAll_append]
    · intro stop failed
      obtain ⟨last, outcome, left⟩ := Call.end_of_failed parts failed
      exact ⟨last, outcome, left.trans machine_after⟩
  · intro name reads
    rw [reads] at performed
    rw [performed]
    exact ⟨rfl, rfl, rfl, fun other => Machine.lookup_assign ..⟩

/-- A guest that grows, writes what it stored there, stores again, asks for the time and then for
one octet too many. -/
def restlessProgram : Program where
  globals := [("time", .double 0)]
  run := .ofList
    [.store8 (.binary .mul (.growMemory (.word 1)) (.word 65536)) (.word 66),
      .write .stdout (.word 65536) (.word 1), .store8 (.word 65536) (.word 67), .readClock "time",
      .write .stderr (.word 131071) (.word 2)]

/-- A run of `restlessProgram` at the time 7. -/
def restlessCall : Call :=
  Call.perform ⟨restlessProgram, none, 7⟩ (.run 0 0)
    { memory := some { pages := 1 }, globals := [("time", .double 0)], table := none }

theorem services_read_live_memory_restlessCall :
    ∃ first asked last : Step,
      first.instruction = .write .stdout ⟨65536, 1⟩ ∧ first.before.log = #[] ∧
      first.after.log.toList <+: asked.after.log.toList ∧
      restlessCall.written = first.after.log.toList ∧ restlessCall.written = [⟨.stdout, "B"⟩] ∧
      asked.after.machine.globals.lookup "time" = some (.double 7) ∧
      last.instruction = .write .stderr ⟨131071, 2⟩ ∧
      Writes restlessProgram last.before.machine .stderr ⟨131071, 2⟩ last.outcome [] ∧
      restlessCall.outcome = .error (.refused (.outOfBounds ⟨131071, 2⟩ 131072)) ∧
      restlessCall.left = last.before.machine := by
  let steps := restlessCall.steps ⟨restlessProgram, none, 7⟩
  have count : steps.length = 12 := by decide +kernel
  have parts (index : Nat) (inside : index < steps.length) :
      steps = steps.take index ++ steps[index] :: steps.drop (index + 1) := by
    rw [← List.drop_eq_getElem_cons inside, List.take_append_drop]
  have law (index : Nat) (inside : index < steps.length) :=
    services_read_live_memory ⟨restlessProgram, none, 7⟩ (.run 0 0) _ _ _ _ (parts index inside)
  obtain ⟨-, -, write, -⟩ := law 5 (by decide +kernel)
  obtain ⟨-, -, -, clock⟩ := law 9 (by decide +kernel)
  obtain ⟨-, -, refused, -⟩ := law 11 (by decide +kernel)
  have writes : steps[5].instruction = .write .stdout ⟨65536, 1⟩ := rfl
  have strays : steps[11].instruction = .write .stderr ⟨131071, 2⟩ := rfl
  obtain ⟨-, -, -, -, -, -, -, -, -, -, kept, written, -⟩ := write _ _ writes
  obtain ⟨-, -, told, -, -, -, answers, -, -, -, -, -, ends⟩ := refused _ _ strays
  have outcome : steps[11].outcome = .error (.refused (.outOfBounds ⟨131071, 2⟩ 131072)) := rfl
  have behind : steps[9] ∈ steps.drop 6 := by
    rw [List.mem_iff_getElem]
    exact ⟨3, by simp [count], by simp⟩
  have nothing : (steps.drop 6).filterMap Step.emitted? = [] := by decide +kernel
  refine ⟨steps[5], steps[9], steps[11], writes, by decide +kernel, kept _ behind, ?_,
    by decide +kernel, ?_, strays, ?_, (ends _ outcome).2.1, (ends _ outcome).2.2⟩
  · exact written.trans (by rw [nothing, List.append_nil])
  · rw [(clock "time" (by decide +kernel)).2.2.2]
    decide +kernel
  · have silent : told = [] := by
      generalize steps[11].outcome = ended at answers outcome
      cases answers with
      | appended => cases outcome
      | outside | missing => rfl
    exact silent ▸ answers

end Guest
end SandboxHost
