import SandboxHost.Proofs.Guest.Steps
import SandboxHost.Proofs.Memory

/-!
# What a call writes

The log of a call is read off its steps: each write that succeeded has one entry, the text of the
octets that its span held at that step.
-/

namespace SandboxHost
namespace Guest

/-- The octets of a stretch of the machine's memory, none if there is no memory. -/
def Machine.octetsAt (machine : Machine) (span : Span) : List UInt8 :=
  match machine.memory with
  | some memory => memory.load span.ptr.toNat span.len.toNat
  | none => []

/-- What a step adds to the output: something only if it is a write that succeeded, and then the
text of the octets that the span held just before. -/
def Step.emitted? (step : Step) : Option Fragment :=
  match step.instruction, step.outcome with
  | .write stream span, .ok _ => some ⟨stream, Utf8.decode (step.before.machine.octetsAt span)⟩
  | _, _ => none

/-- The entries of all writes that succeeded during a call, in order. -/
def Call.entries (env : Env) (call : Call) : List Fragment :=
  (call.steps env).filterMap Step.emitted?

/-- A write that succeeds takes the octets as they are at that moment. -/
theorem eq_of_writtenBy {env : Env} {machine : Machine} {stream : Stream} {span : Span}
    {fragment : Fragment} (written : writtenBy env machine stream span = .ok fragment) :
    fragment = ⟨stream, Utf8.decode (machine.octetsAt span)⟩ := by
  unfold writtenBy at written
  cases reached : memoryOf env.program machine with
  | error refusal => simp [reached, bind, Except.bind] at written
  | ok memory =>
      cases performed : memory.read span with
      | error refusal => simp [reached, performed, bind, Except.bind] at written
      | ok octets =>
          obtain rfl := Memory.eq_load_of_read performed
          simp only [reached, performed, bind, Except.bind, pure, Except.pure,
            Except.ok.injEq] at written
          rw [← written, Machine.octetsAt, memory_of_memoryOf reached]

/-- An instruction adds its entry to the log and nothing else. -/
theorem log_perform (env : Env) (state : State) (instruction : Instruction) :
    (instruction.perform env state).2.log.toList =
      state.log.toList ++ (Step.perform env state instruction).emitted?.toList := by
  unfold Step.perform Step.emitted?
  cases instruction with
  | load address count =>
      simp only [Instruction.perform]
      cases state.machine.load address count <;> simp
  | store address octets =>
      simp only [Instruction.perform]
      cases state.machine.store address octets <;> simp
  | write stream span =>
      simp only [Instruction.perform]
      cases written : writtenBy env state.machine stream span with
      | error refusal => simp
      | ok fragment => simp [eq_of_writtenBy written]
  | _ => simp [Instruction.perform]

/-- A behavior adds the entries of its steps to the log, also if the guest stops. -/
theorem Behavior.log_run (env : Env) (behavior : Behavior) (state : State) :
    (behavior.run env state).2.log.toList =
      state.log.toList ++ (behavior.steps env state).filterMap Step.emitted? := by
  induction behavior generalizing state with
  | done value => simp [run, steps]
  | stop cause => simp [run, steps]
  | step instruction next ih =>
      have first := log_perform env state instruction
      rcases performed : instruction.perform env state with ⟨cause | answer, later⟩
      · rw [performed] at first
        simp only [run, steps, performed, filterMap_cons_eq_append]
        rw [first, List.filterMap_nil, List.append_nil]
      · rw [performed] at first
        simp only [run, steps, performed, filterMap_cons_eq_append]
        rw [ih, first, List.append_assoc]

/-- A call writes the entries of its steps. -/
theorem Call.written_eq_entries {env : Env} {call : Call} (genuine : call.Genuine env) :
    call.written = call.entries env := by
  rw [call.written_eq_run genuine, Behavior.log_run]
  simp [entries, steps]

end Guest
end SandboxHost
