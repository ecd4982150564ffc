import SandboxHost.Proofs.Memory
import SandboxHost.Proofs.Session.Course

/-!
# What a run does to the guest

The entry finds its source where the allocator said, and everything else as the allocator left it.
The copy of the source is the only thing that the host puts into a guest; what a call makes of the
machine is the work of the guest's own instructions.
-/

namespace SandboxHost

open Guest

/-- The octets were put into a machine's memory, and nothing else was touched. -/
structure Handed (before after : Machine) (address : Nat) (octets : List UInt8) : Prop where
  /-- Globals, table and budget are as before. -/
  rest : after = { before with memory := after.memory }
  /-- The octets are at the address; every other octet and the size are as before. -/
  memory : ∃ old new, before.memory = some old ∧ after.memory = some new ∧
    new.size = old.size ∧ new.maximum = old.maximum ∧
    new.load address octets.length = octets ∧
    ∀ other, ¬ (address ≤ other ∧ other < address + octets.length) →
      new.byteAt other = old.byteAt other

theorem handed_store {machine : Machine} {memory : Memory} (here : machine.memory = some memory)
    (address : Nat) (octets : List UInt8) :
    Handed machine { machine with memory := some (memory.store address octets) } address
      octets where
  rest := rfl
  memory := ⟨memory, _, here, rfl, Memory.size_store .., rfl, Memory.load_store ..,
    fun _ outside => Memory.byteAt_store_outside memory outside⟩

/-- A call made of the machine what the guest's own instructions make of it. -/
structure Guest.Call.OwnWork (env : Env) (call : Call) : Prop where
  /-- The record tells what the guest did. -/
  genuine : call.Genuine env
  /-- What the call leaves are the effects of the guest's instructions, up to where it ended. -/
  left_eq : call.left =
    (((call.steps env).map Step.instruction).filter (!·.isWrite)).foldl
      (Instruction.effect env) call.entered
  /-- A write leaves the machine as it finds it, at whatever depth of the call it is made. -/
  frame : ∀ step ∈ call.steps env, step.instruction.isWrite →
    step.after.machine = step.before.machine

theorem Guest.Call.Genuine.ownWork {env : Env} {call : Call} (genuine : call.Genuine env) :
    call.OwnWork env where
  genuine := genuine
  left_eq := Guest.Call.left_eq_foldl genuine
  frame := by
    intro step member writes
    have performed := Behavior.eq_perform_of_mem_steps member
    rw [performed]
    exact (Instruction.machine_perform ..).trans (Instruction.effect_of_isWrite writes)

namespace Session

variable {session : Session}

/-- **The entry finds the source where the allocator said.**  Otherwise it sees what the allocator
left, the release function sees what the call before it left, and the run leaves what its last call
left. -/
theorem source_handed_over (reachable : session.Reachable) (source : String) :
    (∀ call ∈ (session.exchange source).calls, call.OwnWork session.env) ∧
    ((Utf8.encode source).length = 0 ∨ Exchange.sourceBound ≤ (Utf8.encode source).length →
      (session.run source).2.machine = session.machine) ∧
    ((Utf8.encode source).length ≠ 0 → (Utf8.encode source).length < Exchange.sourceBound →
      ∃ (length : UInt32) (asked : Call) (later : List Call),
        length.toNat = (Utf8.encode source).length ∧
        (session.exchange source).calls = asked :: later ∧
        asked.callee = .alloc length ∧
        asked.entered = session.refueled session.machine ∧
        match asked.outcome with
        | .error _ => later = [] ∧ (session.run source).2.machine = asked.left
        | .ok ptr =>
            if ptr = 0 then later = [] ∧ (session.run source).2.machine = asked.left
            else if Span.Fits ⟨ptr, length⟩ asked.left.memorySize then
              ∃ ran freed, later = [ran, freed] ∧
                ran.callee = .run ptr length ∧
                Handed asked.left ran.entered ptr.toNat (Utf8.encode source) ∧
                freed.callee = .free ptr length ∧
                freed.entered = session.refueled ran.left ∧
                (session.run source).2.machine = freed.left
            else
              ∃ freed, later = [freed] ∧
                freed.callee = .free ptr length ∧
                freed.entered = session.refueled asked.left ∧
                (session.run source).2.machine = freed.left) := by
  have ready := reachable.ready
  refine ⟨fun call member => (ready.genuine_of_mem_calls member).ownWork, ?_, ?_⟩
  · rintro (empty | long)
    · exact congrArg Exchange.machine (exchange_of_empty empty)
    · exact congrArg Exchange.machine (exchange_of_long long)
  · intro nonempty short
    have course := ready.course nonempty short
    have length_eq := toNat_length short
    rw [machine_run]
    generalize Utf8.encode source = octets at course length_eq ⊢
    generalize session.exchange source = exchange at course ⊢
    refine ⟨octets.length.toUInt32, session.asked octets, ?_⟩
    cases course with
    | stopped stop answer =>
        exact ⟨[], length_eq, rfl, rfl, rfl, by simp [answer]⟩
    | null answer =>
        exact ⟨[], length_eq, rfl, rfl, rfl, by simp [answer]⟩
    | outside ptr memory freed answer nonzero here outside frees =>
        obtain rfl := frees
        refine ⟨_, length_eq, rfl, rfl, rfl, ?_⟩
        simp only [answer, if_neg nonzero, Machine.memorySize, here, if_neg outside]
        exact ⟨_, rfl, rfl, rfl, rfl⟩
    | entered ptr memory ran freed answer nonzero here fits enters frees =>
        obtain rfl := frees
        obtain rfl := enters
        refine ⟨_, length_eq, rfl, rfl, rfl, ?_⟩
        simp only [answer, if_neg nonzero, Machine.memorySize, here, if_pos fits]
        exact ⟨_, _, rfl, rfl, handed_store here .., rfl, rfl, rfl⟩

/-- The guest lends a page of its own for each request and writes what it is given. -/
def growingSession : Session :=
  ofBodies (.leave (.binary .mul (.growMemory (.word 1)) (.word 65536))) .skip
    (.write .stdout .frameStart .frameLength)

theorem source_handed_over_growingSession :
    growingSession.machine.memorySize = 65536 ∧
    ∃ asked ran freed, (growingSession.exchange "hi").calls = [asked, ran, freed] ∧
      ran.callee = .run 65536 2 ∧ Handed asked.left ran.entered 65536 [104, 105] := by
  refine ⟨rfl, ?_⟩
  have reachable : growingSession.Reachable := reachable_ofBodies ..
  obtain ⟨length, asked, later, length_eq, calls, -, -, passed⟩ :=
    (source_handed_over reachable "hi").2.2 (by decide +kernel) (by decide +kernel)
  have two : length = 2 := UInt32.toNat_inj.mp length_eq
  have first : asked = growingSession.asked (Utf8.encode "hi") := by
    have heads := congrArg List.head? calls
    exact (Option.some.inj heads).symm
  have answer : asked.outcome = .ok 65536 := by
    rw [first]
    rfl
  have size : asked.left.memorySize = 131072 := by
    rw [first]
    decide +kernel
  rw [answer, two, size] at passed
  obtain ⟨ran, freed, rfl, callee, handed, -⟩ := passed
  exact ⟨asked, ran, freed, calls, callee, handed⟩

end Session
end SandboxHost
