import SandboxHost.Proofs.Guest.Services
import SandboxHost.Proofs.Session.Faults
import SandboxHost.Proofs.Text.Slices

/-!
# Texts come back as they went in

The source lies in the memory when the entry is called, and stays there through whatever the guest
does that stores nothing into it.  As long as it lies there, a write of the octets between two of
its characters adds to the output just what stands between them in the source.
-/

namespace SandboxHost

open Guest

/-! ## Octets that stay -/

/-- Octets lie at an address, inside the size. -/
structure Memory.Holds (memory : Memory) (address : Nat) (octets : List UInt8) : Prop where
  inside : address + octets.length ≤ memory.size
  load_eq : memory.load address octets.length = octets

/-- A memory that is not smaller and has the same octets at those places holds them too. -/
theorem Memory.Holds.of_byteAt {memory other : Memory} {address : Nat} {octets : List UInt8}
    (holds : memory.Holds address octets) (larger : memory.size ≤ other.size)
    (same : ∀ place, address ≤ place → place < address + octets.length →
      other.byteAt place = memory.byteAt place) : other.Holds address octets where
  inside := Nat.le_trans holds.inside larger
  load_eq := (Memory.load_congr same).trans holds.load_eq

namespace Guest

/-- Octets lie at an address of the memory. -/
def Machine.Holds (machine : Machine) (address : Nat) (octets : List UInt8) : Prop :=
  ∃ memory, machine.memory = some memory ∧ memory.Holds address octets

/-- An instruction stores an octet at one of the `length` places from an address on. -/
def Instruction.StoresIn (address length : Nat) : Instruction → Prop
  | .store ptr octets => ∃ place, (address ≤ place ∧ place < address + length) ∧
      ptr.toNat ≤ place ∧ place < ptr.toNat + octets.length
  | _ => False

namespace Machine.Holds

variable {env : Env} {machine : Machine} {address : Nat} {octets : List UInt8}

theorem growMemory (holds : machine.Holds address octets) (limits : Option Limits)
    (extra : UInt32) : (machine.growMemory limits extra).2.Holds address octets := by
  obtain ⟨memory, here, held⟩ := holds
  simp only [Machine.growMemory, here]
  split
  · exact ⟨memory, here, held⟩
  · rename_i grown performed
    have larger := Memory.size_le_of_grows (Memory.grows_of_grow? performed)
    obtain ⟨-, same⟩ := Option.ite_none_right_eq_some.mp performed
    refine ⟨grown, rfl, held.of_byteAt larger fun place _ _ => ?_⟩
    rw [← Option.some.inj same]
    rfl

theorem growTable (holds : machine.Holds address octets) (limits : Option Limits)
    (extra : UInt32) : (machine.growTable limits extra).2.Holds address octets := by
  unfold Machine.growTable
  split
  · exact holds
  · dsimp only
    split <;> exact holds

theorem store (holds : machine.Holds address octets) {ptr : UInt32} {data : List UInt8}
    (apart : ¬ (Instruction.store ptr data).StoresIn address octets.length) {stored : Machine}
    (performed : machine.store ptr data = .ok stored) : stored.Holds address octets := by
  obtain ⟨memory, here, held⟩ := holds
  simp only [Machine.store, here] at performed
  split at performed
  · obtain rfl := Except.ok.inj performed
    refine ⟨_, rfl, held.of_byteAt (Nat.le_refl _) ?_⟩
    intro place above below
    exact Memory.byteAt_store_outside memory fun inside => apart ⟨place, ⟨above, below⟩, inside⟩
  · cases performed

/-- Octets stay where they are as long as nothing is stored there. -/
theorem effect (holds : machine.Holds address octets) (env : Env) {instruction : Instruction}
    (apart : ¬ instruction.StoresIn address octets.length) :
    (instruction.effect env machine).Holds address octets := by
  cases instruction with
  | load ptr count =>
      simp only [Instruction.effect, Instruction.perform]
      cases machine.load ptr count <;> exact holds
  | growMemory extra => exact holds.growMemory env.limits extra
  | growTable extra => exact holds.growTable env.limits extra
  | store ptr data =>
      simp only [Instruction.effect, Instruction.perform]
      cases performed : machine.store ptr data with
      | error cause => exact holds
      | ok stored => exact holds.store apart performed
  | write stream span =>
      rw [Instruction.effect_of_isWrite rfl]
      exact holds
  | spend | meter | global | pages | tableSize | assign | readClock => exact holds

theorem foldl_effect (holds : machine.Holds address octets) (env : Env)
    {instructions : List Instruction}
    (apart : ∀ instruction ∈ instructions, ¬ instruction.StoresIn address octets.length) :
    (instructions.foldl (Instruction.effect env) machine).Holds address octets := by
  induction instructions generalizing machine with
  | nil => exact holds
  | cons instruction later ih =>
      obtain ⟨first, others⟩ := List.forall_mem_cons.mp apart
      exact ih (holds.effect env first) others

end Machine.Holds

/-- A write of a part of what the memory holds adds the text of that part. -/
theorem writes_of_holds {program : Program} {machine : Machine} {address start count : Nat}
    {octets : List UInt8} (holds : machine.Holds address octets)
    (reaches : ∃ memory, memoryOf program machine = .ok memory) {stream : Stream} {span : Span}
    (ptr_eq : span.ptr.toNat = address + start) (len_eq : span.len.toNat = count)
    (part : start + count ≤ octets.length) {outcome : Except Stop UInt32}
    {appended : List Fragment}
    (writes : Writes program machine stream span outcome appended) :
    outcome = .ok 0 ∧ appended = [⟨stream, Utf8.decode ((octets.drop start).take count)⟩] := by
  obtain ⟨memory, here, held⟩ := holds
  have inside := held.inside
  cases writes with
  | appended found exported _ =>
      obtain rfl : memory = found := Option.some.inj (here.symm.trans exported.2)
      have loaded : (List.range' span.ptr.toNat span.len.toNat).map memory.byteAt =
          (octets.drop start).take count := by
        rw [ptr_eq, len_eq, ← held.load_eq]
        exact memory.load_part (by simpa [Memory.load] using part)
      exact ⟨rfl, by rw [loaded]⟩
  | outside found exported outside =>
      obtain rfl : memory = found := Option.some.inj (here.symm.trans exported.2)
      omega
  | missing absence hidden =>
      obtain ⟨found, reached⟩ := reaches
      exact absurd (memoryOf_eq_ok_iff.mp reached) (hidden found)

/-- While the memory holds a text, a write from one of its boundaries to another adds the slice
between them. -/
theorem Step.emitted_of_slice {env : Env} {behavior : Behavior} {state : State} {step : Step}
    (member : step ∈ behavior.steps env state) {text part : String} {address start stop : Nat}
    (holds : step.before.machine.Holds address (Utf8.encode text))
    (reaches : ∃ memory, memoryOf env.program step.before.machine = .ok memory)
    (slice : Utf8.Slice text start stop part) {stream : Stream} {span : Span}
    (writes : step.instruction = .write stream span) (ptr_eq : span.ptr.toNat = address + start)
    (len_eq : span.len.toNat = stop - start) :
    step.outcome = .ok 0 ∧ step.emitted? = some ⟨stream, part⟩ := by
  have performed := Behavior.eq_perform_of_mem_steps member
  obtain ⟨appended, answers, -, log⟩ := writes_perform env step.before stream span
  rw [← writes, ← performed] at answers log
  have ordered := slice.start_le_stop
  have inside := slice.stop_le
  obtain ⟨outcome, rfl⟩ := writes_of_holds holds reaches ptr_eq len_eq (by omega) answers
  rw [Step.log_after member, slice.decode_eq, List.append_cancel_left_eq] at log
  exact ⟨outcome, Option.toList_eq_singleton_iff.mp log⟩

end Guest

/-! ## What comes back -/

namespace Session

variable {session : Session} {source : String}

/-- Where the allocator lent a span inside the memory, the entry is called on the octets there. -/
theorem Course.exists_entered {octets : List UInt8} {exchange : Exchange}
    (course : Course session octets exchange) (short : octets.length < Exchange.sourceBound)
    {asked : Call} (member : asked ∈ exchange.calls) {length ptr : UInt32}
    (asks : asked.callee = .alloc length) (lent : asked.outcome = .ok ptr) (nonzero : ptr ≠ 0)
    (fits : Span.Fits ⟨ptr, length⟩ asked.left.memorySize) :
    ∃ entered freed,
      exchange.calls =
        [asked, Call.perform session.env (.run ptr length) entered, freed] ∧
      entered.Holds ptr.toNat octets := by
  have first : (session.asked octets).callee = .alloc octets.length.toUInt32 := rfl
  have length_eq := course.row_calls.length_eq_of_alloc member asks
  subst length_eq
  have asked_eq : asked = session.asked octets := by
    cases course with
    | stopped stop answer => grind
    | null answer => grind
    | outside origin memory freed answer nonzero here outside frees =>
        have callee : freed.callee = .free origin octets.length.toUInt32 := frees ▸ rfl
        grind
    | entered origin memory ran freed answer nonzero here fits enters frees =>
        have callee : freed.callee = .free origin octets.length.toUInt32 := frees ▸ rfl
        have callee : ran.callee = .run origin octets.length.toUInt32 := enters ▸ rfl
        grind
  subst asked_eq
  cases course with
  | stopped stop answer => cases answer.symm.trans lent
  | null answer => exact absurd (Except.ok.inj (answer.symm.trans lent)).symm nonzero
  | outside origin memory freed answer _ here outside frees =>
      obtain rfl : origin = ptr := Except.ok.inj (answer.symm.trans lent)
      rw [Machine.memorySize, here] at fits
      exact absurd fits outside
  | entered origin memory ran freed answer _ here inside enters frees =>
      obtain rfl : origin = ptr := Except.ok.inj (answer.symm.trans lent)
      refine ⟨_, freed, by rw [enters], _, rfl, ?_, Memory.load_store ..⟩
      simpa [Span.Fits, Span.stop, toNat_length short] using inside

/-- The output of a run whose entry is called, seen from a step of the entry. -/
theorem fragments_of_entered {exchange : Exchange} {env : Env} {callee : Callee}
    {entered : Machine} {asked freed : Call} {earlier later : List Step} {step : Step}
    (calls : exchange.calls = [asked, Call.perform env callee entered, freed])
    (parts : (Call.perform env callee entered).steps env = earlier ++ step :: later) :
    exchange.fragments = asked.written ++ earlier.filterMap Step.emitted? ++
      (step.emitted?.toList ++ (later.filterMap Step.emitted? ++ freed.written ++
        Exchange.report exchange.outcome)) := by
  have written := Call.written_eq_append parts
  have member : step ∈ (Call.perform env callee entered).steps env := by simp [parts]
  rw [Step.log_after member, Call.log_before parts] at written
  simp [Exchange.fragments, calls, written]

/-- **Texts come back as they went in.**  If the allocator lends a span inside the memory, then the
entry is called with it, and until the entry stores something there, each write of the octets of a
slice of the source, from one of its boundaries to another, succeeds and adds that slice to the
output, on the stream it was written to.  The slice from end to end is the source. -/
theorem slices_come_back (reachable : session.Reachable)
    (nonempty : (Utf8.encode source).length ≠ 0)
    (short : (Utf8.encode source).length < Exchange.sourceBound) {asked : Call}
    (member : asked ∈ (session.exchange source).calls) {length ptr : UInt32}
    (asks : asked.callee = .alloc length) (lent : asked.outcome = .ok ptr) (nonzero : ptr ≠ 0)
    (fits : Span.Fits ⟨ptr, length⟩ asked.left.memorySize) :
    ∃ ran freed,
      (session.exchange source).calls = [asked, ran, freed] ∧ ran.callee = .run ptr length ∧
      length.toNat = (Utf8.encode source).length ∧
      ∀ start stop, start ≤ stop → Utf8.Boundary source start → Utf8.Boundary source stop →
        ∃ part, Utf8.Slice source start stop part ∧
          (start = 0 → stop = (Utf8.encode source).length → part = source) ∧
          ∀ (earlier later : List Step) (step : Step) (stream : Stream) (span : Span),
            ran.steps session.env = earlier ++ step :: later →
            (∀ other ∈ earlier, ¬ other.instruction.StoresIn ptr.toNat length.toNat) →
            step.instruction = .write stream span →
            span.ptr.toNat = ptr.toNat + start → span.len.toNat = stop - start →
            step.outcome = .ok 0 ∧
            step.after.log.toList = step.before.log.toList ++ [⟨stream, part⟩] ∧
            (session.run source).2.host.output = session.host.output.appendAll
              (asked.written ++ earlier.filterMap Step.emitted? ++ ⟨stream, part⟩ ::
                (later.filterMap Step.emitted? ++ freed.written ++
                  Exchange.report (session.run source).1)) := by
  have ready := reachable.ready
  have course := ready.course nonempty short
  have length_eq : length.toNat = (Utf8.encode source).length := by
    rw [course.row_calls.length_eq_of_alloc member asks, toNat_length short]
  obtain ⟨entered, freed, calls, holds⟩ :=
    course.exists_entered short member asks lent nonzero fits
  refine ⟨_, freed, calls, rfl, length_eq, fun start stop ordered first last => ?_⟩
  obtain ⟨part, slice⟩ := Utf8.exists_slice ordered first last
  refine ⟨part, slice, ?_, ?_⟩
  · rintro rfl rfl
    exact slice.eq_of_whole
  · intro earlier later step stream span parts apart writes ptr_eq len_eq
    have inCalls : Call.perform session.env (.run ptr length) entered ∈
        (session.exchange source).calls := by simp [calls]
    have inSteps : step ∈ (Call.perform session.env (.run ptr length) entered).steps session.env :=
      by simp [parts]
    have held : step.before.machine.Holds ptr.toNat (Utf8.encode source) := by
      -- The machine is what the steps before this one made of the one that was entered.
      obtain ⟨_, -, -, machine_eq, -⟩ := Behavior.exists_rest parts
      rw [machine_eq]
      apply holds.foldl_effect
      rw [← length_eq]
      simpa using apart
    obtain ⟨outcome, emitted⟩ := Step.emitted_of_slice inSteps held
      (ready.reaches_of_mem_calls inCalls (Call.before_mem_machines inSteps)) slice writes ptr_eq
      len_eq
    refine ⟨outcome, by rw [Step.log_after inSteps, emitted]; rfl, ?_⟩
    have fragments := fragments_of_entered calls parts
    rw [emitted] at fragments
    exact congrArg session.host.output.appendAll fragments

/-- The guest lends a page of its own for each request, grows once more when it is entered, and
writes three octets from inside its source and then all of it. -/
def quotingSession : Session :=
  ofBodies (.leave (.binary .mul (.growMemory (.word 1)) (.word 65536))) .skip
    (.ofList
      [.write .stdout (.binary .add .frameStart (.growMemory (.word 1))) (.word 3),
        .write .stderr .frameStart .frameLength])

theorem slices_come_back_quotingSession :
    ∃ ran first last, ran ∈ (quotingSession.exchange "¿né?").calls ∧
      first ∈ ran.steps quotingSession.env ∧ last ∈ ran.steps quotingSession.env ∧
      first.instruction = .write .stdout ⟨65538, 3⟩ ∧
      first.after.log.toList = [⟨.stdout, "né"⟩] ∧
      last.instruction = .write .stderr ⟨65536, 6⟩ ∧
      last.after.log.toList = [⟨.stdout, "né"⟩, ⟨.stderr, "¿né?"⟩] ∧
      (quotingSession.run "¿né?").2.host.output =
        quotingSession.host.output.appendAll [⟨.stdout, "né"⟩, ⟨.stderr, "¿né?"⟩] := by
  have reachable : quotingSession.Reachable := reachable_ofBodies ..
  have asking : quotingSession.asked (Utf8.encode "¿né?") ∈
      (quotingSession.exchange "¿né?").calls := List.mem_of_mem_head? rfl
  obtain ⟨ran, freed, calls, -, -, back⟩ :=
    slices_come_back reachable (by decide +kernel) (by decide +kernel) asking rfl rfl (by decide)
      (by decide +kernel)
  have three : (quotingSession.exchange "¿né?").calls.length = 3 := by rw [calls]; rfl
  obtain rfl : (quotingSession.exchange "¿né?").calls.get ⟨1, by decide +kernel⟩ = ran :=
    List.getElem_of_eq calls _
  obtain rfl : (quotingSession.exchange "¿né?").calls.get ⟨2, by decide +kernel⟩ = freed :=
    List.getElem_of_eq calls _
  let ran := (quotingSession.exchange "¿né?").calls.get ⟨1, by decide +kernel⟩
  let steps := ran.steps quotingSession.env
  have instructions : steps.map Step.instruction =
      [.meter 1, .spend 5, .growMemory 1, .write .stdout ⟨65538, 3⟩, .spend 5,
        .write .stderr ⟨65536, 6⟩] := rfl
  have quiet : ∀ other ∈ steps, ¬ other.instruction.StoresIn 65536 6 := by
    have none : ∀ instruction ∈ steps.map Step.instruction, ¬ instruction.StoresIn 65536 6 := by
      simp [instructions, Instruction.StoresIn]
    simpa using none
  have parts (index : Nat) (inside : index < steps.length) :
      steps = steps.take index ++ steps[index] :: steps.drop (index + 1) := by
    rw [← List.drop_eq_getElem_cons inside, List.take_append_drop]
  obtain ⟨part, slice, -, quoted⟩ := back 2 5 (by decide)
    (Utf8.boundary_length_encode "¿" "né?") (Utf8.boundary_length_encode "¿né" "?")
  obtain ⟨-, first, -⟩ := quoted _ _ _ .stdout ⟨65538, 3⟩ (parts 3 (by decide +kernel))
    (fun other member => quiet other (List.mem_of_mem_take member)) rfl rfl rfl
  obtain ⟨whole, -, same, echoed⟩ := back 0 6 (by decide)
    (Utf8.boundary_length_encode "" "¿né?") (Utf8.boundary_length_encode "¿né?" "")
  obtain rfl := same rfl (by decide +kernel)
  obtain ⟨-, last, output⟩ := echoed _ _ _ .stderr ⟨65536, 6⟩ (parts 5 (by decide +kernel))
    (fun other member => quiet other (List.mem_of_mem_take member)) rfl rfl rfl
  obtain rfl : part = "né" := slice.decode_eq.symm.trans (by decide +kernel)
  refine ⟨ran, steps[3], steps[5], List.get_mem .., List.getElem_mem _, List.getElem_mem _, rfl, ?_,
    rfl, ?_, ?_⟩
  · rw [first]
    decide +kernel
  · rw [last]
    decide +kernel
  · rw [output]
    exact congrArg quotingSession.host.output.appendAll (by decide +kernel)

end Session
end SandboxHost
