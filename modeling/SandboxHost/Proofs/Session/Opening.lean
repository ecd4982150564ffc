import SandboxHost.Proofs.Guest.Link
import SandboxHost.Proofs.Session.Confinement
import SandboxHost.Proofs.Session.Journal

/-!
# How an instance is made

An instance is made in stages: the imports are linked, the initial memory and then the initial table
are admitted, the initial data are copied, and the start function runs.  The first stage that fails
tells the failure.  Before the start function nothing of the guest is executed, so nothing is
written; what the start function writes before it fails is kept.
-/

namespace SandboxHost
namespace Guest

/-- A piece of initial data lies inside the initial memory. -/
def Segment.Inside (program : Program) (segment : Segment) : Prop :=
  ∃ type, program.memory = some type ∧
    segment.address.toNat + segment.octets.length ≤ type.minimum * pageSize

/-- The failure that keeps a program from being assembled: that of the first stage that fails. -/
inductive Unassembled (limits : Limits) (program : Program) : LoadFailure → Prop
  | link {failure : LoadFailure} (unlinked : Unlinked program.imports failure) :
      Unassembled limits program failure
  | memory (type : MemoryType) (linked : ∀ wanted ∈ program.imports, wanted ∈ granted)
      (present : program.memory = some type)
      (large : limits.maxMemoryBytes < type.minimum * pageSize) :
      Unassembled limits program (.memoryTooLarge type.minimum)
  | table (elements : Nat) (linked : ∀ wanted ∈ program.imports, wanted ∈ granted)
      (small : ∀ type, program.memory = some type →
        type.minimum * pageSize ≤ limits.maxMemoryBytes)
      (present : program.table = some elements) (large : Limits.maxTableElements < elements) :
      Unassembled limits program (.tableTooLarge elements)
  | data (segment : Segment) (linked : ∀ wanted ∈ program.imports, wanted ∈ granted)
      (admitted : program.Admitted limits) (member : segment ∈ program.data)
      (outside : ¬ segment.Inside program) :
      Unassembled limits program (.stopped (.trap .memoryAccess))

/-! ## Initial sizes -/

section Sizes

variable {limits : Limits} {program : Program} {clock : Int64}

theorem initialMemory_of_small
    (small : ∀ type, program.memory = some type → type.minimum * pageSize ≤ limits.maxMemoryBytes) :
    initialMemory ⟨program, some limits, clock⟩ = .ok program.blank.memory := by
  -- By its outcome, since to evaluate the test in place unfolds the product with the page size.
  cases initial : initialMemory ⟨program, some limits, clock⟩ with
  | ok memory => rw [(initialMemory_eq_ok initial).1]
  | error failure =>
      unfold initialMemory at initial
      simp only at initial
      split at initial
      · cases initial
      · rename_i type present
        split at initial
        · cases initial
        · rename_i refused
          rw [Option.all_some, Limits.allowsMemory_iff] at refused
          exact absurd (small type present) refused

theorem initialMemory_of_large {type : MemoryType} (present : program.memory = some type)
    (large : limits.maxMemoryBytes < type.minimum * pageSize) :
    initialMemory ⟨program, some limits, clock⟩ = .error (.memoryTooLarge type.minimum) := by
  unfold initialMemory
  simp only [present]
  split
  · rename_i allowed
    rw [Option.all_some, Limits.allowsMemory_iff] at allowed
    exact absurd allowed (Nat.not_le.mpr large)
  · rfl

theorem initialTable_of_small
    (small : ∀ elements, program.table = some elements → elements ≤ Limits.maxTableElements) :
    initialTable ⟨program, some limits, clock⟩ = .ok program.blank.table := by
  unfold initialTable Program.blank
  cases present : program.table with
  | none => rfl
  | some elements =>
      have allowed : limits.allowsTable elements = true := decide_eq_true (small elements present)
      simp only [Option.all_some, allowed, if_true]

theorem initialTable_of_large {elements : Nat} (present : program.table = some elements)
    (large : Limits.maxTableElements < elements) :
    initialTable ⟨program, some limits, clock⟩ = .error (.tableTooLarge elements) := by
  unfold initialTable
  have refused : limits.allowsTable elements = false := decide_eq_false (Nat.not_le.mpr large)
  simp only [present, Option.all_some, refused, Bool.false_eq_true, if_false]

end Sizes

/-! ## Initial data -/

/-- The memory of a machine has room for a piece of data. -/
def Machine.RoomFor (machine : Machine) (segment : Segment) : Prop :=
  ∃ memory, machine.memory = some memory ∧
    segment.address.toNat + segment.octets.length ≤ memory.size

section Copy

variable {machine : Machine} {segment : Segment} {segments : List Segment}

/-- A piece inside the memory is copied, and the same pieces as before lie inside. -/
theorem copySegment_of_room (inside : machine.RoomFor segment) :
    ∃ copied, copySegment machine segment = .ok copied ∧
      ∀ other, copied.RoomFor other ↔ machine.RoomFor other := by
  obtain ⟨memory, here, fits⟩ := inside
  have copied : copySegment machine segment = .ok { machine with
      memory := some (memory.store segment.address.toNat segment.octets) } := by
    simp only [copySegment, here, fits, if_true]
  refine ⟨_, copied, fun other => ?_⟩
  simp [Machine.RoomFor, here]

theorem copySegment_of_no_room (outside : ¬ machine.RoomFor segment) :
    copySegment machine segment = .error (.stopped (.trap .memoryAccess)) := by
  unfold copySegment
  cases here : machine.memory with
  | none => rfl
  | some memory =>
      have past : ¬ segment.address.toNat + segment.octets.length ≤ memory.size :=
        fun fits => outside ⟨memory, here, fits⟩
      simp only [past, if_false]

theorem copySegments_of_room (inside : ∀ segment ∈ segments, machine.RoomFor segment) :
    ∃ copied, segments.foldlM copySegment machine = .ok copied := by
  induction segments generalizing machine with
  | nil => exact ⟨machine, rfl⟩
  | cons segment segments ih =>
      obtain ⟨first, others⟩ := List.forall_mem_cons.mp inside
      obtain ⟨copied, performed, same⟩ := copySegment_of_room first
      rw [List.foldlM_cons, performed]
      exact ih fun other member => (same other).mpr (others other member)

theorem copySegments_of_no_room (member : segment ∈ segments)
    (outside : ¬ machine.RoomFor segment) :
    segments.foldlM copySegment machine = .error (.stopped (.trap .memoryAccess)) := by
  induction segments generalizing machine with
  | nil => cases member
  | cons first segments ih =>
      rw [List.foldlM_cons]
      by_cases inside : machine.RoomFor first
      · obtain ⟨copied, performed, same⟩ := copySegment_of_room inside
        rw [performed]
        rcases List.mem_cons.mp member with rfl | later
        · exact absurd inside outside
        · exact ih later (mt (same segment).mp outside)
      · rw [copySegment_of_no_room inside]
        rfl

end Copy

/-! ## Assembly -/

section Assemble

variable {limits : Limits} {program : Program} {host : Host} {clock : Int64}
  {failure : LoadFailure}

/-- Past linking and the admission of its sizes, only the data of a program can be amiss. -/
theorem assemble_of_admitted (linked : link program.imports = .ok ())
    (admitted : program.Admitted limits) :
    assemble ⟨program, some limits, clock⟩ =
      program.data.foldlM copySegment
        { program.blank with fuel := initialFuel ⟨program, some limits, clock⟩ } := by
  simp only [assemble, linked, initialMemory_of_small admitted.memory,
    initialTable_of_small admitted.table]
  rfl

theorem roomFor_blank_iff {fuel : Option Nat} {segment : Segment} :
    ({ program.blank with fuel } : Machine).RoomFor segment ↔ segment.Inside program := by
  cases present : program.memory <;>
    simp [Machine.RoomFor, Segment.Inside, Program.blank, present, Memory.size]

theorem Unassembled.assemble_eq (unassembled : Unassembled limits program failure) :
    assemble ⟨program, some limits, clock⟩ = .error failure := by
  cases unassembled with
  | link unlinked =>
      simp only [assemble, unlinked.link_eq]
      rfl
  | memory type linked present large =>
      simp only [assemble, link_eq_ok_iff.mpr linked, initialMemory_of_large present large]
      rfl
  | table elements linked small present large =>
      simp only [assemble, link_eq_ok_iff.mpr linked, initialMemory_of_small small,
        initialTable_of_large present large]
      rfl
  | data segment linked admitted member outside =>
      rw [assemble_of_admitted (link_eq_ok_iff.mpr linked) admitted]
      exact copySegments_of_no_room member (mt roomFor_blank_iff.mp outside)

/-- A program is assembled, or one of the stages keeps it from that. -/
theorem unassembled_or_assemble (limits : Limits) (program : Program) (clock : Int64) :
    (∃ failure, Unassembled limits program failure) ∨
      ∃ machine, assemble ⟨program, some limits, clock⟩ = .ok machine := by
  cases links : link program.imports with
  | error failure => exact .inl ⟨failure, .link (link_eq_error_iff.mp links)⟩
  | ok passed =>
      have linked := link_eq_ok_iff.mp links
      by_cases small : ∀ type, program.memory = some type →
          type.minimum * pageSize ≤ limits.maxMemoryBytes
      · by_cases fits : ∀ elements, program.table = some elements →
            elements ≤ Limits.maxTableElements
        · have admitted : program.Admitted limits := ⟨small, fits⟩
          by_cases inside : ∀ segment ∈ program.data, segment.Inside program
          · right
            rw [assemble_of_admitted links admitted]
            exact copySegments_of_room fun segment member =>
              roomFor_blank_iff.mpr (inside segment member)
          · simp only [Classical.not_forall] at inside
            obtain ⟨segment, member, outside⟩ := inside
            exact .inl ⟨_, .data segment linked admitted member outside⟩
        · simp only [Classical.not_forall, Nat.not_le] at fits
          obtain ⟨elements, present, large⟩ := fits
          exact .inl ⟨_, .table elements linked small present large⟩
      · simp only [Classical.not_forall, Nat.not_le] at small
        obtain ⟨type, present, large⟩ := small
        exact .inl ⟨_, .memory type linked present large⟩

/-- Before the start function it is the first failing stage that tells the failure. -/
theorem assemble_eq_error_iff :
    assemble ⟨program, some limits, clock⟩ = .error failure ↔
      Unassembled limits program failure := by
  refine ⟨fun failed => ?_, Unassembled.assemble_eq⟩
  rcases unassembled_or_assemble limits program clock with ⟨cause, unassembled⟩ | ⟨machine, done⟩
  · have same : assemble ⟨program, some limits, clock⟩ = .error cause := unassembled.assemble_eq
    rw [failed] at same
    obtain rfl := Except.error.inj same
    exact unassembled
  · rw [failed] at done
    cases done

/-- Only linking tells of an import. -/
theorem Unassembled.unlinked (unassembled : Unassembled limits program failure)
    (told : failure.import?.isSome) : Unlinked program.imports failure := by
  cases unassembled with
  | link unlinked => exact unlinked
  | memory | table | data => cases told

theorem Unlinked.isSome_import? {imports : List Import} (unlinked : Unlinked imports failure) :
    failure.import?.isSome := by
  obtain ⟨wanted, -, -, told⟩ := unlinked.exists_import
  rw [told]
  rfl

end Assemble

/-! ## Making -/

section Make

variable {limits : Limits} {program : Program} {host : Host} {failure : LoadFailure}
  {machine : Machine}

/-- A program that is not assembled comes to nothing, and nothing of it is called. -/
theorem make_of_unassembled (unassembled : Unassembled limits program failure) :
    Instance.make limits program host = (.error failure, { host with limits }) ∧
      bootCalls ⟨program, some limits, host.clock⟩ = [] := by
  have failed : assemble ⟨program, some limits, host.clock⟩ = .error failure :=
    unassembled.assemble_eq
  simp only [Instance.make, boot, bootCalls, failed]
  exact ⟨rfl, trivial⟩

theorem make_of_no_start
    (assembled : assemble ⟨program, some limits, host.clock⟩ = .ok machine)
    (absent : program.start = none) :
    Instance.make limits program host =
        (.ok ⟨program, machine, { host with limits }⟩, { host with limits }) ∧
      bootCalls ⟨program, some limits, host.clock⟩ = [] := by
  simp only [Instance.make, boot, bootCalls, assembled, absent, Option.isNone_none, if_true]
  exact ⟨rfl, trivial⟩

theorem boot_of_start {env : Env} (assembled : assemble env = .ok machine) {body : Stmt}
    (present : env.program.start = some body) :
    boot env =
        (match (Call.perform env .start machine).outcome with
          | .ok _ => .ok (Call.perform env .start machine).left
          | .error stop => .error (.stopped stop), (Call.perform env .start machine).entries env) ∧
      bootCalls env = [Call.perform env .start machine] := by
  rw [← Call.written_eq_entries (genuine_perform env .start machine)]
  simp only [boot, bootCalls, assembled, present, Option.isNone_some, Bool.false_eq_true, if_false]
  cases (Call.perform env .start machine).outcome <;> exact ⟨rfl, trivial⟩

/-- What becomes of a program that is assembled is what its start function makes of it, and what
that function wrote is kept even if it stopped. -/
theorem make_of_start (assembled : assemble ⟨program, some limits, host.clock⟩ = .ok machine)
    {body : Stmt} (present : program.start = some body) :
    let env : Env := ⟨program, some limits, host.clock⟩
    let call := Call.perform env .start machine
    let left := { host with limits, output := host.output.appendAll (call.entries env) }
    Instance.make limits program host =
        (match call.outcome with
          | .ok _ => .ok ⟨program, call.left, left⟩
          | .error stop => .error (.stopped stop), left) ∧
      bootCalls env = [call] := by
  intro env call left
  obtain ⟨booted, called⟩ := boot_of_start assembled present
  refine ⟨?_, called⟩
  unfold Instance.make
  dsimp only
  rw [booted]
  cases (Call.perform ⟨program, some limits, host.clock⟩ .start machine).outcome <;> rfl

/-- A failure that tells of an import is one of linking. -/
theorem unlinked_of_make (failed : (Instance.make limits program host).1 = .error failure)
    (told : failure.import?.isSome) : Unlinked program.imports failure := by
  cases assembled : assemble ⟨program, some limits, host.clock⟩ with
  | error cause =>
      have unassembled := assemble_eq_error_iff.mp assembled
      rw [(make_of_unassembled unassembled).1] at failed
      obtain rfl := Except.error.inj failed
      exact unassembled.unlinked told
  | ok machine =>
      cases start : program.start with
      | none =>
          rw [(make_of_no_start assembled start).1] at failed
          cases failed
      | some body =>
          rw [(make_of_start assembled start).1] at failed
          dsimp only at failed
          split at failed
          · cases failed
          · obtain rfl := Except.error.inj failed
            cases told

theorem make_of_unlinked (unlinked : Unlinked program.imports failure) :
    (Instance.make limits program host).1 = .error failure := by
  have unassembled : Unassembled limits program failure := .link unlinked
  rw [(make_of_unassembled unassembled).1]

/-- **Making an instance goes by stages.**  A program gets past linking exactly if it imports nothing
but what is granted, and else the failure names the import that the order of the checks singles out.
A failure before the start function leaves no trace, and only the start function adds to the output.
-/
theorem make_by_stages (limits : Limits) (program : Program) (host : Host) :
    let env : Env := ⟨program, some limits, host.clock⟩
    let made := Instance.make limits program host
    ((∀ failure, made.1 = .error failure → failure.import? = none) ↔
      ∀ wanted ∈ program.imports, wanted ∈ granted) ∧
    (∀ failure, Unlinked program.imports failure ↔
      made.1 = .error failure ∧ failure.import?.isSome) ∧
    (∀ failure, Unlinked program.imports failure →
      ∃ wanted ∈ program.imports, wanted ∉ granted ∧
        ∃ front back, (Fault.notLoaded failure).message =
          front ++ (wanted.source ++ "::" ++ wanted.name) ++ back) ∧
    (∀ failure, Unassembled limits program failure →
      made = (.error failure, { host with limits }) ∧ bootCalls env = []) ∧
    ((∀ failure, ¬ Unassembled limits program failure) →
      ∃ machine, assemble env = .ok machine ∧
        (program.start = none →
          made = (.ok ⟨program, machine, { host with limits }⟩, { host with limits }) ∧
            bootCalls env = []) ∧
        ∀ body, program.start = some body →
          let call := Call.perform env .start machine
          let left := { host with limits, output := host.output.appendAll (call.entries env) }
          made =
              (match call.outcome with
                | .ok _ => .ok ⟨program, call.left, left⟩
                | .error stop => .error (.stopped stop), left) ∧
            bootCalls env = [call]) := by
  intro env made
  refine ⟨?_, ?_, ?_, fun failure => make_of_unassembled, ?_⟩
  · rw [← link_eq_ok_iff]
    constructor
    · intro untold
      cases links : link program.imports with
      | ok passed => rfl
      | error failure =>
          have unlinked := link_eq_error_iff.mp links
          have told := unlinked.isSome_import?
          rw [untold failure (make_of_unlinked unlinked)] at told
          cases told
    · intro linked failure failed
      cases told : failure.import? with
      | none => rfl
      | some name =>
          have unlinked := unlinked_of_make failed (Option.isSome_of_eq_some told)
          rw [unlinked.link_eq] at linked
          cases linked
  · intro failure
    constructor
    · intro unlinked
      exact ⟨make_of_unlinked unlinked, unlinked.isSome_import?⟩
    · rintro ⟨failed, told⟩
      exact unlinked_of_make failed told
  · intro failure unlinked
    obtain ⟨wanted, member, unfit, told⟩ := unlinked.exists_import
    exact ⟨wanted, member, unfit, LoadFailure.exists_message_eq told⟩
  · intro sound
    cases assembled : assemble env with
    | error failure => exact absurd (assemble_eq_error_iff.mp assembled) (sound failure)
    | ok machine =>
        exact ⟨machine, rfl, make_of_no_start assembled, fun body => make_of_start assembled⟩

end Make

/-- A program in which everything is amiss: an import of another type, an unknown import, too large
a memory and table, and data outside of the memory. -/
def crowdedProgram : Program where
  memory := some { minimum := 2 }
  table := some 10001
  data := [⟨131072, [0]⟩]
  imports :=
    [⟨"env", "writeStdout", .function ⟨[.i32], []⟩⟩, ⟨"wasi", "fd_write", .table⟩,
      ⟨"env", "exit", .global⟩]

/-- A program whose start function gives up after a greeting. -/
def abortiveProgram : Program where
  data := [⟨0, [104, 105]⟩]
  start := some (.seq (.write .stdout (.word 0) (.word 2)) .abort)

theorem make_by_stages_crowdedProgram :
    (Instance.make { maxMemoryBytes := 65536 } crowdedProgram { output := .new .merged }).1 =
      .error (.unknownImport "wasi" "fd_write") ∧
    (Instance.make {} abortiveProgram { output := .new .merged }).2.output =
      ⟨.merged, "hi", ""⟩ := by
  constructor
  · have stages :=
      make_by_stages { maxMemoryBytes := 65536 } crowdedProgram { output := .new .merged }
    refine ((stages.2.1 _).mp ?_).1
    exact .unknown [⟨"env", "writeStdout", .function ⟨[.i32], []⟩⟩] ⟨"wasi", "fd_write", .table⟩
      [⟨"env", "exit", .global⟩] rfl (by decide) (by decide)
  · have stages := make_by_stages {} abortiveProgram { output := .new .merged }
    have ready : assemble ⟨abortiveProgram, some {}, 0⟩ =
        .ok { memory := some (({ pages := 1 } : Memory).store 0 [104, 105]), globals := [],
              table := none } := rfl
    have sound : ∀ failure, ¬ Unassembled {} abortiveProgram failure := by
      intro failure unassembled
      have failed : assemble ⟨abortiveProgram, some {}, 0⟩ = .error failure :=
        unassembled.assemble_eq
      rw [ready] at failed
      cases failed
    obtain ⟨machine, assembled, -, started⟩ := stages.2.2.2.2 sound
    obtain rfl := Except.ok.inj (ready.symm.trans assembled)
    rw [(started _ rfl).1]
    decide +kernel

end Guest
end SandboxHost
