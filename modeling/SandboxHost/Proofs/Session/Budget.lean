import SandboxHost.Proofs.Session.Faults

/-!
# Budgets

Where runs have a budget, the allocator and the release function begin with all of it in every run,
and the entry with what the allocator left.  Before the first run there is no fuel at all, so that
no statement of a start function is executed.
-/

namespace SandboxHost

open Guest

namespace Guest

/-- An instruction takes something off the fuel, or nothing. -/
theorem Instruction.fuel_effect (env : Env) (machine : Machine) (instruction : Instruction) :
    ∃ cost, (instruction.effect env machine).fuel = machine.fuel.map (· - cost) := by
  have still : machine.fuel = machine.fuel.map (· - 0) := by simp
  cases instruction with
  | spend cost => exact ⟨cost, rfl⟩
  | meter cost => exact ⟨cost, rfl⟩
  | load address count =>
      refine ⟨0, ?_⟩
      rw [← still]
      simp only [effect, perform]
      cases machine.load address count <;> rfl
  | store address octets =>
      refine ⟨0, ?_⟩
      rw [← still]
      simp only [effect, perform, Machine.store]
      cases here : machine.memory with
      | none => rfl
      | some memory => by_cases fits : address.toNat + octets.length ≤ memory.size <;> simp [fits]
  | growMemory extra =>
      refine ⟨0, ?_⟩
      rw [← still]
      simp only [effect, perform, Machine.growMemory]
      split
      · rfl
      · split <;> rfl
  | growTable extra =>
      refine ⟨0, ?_⟩
      rw [← still]
      simp only [effect, perform, Machine.growTable]
      split
      · rfl
      · split <;> rfl
  | write stream span =>
      refine ⟨0, ?_⟩
      rw [← still, Instruction.effect_of_isWrite rfl]
  | _ => exact ⟨0, still⟩

/-- A call only uses up fuel. -/
theorem Call.fuel_left {env : Env} {call : Call} (genuine : call.Genuine env) :
    ∃ cost, call.left.fuel = call.entered.fuel.map (· - cost) := by
  have passage : Passage (fun before after : Machine =>
      ∃ cost, after.fuel = before.fuel.map (· - cost)) call.entered (call.machines env)
      call.left := by
    apply Call.passage genuine
    · exact fun machine => ⟨0, by simp⟩
    · rintro first second third ⟨early, second_eq⟩ ⟨late, third_eq⟩
      refine ⟨early + late, ?_⟩
      rw [third_eq, second_eq, Option.map_map]
      congr 1
      funext fuel
      exact Nat.sub_sub fuel early late
    · exact Instruction.fuel_effect env
    · exact ⟨0, by simp⟩
  exact passage.reaches call.entered List.mem_cons_self

/-! ## Start functions -/

/-- Every call begins by metering its entry. -/
theorem Program.behavior_eq_step (program : Program) (callee : Callee) :
    ∃ next, program.behavior callee = .step (.meter entryCost) next :=
  ⟨_, rfl⟩

/-- A call without any fuel is over before its first statement. -/
theorem Call.perform_of_no_fuel (env : Env) (callee : Callee) {machine : Machine}
    (empty : machine.fuel = some 0) :
    Call.perform env callee machine = ⟨callee, machine, .error (.trap .fuel), machine, []⟩ ∧
      (Call.perform env callee machine).steps env =
        [Step.perform env { machine } (.meter entryCost)] := by
  obtain ⟨next, behavior_eq⟩ := env.program.behavior_eq_step callee
  have spent : machine.spend entryCost = machine := by
    cases machine
    simp_all [Machine.spend]
  have performed : (Instruction.meter entryCost).perform env { machine } =
      (.error (.trap .fuel), { machine }) := by
    simp [Instruction.perform, spent, empty]
  constructor
  · simp [Call.perform, behavior_eq, Behavior.run, performed]
  · simp [Call.steps, Call.perform, behavior_eq, Behavior.steps, performed]

end Guest

namespace Session

variable {session : Session} {source : String}

/-- How the calls of a run are provided with fuel. -/
structure Budgeted (session : Session) (fuel : Nat) (source : String) : Prop where
  genuine : ∀ call ∈ (session.exchange source).calls, call.Genuine session.env
  /-- These calls are what the run does to the guest. -/
  recorded : session.Recorded source
  /-- A source of a length that can be told is announced to the allocator, which has all the
  fuel. -/
  asked : (Utf8.encode source).length < Exchange.sourceBound →
    ∃ asked later, (session.exchange source).calls = asked :: later ∧
      asked.callee = .alloc (Utf8.encode source).length.toUInt32 ∧ asked.entered.fuel = some fuel
  silent : Exchange.sourceBound ≤ (Utf8.encode source).length →
    (session.exchange source).calls = []
  /-- Whatever the allocator and the entry used up, the release function has all the fuel. -/
  released : ∀ freed ∈ (session.exchange source).calls, ∀ ptr length,
    freed.callee = .free ptr length → freed.entered.fuel = some fuel
  /-- The entry has what the allocator left, and the release is the call with all the fuel on the
  machine that the entry left. -/
  entered : ∀ ran ∈ (session.exchange source).calls, ∀ ptr length,
    ran.callee = .run ptr length →
      ∃ asked freed, (session.exchange source).calls = [asked, ran, freed] ∧
        ran.entered.fuel = asked.left.fuel ∧
        freed = Call.perform session.env (.free ptr length) { ran.left with fuel := some fuel }
  /-- An entry that runs out of fuel is stopped, and the run ends with that. -/
  exhausted : ∀ ran ∈ (session.exchange source).calls, ∀ ptr length,
    ran.callee = .run ptr length →
      (∀ step ∈ ran.steps session.env, step.Exhausts → ran.outcome = .error (.trap .fuel)) ∧
      (ran.outcome = .error (.trap .fuel) →
        (session.run source).1 = .error (.trapped (.trap .fuel)))
  /-- A call leaves no more fuel than it had. -/
  spent : ∀ call ∈ (session.exchange source).calls, ∀ before, call.entered.fuel = some before →
    ∃ left ≤ before, call.left.fuel = some left

theorem Ready.budgeted (ready : session.Ready) {fuel : Nat}
    (budget : session.host.limits.fuelPerRun = some fuel)
    (nonempty : (Utf8.encode source).length ≠ 0) : session.Budgeted fuel source where
  genuine := fun _ => ready.genuine_of_mem_calls
  recorded := ready.recorded source
  asked := by
    intro short
    have fueled : (session.asked (Utf8.encode source)).entered.fuel = some fuel := budget
    have course := ready.course nonempty short
    generalize session.exchange source = exchange at course ⊢
    cases course with
    | stopped stop answer => exact ⟨_, [], rfl, rfl, fueled⟩
    | null answer => exact ⟨_, [], rfl, rfl, fueled⟩
    | outside ptr memory freed answer nonzero here outside frees =>
        exact ⟨_, [freed], rfl, rfl, fueled⟩
    | entered ptr memory ran freed answer nonzero here fits enters frees =>
        exact ⟨_, [ran, freed], rfl, rfl, fueled⟩
  silent := fun long => congrArg Exchange.calls (exchange_of_long long)
  released := by
    intro freed member ptr length frees
    rcases ready.still_or_course source with ⟨outcome, still⟩ | course
    · simp [still] at member
    · obtain ⟨machine, rfl⟩ := course.eq_of_free member frees
      exact budget
  entered := by
    intro ran member ptr length enters
    rcases ready.still_or_course source with ⟨outcome, still⟩ | course
    · simp [still] at member
    · obtain ⟨memory, calls, entered⟩ := course.eq_of_run member enters
      refine ⟨_, _, calls, by rw [entered], ?_⟩
      rw [refueled, budget]
  exhausted := by
    intro ran member ptr length enters
    constructor
    · intro step found exhausts
      exact Call.outcome_of_exhausts (ready.genuine_of_mem_calls member) found exhausts
    · intro ended
      apply ready.outcome_of_fails member (.trapped enters ended)
      simp [enters]
  spent := by
    intro call member before before_eq
    obtain ⟨cost, left_eq⟩ := Call.fuel_left (ready.genuine_of_mem_calls member)
    rw [before_eq] at left_eq
    exact ⟨before - cost, Nat.sub_le before cost, left_eq⟩

section

variable {limits : Limits} {program : Program} {host : Host} {fuel : Nat} {machine : Machine}

theorem fuel_eq_zero_of_assemble (budget : limits.fuelPerRun = some fuel)
    (assembled : assemble ⟨program, some limits, host.clock⟩ = .ok machine) :
    machine.fuel = some 0 := by
  rw [fuel_of_assemble assembled]
  simp [initialFuel, budget]

/-- A start function of a metered program stops at its entry. -/
theorem make_of_metered (budget : limits.fuelPerRun = some fuel)
    (assembled : assemble ⟨program, some limits, host.clock⟩ = .ok machine) :
    Instance.make limits program host =
      (if program.start.isSome then .error (.stopped (.trap .fuel))
        else .ok ⟨program, machine, { host with limits }⟩, { host with limits }) := by
  have empty := fuel_eq_zero_of_assemble budget assembled
  have start := (Call.perform_of_no_fuel ⟨program, some limits, host.clock⟩ .start empty).1
  cases present : program.start with
  | none => simp [Instance.make, boot, assembled, present, Except.map, Host.emitAll,
      Transcript.appendAll]
  | some body => simp [Instance.make, boot, assembled, present, start, Except.map, Host.emitAll,
      Transcript.appendAll]

end

/-- **Every run has the budget that the limits give.**  What was left of earlier runs makes no
difference, and nothing is executed before the first run: a start function is stopped before its
first statement, and without one the machine begins with no fuel. -/
theorem budget_of_run {limits : Limits} {fuel : Nat} (budget : limits.fuelPerRun = some fuel)
    (program : Program) (host : Host) :
    (∀ fresh : Session, fresh.OpenedWith limits program host → ∀ deeds source,
      (Utf8.encode source).length ≠ 0 → (fresh.after deeds).Budgeted fuel source) ∧
    ∀ machine, assemble ⟨program, some limits, host.clock⟩ = .ok machine →
      machine.fuel = some 0 ∧
      (program.start.isSome →
        Instance.make limits program host =
          (.error (.stopped (.trap .fuel)), { host with limits }) ∧
        (Call.perform ⟨program, some limits, host.clock⟩ .start machine).steps
            ⟨program, some limits, host.clock⟩ =
          [Step.perform ⟨program, some limits, host.clock⟩ { machine } (.meter entryCost)]) ∧
      (program.start.isNone →
        Instance.make limits program host =
          (.ok ⟨program, machine, { host with limits }⟩, { host with limits })) := by
  constructor
  · intro fresh opened deeds source nonempty
    have env_eq : (fresh.after deeds).env = ⟨program, some limits, host.clock⟩ := by
      rw [env_after, opened.env_eq]
    have limits_eq := Option.some.inj (congrArg Env.limits env_eq)
    apply (opened.ready.after deeds).budgeted _ nonempty
    rw [limits_eq, budget]
  · intro machine assembled
    have empty := fuel_eq_zero_of_assemble budget assembled
    have made := make_of_metered budget assembled
    refine ⟨empty, fun present => ⟨?_, ?_⟩, fun absent => ?_⟩
    · rw [made, if_pos present]
    · exact (Call.perform_of_no_fuel _ .start empty).2
    · rw [made, if_neg]
      simpa using absent

/-- The entry never comes to an end by itself. -/
def tirelessProgram : Program where
  alloc := .leave (.word 1024)
  run := .loop (.word 1) .skip

/-- A session on `tirelessProgram` with a budget of 100 units, just opened. -/
def tirelessSession : Session where
  program := tirelessProgram
  machine := { memory := some { pages := 1 }, globals := [], table := none, fuel := some 0 }
  host := { output := .new .merged, limits := { fuelPerRun := some 100 } }

theorem budget_of_run_tirelessSession :
    (∃ asked ran freed,
      ((tirelessSession.after [.run "a", .clear]).exchange "b").calls = [asked, ran, freed] ∧
      ran.left.fuel = some 0 ∧ freed.entered.fuel = some 100) ∧
    ((tirelessSession.after [.run "a", .clear]).run "b").1 = .error (.trapped (.trap .fuel)) ∧
    Instance.make { fuelPerRun := some 100 } { tirelessProgram with start := some .skip }
        { output := .new .merged } =
      (.error (.stopped (.trap .fuel)),
        { output := .new .merged, limits := { fuelPerRun := some 100 } }) := by
  have budget : ({ fuelPerRun := some 100 } : Limits).fuelPerRun = some 100 := rfl
  have opened : tirelessSession.OpenedWith { fuelPerRun := some 100 } tirelessProgram
      { output := .new .merged } := ⟨_, _, rfl, rfl⟩
  obtain ⟨each, -⟩ := budget_of_run budget tirelessProgram { output := .new .merged }
  obtain ⟨-, start⟩ := budget_of_run budget { tirelessProgram with start := some .skip }
    { output := .new .merged }
  have budgeted := each tirelessSession opened [.run "a", .clear] "b" (by decide +kernel)
  obtain ⟨ran, member, enters⟩ :
      ∃ ran ∈ ((tirelessSession.after [.run "a", .clear]).exchange "b").calls,
        ran.callee = .run 1024 1 :=
    ⟨_, List.mem_cons_of_mem _ List.mem_cons_self, rfl⟩
  obtain ⟨asked, freed, calls, -, freed_eq⟩ := budgeted.entered ran member 1024 1 enters
  have ends : ((tirelessSession.after [.run "a", .clear]).exchange "b").calls.map Call.outcome =
      [.ok 1024, .error (.trap .fuel), .ok 0] := rfl
  have leaves : (((tirelessSession.after [.run "a", .clear]).exchange "b").calls.map
      fun call => call.left.fuel) = [some 94, some 0, some 99] := by decide +kernel
  rw [calls] at ends leaves
  simp only [List.map_cons, List.cons.injEq] at ends leaves
  have frees : freed.callee = .free 1024 1 := congrArg Call.callee freed_eq
  refine ⟨⟨asked, ran, freed, calls, leaves.2.1, ?_⟩, ?_, ?_⟩
  · exact budgeted.released freed (by simp [calls]) 1024 1 frees
  · exact (budgeted.exhausted ran member 1024 1 enters).2 ends.2.1
  · exact ((start _ rfl).2.1 rfl).1

end Session
end SandboxHost
