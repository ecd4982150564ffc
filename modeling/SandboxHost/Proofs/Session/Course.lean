import SandboxHost.Proofs.Session.History

/-!
# The courses of a run

A run of a source that is neither empty nor too long takes one of four courses: the allocator stops,
the allocator has nothing to give, what it gives lies outside the memory, or the entry is called.
Each course fixes the calls, the outcome and the machine afterwards, so that what a run does is
settled by cases.  The faults that a budget or a missing memory would cause occur in none of them.
-/

namespace SandboxHost

open Guest

namespace Session

/-- A machine with the budget of a run. -/
def refueled (session : Session) (machine : Machine) : Machine :=
  { machine with fuel := session.host.limits.fuelPerRun }

/-- The call of the allocator with which a run begins. -/
def asked (session : Session) (octets : List UInt8) : Call :=
  Call.perform session.env (.alloc octets.length.toUInt32) (session.refueled session.machine)

/-- The ways that a run of some octets can go. -/
inductive Course (session : Session) (octets : List UInt8) : Exchange → Prop
  /-- The allocator stops early. -/
  | stopped (stop : Stop) (answer : (session.asked octets).outcome = .error stop) :
      Course session octets
        { calls := [session.asked octets]
          loan := none
          outcome := .error (.helperStopped .memAlloc stop)
          machine := (session.asked octets).left }
  /-- The allocator gives nothing. -/
  | null (answer : (session.asked octets).outcome = .ok 0) :
      Course session octets
        { calls := [session.asked octets]
          loan := none
          outcome := .error (.outOfMemory octets.length.toUInt32)
          machine := (session.asked octets).left }
  /-- What the allocator gives does not lie in the memory. -/
  | outside (ptr : UInt32) (memory : Memory) (freed : Call)
      (answer : (session.asked octets).outcome = .ok ptr) (nonzero : ptr ≠ 0)
      (here : (session.asked octets).left.memory = some memory)
      (outside : ¬ Span.Fits ⟨ptr, octets.length.toUInt32⟩ memory.size)
      (frees : freed = Call.perform session.env (.free ptr octets.length.toUInt32)
        (session.refueled (session.asked octets).left)) :
      Course session octets
        { calls := [session.asked octets, freed]
          loan := some ⟨⟨ptr, octets.length.toUInt32⟩⟩
          outcome :=
            .error (.refused (.outOfBounds ⟨ptr, octets.length.toUInt32⟩ memory.size))
          machine := freed.left }
  /-- The octets are copied and the entry is called. -/
  | entered (ptr : UInt32) (memory : Memory) (ran freed : Call)
      (answer : (session.asked octets).outcome = .ok ptr) (nonzero : ptr ≠ 0)
      (here : (session.asked octets).left.memory = some memory)
      (fits : Span.Fits ⟨ptr, octets.length.toUInt32⟩ memory.size)
      (enters : ran = Call.perform session.env (.run ptr octets.length.toUInt32)
        { (session.asked octets).left with memory := some (memory.store ptr.toNat octets) })
      (frees : freed = Call.perform session.env (.free ptr octets.length.toUInt32)
        (session.refueled ran.left)) :
      Course session octets
        { calls := [session.asked octets, ran, freed]
          loan := some ⟨⟨ptr, octets.length.toUInt32⟩⟩
          outcome :=
            (ran.outcome.mapError Fault.ofEntry).map (fun _ => ()) *> Loan.ofRelease freed.outcome
          machine := freed.left }

variable {session : Session}

theorem refuel_eq {machine : Machine}
    (metered : machine.equipment.metered = session.host.limits.fuelPerRun.isSome) :
    Exchange.refuel session.host.limits.fuelPerRun machine = .ok (session.refueled machine) := by
  unfold Exchange.refuel refueled
  rcases machine with ⟨memory, globals, table, fuel⟩
  cases budget : session.host.limits.fuelPerRun with
  | none =>
      simp only [Machine.equipment, budget, Option.isSome_none, Option.isSome_eq_false_iff,
        Option.isNone_iff_eq_none] at metered
      simp [metered]
  | some units =>
      simp only [Machine.equipment, budget, Option.isSome_some] at metered
      obtain ⟨left, rfl⟩ := Option.isSome_iff_exists.mp metered
      rfl

theorem equipment_refueled {machine : Machine}
    (metered : machine.equipment.metered = session.host.limits.fuelPerRun.isSome) :
    (session.refueled machine).equipment = machine.equipment := by
  simp only [Machine.equipment] at metered
  simp [refueled, Machine.equipment, metered]

theorem Ready.equipment_asked (ready : session.Ready) (octets : List UInt8) :
    (session.asked octets).left.equipment = session.machine.equipment := by
  have left := Call.equipment_left (genuine_perform session.env
    (.alloc octets.length.toUInt32) (session.refueled session.machine))
  exact left.trans (equipment_refueled ready.metered)

/-- Octets are copied into a span exactly if it lies in the memory as it is now. -/
theorem stage_eq {machine : Machine} {memory : Memory}
    (reached : memoryOf session.program machine = .ok memory) (loan : Loan)
    (octets : List UInt8) :
    Exchange.stage session.env machine loan octets =
      if Span.Fits ⟨loan.span.ptr, octets.length.toUInt32⟩ memory.size then
        .ok { machine with memory := some (memory.store loan.span.ptr.toNat octets) }
      else .error (.outOfBounds ⟨loan.span.ptr, octets.length.toUInt32⟩ memory.size) := by
  simp only [Exchange.stage, show session.env.program = session.program from rfl, reached,
    Memory.write, bind, Except.bind]
  split
  · rename_i fits
    split at fits
    · simp at fits
    · rename_i outside
      rw [if_neg outside, ← Except.error.inj fits]
  · rename_i stored fits
    split at fits
    · rename_i inside
      rw [if_pos inside, ← Except.ok.inj fits]
      rfl
    · simp at fits

/-- A loan is released with a fresh budget, and an earlier fault comes first. -/
theorem conclude_eq {machine : Machine}
    (metered : machine.equipment.metered = session.host.limits.fuelPerRun.isSome)
    (calls : List Call) (loan : Loan) (outcome : Except Fault Unit) :
    Exchange.conclude session.env session.host.limits.fuelPerRun calls machine loan outcome =
      let freed := Call.perform session.env (.free loan.span.ptr loan.span.len)
        (session.refueled machine)
      { calls := calls ++ [freed]
        loan := some loan
        outcome := outcome *> Loan.ofRelease freed.outcome
        machine := freed.left } := by
  simp only [Exchange.conclude, refuel_eq metered]
  cases outcome <;> rfl

/-- A run begins with the call of the allocator. -/
theorem Ready.deliver_eq (ready : session.Ready) (octets : List UInt8) :
    Exchange.deliver session.env session.host.limits.fuelPerRun session.machine octets =
      match Loan.ofOutcome octets.length.toUInt32 (session.asked octets).outcome with
      | .error fault =>
          ⟨[session.asked octets], none, .error fault, (session.asked octets).left⟩
      | .ok loan =>
          match Exchange.stage session.env (session.asked octets).left loan octets with
          | .error refusal =>
              Exchange.conclude session.env session.host.limits.fuelPerRun [session.asked octets]
                (session.asked octets).left loan (.error (.refused refusal))
          | .ok staged =>
              let ran := Call.perform session.env (.run loan.span.ptr loan.span.len) staged
              Exchange.conclude session.env session.host.limits.fuelPerRun
                [session.asked octets, ran] ran.left loan
                ((ran.outcome.mapError Fault.ofEntry).map fun _ => ()) := by
  simp only [Exchange.deliver, refuel_eq ready.metered]
  rfl

/-- Every run of some octets takes one of the courses. -/
theorem Ready.course_deliver (ready : session.Ready) (octets : List UInt8) :
    Course session octets
      (Exchange.deliver session.env session.host.limits.fuelPerRun session.machine octets) := by
  obtain ⟨_, reached⟩ := ready.reaches
  have same := ready.equipment_asked octets
  have metered : (session.asked octets).left.equipment.metered =
      session.host.limits.fuelPerRun.isSome := by
    rw [same]
    exact ready.metered
  obtain ⟨memory, found, here⟩ := memoryOf_of_equipment reached same
  rw [ready.deliver_eq]
  cases answer : (session.asked octets).outcome with
  | error stop => exact .stopped stop answer
  | ok ptr =>
      by_cases zero : ptr = 0
      · subst zero
        exact .null answer
      simp only [Loan.ofOutcome, if_neg zero, stage_eq found]
      by_cases fits : Span.Fits ⟨ptr, octets.length.toUInt32⟩ memory.size
      · simp only [if_pos fits]
        have equipped : ({ (session.asked octets).left with
            memory := some (memory.store ptr.toNat octets) } : Machine).equipment =
            (session.asked octets).left.equipment := by
          simp [Machine.equipment, here]
        rw [conclude_eq]
        · exact .entered ptr memory _ _ answer zero here fits rfl rfl
        · rw [Call.equipment_left (genuine_perform ..)]
          exact (congrArg Equipment.metered equipped).trans metered
      · simp only [if_neg fits]
        rw [conclude_eq metered]
        exact .outside ptr memory _ answer zero here fits rfl

/-! ## Runs -/

/-- The length of a source that is not too long travels without loss. -/
theorem toNat_length {octets : List UInt8} (short : octets.length < Exchange.sourceBound) :
    octets.length.toUInt32.toNat = octets.length := by
  have bound : octets.length < 2 ^ 32 := Nat.lt_trans short (by decide)
  simpa using Nat.mod_eq_of_lt bound

theorem exchange_of_empty {source : String} (empty : (Utf8.encode source).length = 0) :
    session.exchange source = ⟨[], none, .ok (), session.machine⟩ := by
  simp only [exchange, Exchange.run, List.length_eq_zero_iff.mp empty]
  rfl

theorem exchange_of_long {source : String}
    (long : Exchange.sourceBound ≤ (Utf8.encode source).length) :
    session.exchange source =
      ⟨[], none, .error (.sourceTooLarge (Utf8.encode source).length), session.machine⟩ := by
  have nonempty : (Utf8.encode source).isEmpty = false := by
    cases octets : Utf8.encode source with
    | nil =>
        rw [octets] at long
        exact absurd long (by decide)
    | cons octet octets => rfl
  simp [exchange, Exchange.run, nonempty, long]

theorem Ready.course (ready : session.Ready) {source : String}
    (nonempty : (Utf8.encode source).length ≠ 0)
    (short : (Utf8.encode source).length < Exchange.sourceBound) :
    Course session (Utf8.encode source) (session.exchange source) := by
  have isEmpty : (Utf8.encode source).isEmpty = false := by
    cases octets : Utf8.encode source with
    | nil => simp [octets] at nonempty
    | cons octet octets => rfl
  have deliver : session.exchange source =
      Exchange.deliver session.env session.host.limits.fuelPerRun session.machine
        (Utf8.encode source) := by
    simp [exchange, Exchange.run, isEmpty, Nat.not_le.mpr short]
  rw [deliver]
  exact ready.course_deliver _

/-- A run that takes no course does nothing to the guest. -/
theorem Ready.still_or_course (ready : session.Ready) (source : String) :
    (∃ outcome, session.exchange source = ⟨[], none, outcome, session.machine⟩) ∨
      Course session (Utf8.encode source) (session.exchange source) := by
  by_cases empty : (Utf8.encode source).length = 0
  · exact .inl ⟨_, exchange_of_empty empty⟩
  by_cases short : (Utf8.encode source).length < Exchange.sourceBound
  · exact .inr (ready.course empty short)
  · exact .inl ⟨_, exchange_of_long (Nat.not_lt.mp short)⟩

theorem Course.genuine_of_mem_calls {octets : List UInt8} {exchange : Exchange} {call : Call}
    (course : Course session octets exchange) (member : call ∈ exchange.calls) :
    call.Genuine session.env := by
  have genuine := genuine_perform session.env
  cases course with
  | stopped stop answer =>
      obtain rfl := List.mem_singleton.mp member
      exact genuine ..
  | null answer =>
      obtain rfl := List.mem_singleton.mp member
      exact genuine ..
  | outside ptr memory freed answer nonzero here outside frees =>
      simp only [List.mem_cons, List.not_mem_nil, or_false] at member
      rcases member with rfl | rfl
      · exact genuine ..
      · exact frees ▸ genuine ..
  | entered ptr memory ran freed answer nonzero here fits enters frees =>
      simp only [List.mem_cons, List.not_mem_nil, or_false] at member
      rcases member with rfl | rfl | rfl
      · exact genuine ..
      · exact enters ▸ genuine ..
      · exact frees ▸ genuine ..

/-- The record of a run tells what the guest did. -/
theorem Ready.genuine_of_mem_calls (ready : session.Ready) {source : String} {call : Call}
    (member : call ∈ (session.exchange source).calls) : call.Genuine session.env := by
  rcases ready.still_or_course source with ⟨outcome, still⟩ | course
  · simp [still] at member
  · exact course.genuine_of_mem_calls member

/-- What a run leaves is what its calls left: the machine is that of the last call, and the output
gets what the calls wrote, with the report of a fault at the end. -/
structure Recorded (session : Session) (source : String) : Prop where
  machine_eq : (session.run source).2.machine =
    (session.exchange source).calls.getLast?.elim session.machine Call.left
  host_eq : (session.run source).2.host = session.host.emitAll
    ((session.exchange source).calls.flatMap Call.written ++
      Exchange.report (session.run source).1)

theorem machine_run (session : Session) (source : String) :
    (session.run source).2.machine = (session.exchange source).machine :=
  rfl

theorem Course.machine_eq {octets : List UInt8} {exchange : Exchange}
    (course : Course session octets exchange) :
    exchange.machine = exchange.calls.getLast?.elim session.machine Call.left := by
  cases course <;> rfl

theorem Ready.recorded (ready : session.Ready) (source : String) : session.Recorded source where
  machine_eq := by
    rw [machine_run]
    rcases ready.still_or_course source with ⟨outcome, still⟩ | course
    · rw [still]
      rfl
    · exact course.machine_eq
  host_eq := rfl

/-- The calls that a run makes for a span of some length, in order. -/
inductive Row (length : UInt32) : List Call → Prop
  | none : Row length []
  | asked (asked : Call) (asks : asked.callee = .alloc length) : Row length [asked]
  | returned (ptr : UInt32) (asked freed : Call) (asks : asked.callee = .alloc length)
      (frees : freed.callee = .free ptr length) : Row length [asked, freed]
  | entered (ptr : UInt32) (asked ran freed : Call) (asks : asked.callee = .alloc length)
      (enters : ran.callee = .run ptr length) (frees : freed.callee = .free ptr length) :
      Row length [asked, ran, freed]

theorem Course.row_calls {octets : List UInt8} {exchange : Exchange}
    (course : Course session octets exchange) : Row octets.length.toUInt32 exchange.calls := by
  cases course with
  | stopped stop answer => exact .asked _ rfl
  | null answer => exact .asked _ rfl
  | outside ptr memory freed answer nonzero here outside frees =>
      exact .returned ptr _ freed rfl (congrArg Call.callee frees)
  | entered ptr memory ran freed answer nonzero here fits enters frees =>
      exact .entered ptr _ ran freed rfl (congrArg Call.callee enters) (congrArg Call.callee frees)

theorem Ready.row_calls (ready : session.Ready) (source : String) :
    Row (Utf8.encode source).length.toUInt32 (session.exchange source).calls := by
  rcases ready.still_or_course source with ⟨outcome, still⟩ | course
  · rw [still]
    exact .none
  · exact course.row_calls

namespace Row

variable {length : UInt32} {calls : List Call} {call : Call}

theorem length_eq_of_alloc (row : Row length calls) (member : call ∈ calls) {wanted : UInt32}
    (asks : call.callee = .alloc wanted) : wanted = length := by
  cases row <;> grind

end Row

/-- A release is called on a machine with a fresh budget. -/
theorem Course.eq_of_free {octets : List UInt8} {exchange : Exchange} {call : Call}
    (course : Course session octets exchange) (member : call ∈ exchange.calls)
    {ptr length : UInt32} (frees : call.callee = .free ptr length) :
    ∃ machine, call = Call.perform session.env (.free ptr length) (session.refueled machine) := by
  have asks : (session.asked octets).callee = .alloc octets.length.toUInt32 := rfl
  cases course with
  | stopped stop answer => grind
  | null answer => grind
  | outside origin memory freed answer nonzero here outside released =>
      have callee : freed.callee = .free origin octets.length.toUInt32 := released ▸ rfl
      have last : call = freed := by grind
      have same := callee.symm.trans (last ▸ frees)
      obtain ⟨rfl, rfl⟩ := Callee.free.inj same
      exact ⟨_, last.trans released⟩
  | entered origin memory ran freed answer nonzero here fits enters released =>
      have enters : ran.callee = .run origin octets.length.toUInt32 := enters ▸ rfl
      have callee : freed.callee = .free origin octets.length.toUInt32 := released ▸ rfl
      have last : call = freed := by grind
      have same := callee.symm.trans (last ▸ frees)
      obtain ⟨rfl, rfl⟩ := Callee.free.inj same
      exact ⟨_, last.trans released⟩

/-- The entry is called on what the allocator left, but for the octets that were copied, and the
release on what the entry left, but for its budget. -/
theorem Course.eq_of_run {octets : List UInt8} {exchange : Exchange} {call : Call}
    (course : Course session octets exchange) (member : call ∈ exchange.calls)
    {ptr length : UInt32} (enters : call.callee = .run ptr length) :
    ∃ memory, exchange.calls = [session.asked octets, call,
        Call.perform session.env (.free ptr length) (session.refueled call.left)] ∧
      call.entered = { (session.asked octets).left with memory } := by
  have asks : (session.asked octets).callee = .alloc octets.length.toUInt32 := rfl
  cases course with
  | stopped stop answer => grind
  | null answer => grind
  | outside origin memory freed answer nonzero here outside released =>
      have callee : freed.callee = .free origin octets.length.toUInt32 := released ▸ rfl
      grind
  | entered origin memory ran freed answer nonzero here fits entered released =>
      have callee : ran.callee = .run origin octets.length.toUInt32 := entered ▸ rfl
      have frees : freed.callee = .free origin octets.length.toUInt32 := released ▸ rfl
      have second : call = ran := by grind
      have same := callee.symm.trans (second ▸ enters)
      obtain ⟨rfl, rfl⟩ := Callee.run.inj same
      rw [second, ← released]
      exact ⟨_, rfl, congrArg Call.entered entered⟩

/-! ## All machines of a run -/

/-- A relation that holds between the machines around everything that happens in a run. -/
structure Lasting (env : Env) (budget : Option Nat) (Related : Machine → Machine → Prop) :
    Prop where
  refl : ∀ machine, Related machine machine
  trans : ∀ {first second third}, Related first second → Related second third →
    Related first third
  perform : ∀ machine (instruction : Instruction),
    Related machine (instruction.effect env machine)
  refuel : ∀ machine : Machine, Related machine { machine with fuel := budget }
  /-- Octets are stored where they lie in the memory. -/
  store : ∀ (machine : Machine) (memory : Memory) (address : Nat) (octets : List UInt8),
    machine.memory = some memory → address + octets.length ≤ memory.size →
      Related machine { machine with memory := some (memory.store address octets) }

/-- What lasts holds between any two machines of a run, up to the one that the run leaves. -/
theorem Course.passage {octets : List UInt8} {exchange : Exchange}
    (course : Course session octets exchange) (short : octets.length < Exchange.sourceBound)
    {Related : Machine → Machine → Prop}
    (lasting : Lasting session.env session.host.limits.fuelPerRun Related) :
    Passage Related session.machine (exchange.calls.flatMap (Call.machines session.env))
      exchange.machine := by
  have calling : ∀ (callee : Callee) {first entered : Machine}, Related first entered →
      Passage Related first ((Call.perform session.env callee entered).machines session.env)
        (Call.perform session.env callee entered).left :=
    fun callee _ _ enters =>
      Call.passage (genuine_perform ..) lasting.refl lasting.trans lasting.perform enters
  have asking : Passage Related session.machine
      ((session.asked octets).machines session.env) (session.asked octets).left :=
    calling _ (lasting.refuel session.machine)
  cases course with
  | stopped stop answer => simpa using asking
  | null answer => simpa using asking
  | outside ptr memory freed answer nonzero here outside frees =>
      obtain rfl := frees
      have freeing := calling (.free ptr octets.length.toUInt32)
        (lasting.refuel (session.asked octets).left)
      simpa [refueled] using asking.append freeing lasting.trans
  | entered ptr memory ran freed answer nonzero here fits enters frees =>
      obtain rfl := frees
      have inside : ptr.toNat + octets.length ≤ memory.size := by
        have lengths := toNat_length short
        simpa [Span.Fits, Span.stop, lengths] using fits
      have running := calling (.run ptr octets.length.toUInt32)
        (lasting.store _ memory ptr.toNat octets here inside)
      rw [← enters] at running
      have freeing := calling (.free ptr octets.length.toUInt32) (lasting.refuel ran.left)
      have both := running.append freeing lasting.trans
      simpa [refueled] using asking.append both lasting.trans

theorem Ready.passage_exchange (ready : session.Ready) {Related : Machine → Machine → Prop}
    (lasting : Lasting session.env session.host.limits.fuelPerRun Related) (source : String) :
    Passage Related session.machine
      ((session.exchange source).calls.flatMap (Call.machines session.env))
      (session.exchange source).machine := by
  by_cases empty : (Utf8.encode source).length = 0
  · rw [exchange_of_empty empty]
    exact Passage.nil (lasting.refl session.machine)
  by_cases short : (Utf8.encode source).length < Exchange.sourceBound
  · exact (ready.course empty short).passage short lasting
  · rw [exchange_of_long (Nat.not_lt.mp short)]
    exact Passage.nil (lasting.refl session.machine)

/-- A machine of a ready session keeps its equipment through all that happens. -/
theorem Ready.lasting_equipment (ready : session.Ready) :
    Lasting session.env session.host.limits.fuelPerRun fun before after =>
      before.equipment = session.machine.equipment →
        after.equipment = session.machine.equipment where
  refl := fun _ same => same
  trans := fun first second same => second (first same)
  perform := fun machine instruction same =>
    (instruction.equipment_perform session.env { machine }).trans same
  refuel := by
    intro machine same
    rw [← same]
    apply equipment_refueled
    rw [same]
    exact ready.metered
  store := by
    intro machine memory address octets here _ same
    rw [← same]
    simp [Machine.equipment, here]

theorem Ready.equipment_of_mem_calls (ready : session.Ready) {source : String} {call : Call}
    (member : call ∈ (session.exchange source).calls) {machine : Machine}
    (found : machine ∈ call.machines session.env) :
    machine.equipment = session.machine.equipment := by
  have passage := ready.passage_exchange ready.lasting_equipment source
  have inRow : machine ∈ (session.exchange source).calls.flatMap (Call.machines session.env) :=
    List.mem_flatMap.mpr ⟨call, member, found⟩
  exact (List.pairwise_cons.mp passage.pairwise).1 machine inRow rfl

theorem Ready.equipment_exchange (ready : session.Ready) (source : String) :
    (session.exchange source).machine.equipment = session.machine.equipment :=
  (ready.passage_exchange ready.lasting_equipment source).reaches session.machine
    List.mem_cons_self rfl

/-- A run leaves the session ready for the next one. -/
theorem Ready.act (ready : session.Ready) (deed : Deed) : (session.act deed).Ready := by
  cases deed with
  | clear => exact ⟨ready.reaches, ready.metered⟩
  | run source =>
      have same := ready.equipment_exchange source
      obtain ⟨memory, reached⟩ := ready.reaches
      obtain ⟨found, reached, -⟩ := memoryOf_of_equipment reached same
      exact ⟨⟨found, reached⟩, (congrArg Equipment.metered same).trans ready.metered⟩

theorem Ready.after (ready : session.Ready) (deeds : List Deed) : (session.after deeds).Ready := by
  induction deeds generalizing session with
  | nil => exact ready
  | cons deed later ih => exact ih (ready.act deed)

theorem Reachable.ready (reachable : session.Reachable) : session.Ready := by
  obtain ⟨fresh, deeds, ⟨limits, program, host, opened⟩, rfl⟩ := reachable
  exact opened.ready.after deeds

end Session
end SandboxHost
