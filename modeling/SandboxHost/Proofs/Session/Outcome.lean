import SandboxHost.Proofs.Session.Custody

/-!
# How runs end

A run succeeds if each of its steps does, and otherwise ends with the fault of the first step that
failed.  A later fault leaves no trace.  Runs are counted by what the allocator answered, whatever
came after it.
-/

namespace SandboxHost

open Guest

/-- What went wrong in a call, or in the copying that follows a call of the allocator. -/
def Guest.Call.fault? (call : Call) : Option Fault :=
  match call.callee, call.outcome with
  | .alloc _, .error stop => some (.helperStopped .memAlloc stop)
  | .alloc length, .ok ptr =>
      if ptr = 0 then some (.outOfMemory length)
      else if Span.Fits ⟨ptr, length⟩ call.left.memorySize then none
      else some (.refused (.outOfBounds ⟨ptr, length⟩ call.left.memorySize))
  | .run .., .error stop => some (Fault.ofEntry stop)
  | .free .., .error stop => some (.helperStopped .memFree stop)
  | _, _ => none

/-- Every step of a run succeeded: the allocator, the copying, the entry and the release. -/
structure Exchange.Complete (exchange : Exchange) (length ptr : UInt32) (asked ran freed : Call) :
    Prop where
  calls_eq : exchange.calls = [asked, ran, freed]
  asks : asked.callee = .alloc length
  lent : asked.outcome = .ok ptr
  nonzero : ptr ≠ 0
  /-- The span lies in the memory that the allocator left. -/
  fits : Span.Fits ⟨ptr, length⟩ asked.left.memorySize
  enters : ran.callee = .run ptr length
  entered : ∃ value, ran.outcome = .ok value
  frees : freed.callee = .free ptr length
  released : ∃ value, freed.outcome = .ok value

/-- Whether the allocator gave something in a run. -/
def Exchange.lends (exchange : Exchange) : Bool :=
  exchange.calls.any fun call => call.lent?.isSome

/-- The end of a run that met some faults in this order. -/
def Exchange.endOf : List Fault → Except Fault Unit
  | [] => .ok ()
  | fault :: _ => .error fault

theorem Exchange.endOf_eq_ok_iff (faults : List Fault) :
    Exchange.endOf faults = .ok () ↔ faults = [] := by
  cases faults <;> simp [Exchange.endOf]

theorem Exchange.endOf_eq_error_iff (faults : List Fault) (fault : Fault) :
    Exchange.endOf faults = .error fault ↔ faults.head? = some fault := by
  cases faults <;> simp [Exchange.endOf]

namespace Session

variable {session : Session} {source : String}

/-- A run ends with the first fault of its calls. -/
theorem Course.outcome_eq {octets : List UInt8} {exchange : Exchange}
    (course : Course session octets exchange) :
    exchange.outcome = Exchange.endOf (exchange.calls.filterMap Call.fault?) := by
  have callee : (session.asked octets).callee = .alloc octets.length.toUInt32 := rfl
  cases course with
  | stopped stop answer => simp [Call.fault?, callee, answer, Exchange.endOf]
  | null answer => simp [Call.fault?, callee, answer, Exchange.endOf]
  | outside ptr memory freed answer nonzero here outside frees =>
      simp [Call.fault?, callee, answer, nonzero, Machine.memorySize, here, outside, Exchange.endOf]
  | entered ptr memory ran freed answer nonzero here fits enters frees =>
      have runs : ran.callee = .run ptr octets.length.toUInt32 := by
        rw [enters]
        rfl
      have frees : freed.callee = .free ptr octets.length.toUInt32 := by
        rw [frees]
        rfl
      have first : (session.asked octets).fault? = none := by
        simp [Call.fault?, callee, answer, nonzero, Machine.memorySize, here, fits]
      rw [List.filterMap_cons_none first]
      cases entry : ran.outcome with
      | error stop =>
          have second : ran.fault? = some (Fault.ofEntry stop) := by
            simp [Call.fault?, runs, entry]
          rw [List.filterMap_cons_some second]
          rfl
      | ok value =>
          have second : ran.fault? = none := by
            simp [Call.fault?, runs, entry]
          rw [List.filterMap_cons_none second]
          cases release : freed.outcome with
          | error stop =>
              have third : freed.fault? = some (.helperStopped .memFree stop) := by
                simp [Call.fault?, frees, release]
              rw [List.filterMap_cons_some third]
              rfl
          | ok value =>
              have third : freed.fault? = none := by
                simp [Call.fault?, frees, release]
              rw [List.filterMap_cons_none third]
              rfl

/-- Without a fault a run has gone through all of its steps. -/
theorem Course.complete_of_faultless {octets : List UInt8} {exchange : Exchange}
    (course : Course session octets exchange)
    (faultless : exchange.calls.filterMap Call.fault? = []) :
    ∃ ptr asked ran freed,
      exchange.Complete octets.length.toUInt32 ptr asked ran freed := by
  have callee : (session.asked octets).callee = .alloc octets.length.toUInt32 := rfl
  simp only [List.filterMap_eq_nil_iff] at faultless
  cases course with
  | stopped stop answer =>
      have first := faultless (session.asked octets) (by simp)
      simp [Call.fault?, callee, answer] at first
  | null answer =>
      have first := faultless (session.asked octets) (by simp)
      simp [Call.fault?, callee, answer] at first
  | outside ptr memory freed answer nonzero here outside frees =>
      have first := faultless (session.asked octets) (by simp)
      simp [Call.fault?, callee, answer, nonzero, Machine.memorySize, here, outside] at first
  | entered ptr memory ran freed answer nonzero here fits enters frees =>
      have second := faultless ran (by simp)
      have third := faultless freed (by simp)
      have entersAt : ran.callee = .run ptr octets.length.toUInt32 := enters ▸ rfl
      have freesAt : freed.callee = .free ptr octets.length.toUInt32 := frees ▸ rfl
      refine ⟨ptr, session.asked octets, ran, freed, rfl, callee, answer, nonzero, ?_, entersAt,
        ?_, freesAt, ?_⟩
      · simpa [Machine.memorySize, here] using fits
      · cases entry : ran.outcome with
        | error stop => simp [Call.fault?, entersAt, entry] at second
        | ok value => exact ⟨value, rfl⟩
      · cases release : freed.outcome with
        | error stop => simp [Call.fault?, freesAt, release] at third
        | ok value => exact ⟨value, rfl⟩

/-- A run that went through all of its steps is without a fault. -/
theorem faultless_of_complete {exchange : Exchange} {length ptr : UInt32}
    {asked ran freed : Call} (complete : exchange.Complete length ptr asked ran freed) :
    exchange.calls.filterMap Call.fault? = [] := by
  obtain ⟨calls_eq, asks, lent, nonzero, fits, enters, ⟨_, entered⟩, frees, ⟨_, released⟩⟩ :=
    complete
  simp [calls_eq, Call.fault?, asks, lent, nonzero, fits, enters, entered, frees, released]

theorem Course.lends_eq {octets : List UInt8} {exchange : Exchange}
    (course : Course session octets exchange) : exchange.loan.isSome = exchange.lends := by
  have callee : (session.asked octets).callee = .alloc octets.length.toUInt32 := rfl
  cases course with
  | stopped stop answer => simp [Exchange.lends, Call.lent?, callee, answer]
  | null answer => simp [Exchange.lends, Call.lent?, callee, answer]
  | outside ptr memory freed answer nonzero here outside frees =>
      simp [Exchange.lends, Call.lent?, callee, answer, nonzero]
  | entered ptr memory ran freed answer nonzero here fits enters frees =>
      simp [Exchange.lends, Call.lent?, callee, answer, nonzero]

/-! ## All sources -/

theorem Ready.lends_eq (ready : session.Ready) (source : String) :
    (session.exchange source).loan.isSome = (session.exchange source).lends := by
  rcases ready.still_or_course source with ⟨outcome, still⟩ | course
  · rw [still]
    rfl
  · exact course.lends_eq

theorem Ready.outcome_eq (ready : session.Ready)
    (short : (Utf8.encode source).length < Exchange.sourceBound) :
    (session.exchange source).outcome =
      Exchange.endOf ((session.exchange source).calls.filterMap Call.fault?) := by
  by_cases empty : (Utf8.encode source).length = 0
  · rw [exchange_of_empty empty]
    rfl
  · exact (ready.course empty short).outcome_eq

theorem Ready.ok_iff (ready : session.Ready)
    (short : (Utf8.encode source).length < Exchange.sourceBound) :
    (session.exchange source).outcome = .ok () ↔
      (Utf8.encode source).length = 0 ∨
        ∃ (length : UInt32) (ptr : UInt32) (asked ran freed : Call),
          length.toNat = (Utf8.encode source).length ∧
          (session.exchange source).Complete length ptr asked ran freed := by
  rw [ready.outcome_eq short, Exchange.endOf_eq_ok_iff]
  constructor
  · intro faultless
    by_cases empty : (Utf8.encode source).length = 0
    · exact .inl empty
    · obtain ⟨ptr, asked, ran, freed, complete⟩ :=
        (ready.course empty short).complete_of_faultless faultless
      exact .inr ⟨_, ptr, asked, ran, freed, toNat_length short, complete⟩
  · rintro (empty | ⟨length, ptr, asked, ran, freed, -, complete⟩)
    · rw [exchange_of_empty empty]
      rfl
    · exact faultless_of_complete complete

/-- Runs are counted by what the allocator answered. -/
theorem Ready.runs_after (ready : session.Ready) (deeds : List Deed) :
    (session.after deeds).runs =
      session.runs + (session.exchanges deeds).countP Exchange.lends := by
  induction deeds generalizing session with
  | nil => rfl
  | cons deed later ih =>
      have rest := ih (ready.act deed)
      cases deed with
      | run source =>
          have one : (session.act (.run source)).runs =
              session.runs + if (session.exchange source).lends then 1 else 0 := by
            rw [← ready.lends_eq]
            rfl
          rw [exchanges, List.countP_cons, ← Nat.add_assoc, Nat.add_right_comm, ← one]
          exact rest
      | clear => exact rest

/-- **The first fault decides.**  A run succeeds exactly if every step does, and otherwise its end
and its report are the first fault, whatever else failed after it.  The counter tells the runs for
which the allocator gave something. -/
theorem outcome_of_run {fresh : Session} (opened : fresh.Opened) (deeds : List Deed)
    (session_eq : session = fresh.after deeds) :
    session.runs = (fresh.exchanges deeds).countP Exchange.lends ∧
    ∀ source, (Utf8.encode source).length < Exchange.sourceBound →
      (∀ call ∈ (session.exchange source).calls, call.Genuine session.env) ∧
      ((session.run source).1 = .ok () ↔
        (Utf8.encode source).length = 0 ∨
          ∃ (length : UInt32) (ptr : UInt32) (asked ran freed : Call),
            length.toNat = (Utf8.encode source).length ∧
            (session.exchange source).Complete length ptr asked ran freed) ∧
      (∀ fault, (session.run source).1 = .error fault ↔
        ((session.exchange source).calls.filterMap Call.fault?).head? = some fault) ∧
      (session.run source).2.host = session.host.emitAll
        ((session.exchange source).calls.flatMap Call.written ++
          match (session.run source).1 with
          | .ok _ => []
          | .error fault => [⟨.stderr, fault.report⟩]) ∧
      (session.run source).2.runs =
        session.runs + if (session.exchange source).lends then 1 else 0 := by
  obtain ⟨limits, program, host, openedWith⟩ := opened
  subst session_eq
  have ready := openedWith.ready.after deeds
  refine ⟨?_, fun source short => ⟨fun call => ready.genuine_of_mem_calls, ready.ok_iff short,
    fun fault => ?_, ?_, ?_⟩⟩
  · rw [openedWith.ready.runs_after, openedWith.fresh.runs_eq, Nat.zero_add]
  · rw [← Exchange.endOf_eq_error_iff, ← ready.outcome_eq short]
    rfl
  · simp only [run, Exchange.fragments]
    cases (exchange _ source).outcome <;> rfl
  · rw [← ready.lends_eq]
    rfl

/-- The entry writes what it is given and then a stretch outside the memory, and the release
function stops. -/
def failingSession : Session :=
  ofBodies (.leave (.word 1024)) .abort
    (.seq (.write .stdout .frameStart .frameLength) (.write .stdout (.word 70000) (.word 1)))

theorem outcome_of_run_failingSession :
    (failingSession.after [.run "hi", .clear]).runs = 1 ∧
    ((failingSession.after [.run "hi", .clear]).run "ho").1 =
      .error (.refused (.outOfBounds ⟨70000, 1⟩ 65536)) ∧
    ((failingSession.after [.run "hi", .clear]).run "ho").2.host.output.contents =
      "hoerror: span [70000, 70000+1) is outside guest memory of 65536 bytes\n" := by
  have opened : failingSession.Opened := opened_ofBodies ..
  obtain ⟨runs, each⟩ := outcome_of_run opened [.run "hi", .clear] rfl
  obtain ⟨-, -, failed, host, -⟩ := each "ho" (by decide +kernel)
  have outcome := (failed (.refused (.outOfBounds ⟨70000, 1⟩ 65536))).mpr (by decide +kernel)
  refine ⟨runs.trans (by decide +kernel), outcome, ?_⟩
  rw [host, outcome]
  decide +kernel

end Session
end SandboxHost
