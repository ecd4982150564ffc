import SandboxHost.Proofs.Guest.Stops
import SandboxHost.Proofs.Session.Outcome

/-!
# What faults mean

Each fault of a run is that of one of its calls, and before the release there is at most one.  A
guest that got no memory, a span outside the memory and a guest that was stopped are told apart; a
span that the allocator or the release function asked for counts as a stopped guest.  Other faults
do not come from runs.
-/

namespace SandboxHost

open Guest

/-- The allocator lent a span that does not lie in the memory it left, which has `size` octets. -/
structure Guest.Call.LendsOutside (call : Call) (span : Span) (size : Nat) : Prop where
  callee_eq : call.callee = .alloc span.len
  outcome_eq : call.outcome = .ok span.ptr
  nonzero : span.ptr ≠ 0
  size_eq : call.left.memorySize = size
  outside : ¬ span.Fits size

/-- The ways in which a call brings a fault. -/
inductive Guest.Call.Fails (call : Call) : Fault → Prop
  | allocator {length : UInt32} {stop : Stop} (callee_eq : call.callee = .alloc length)
      (ended : call.outcome = .error stop) : Fails call (.helperStopped .memAlloc stop)
  | null {length : UInt32} (callee_eq : call.callee = .alloc length)
      (ended : call.outcome = .ok 0) : Fails call (.outOfMemory length)
  | lent {span : Span} {size : Nat} (lends : call.LendsOutside span size) :
      Fails call (.refused (.outOfBounds span size))
  | trapped {ptr length : UInt32} {cause : Trap} (callee_eq : call.callee = .run ptr length)
      (ended : call.outcome = .error (.trap cause)) : Fails call (.trapped (.trap cause))
  | refused {ptr length : UInt32} {refusal : Refusal} (callee_eq : call.callee = .run ptr length)
      (ended : call.outcome = .error (.refused refusal)) : Fails call (.refused refusal)
  | release {ptr length : UInt32} {stop : Stop} (callee_eq : call.callee = .free ptr length)
      (ended : call.outcome = .error stop) : Fails call (.helperStopped .memFree stop)

theorem Guest.Call.fault?_eq_some_iff (call : Call) (fault : Fault) :
    call.fault? = some fault ↔ call.Fails fault := by
  constructor
  · intro found
    unfold fault? at found
    split at found
    · rename_i length stop callee_eq ended
      obtain rfl := Option.some.inj found
      exact .allocator callee_eq ended
    · rename_i length ptr callee_eq ended
      by_cases zero : ptr = 0
      · rw [if_pos zero] at found
        obtain rfl := Option.some.inj found
        exact .null callee_eq (zero ▸ ended)
      by_cases fits : Span.Fits ⟨ptr, length⟩ call.left.memorySize
      · simp [zero, fits] at found
      · rw [if_neg zero, if_neg fits] at found
        obtain rfl := Option.some.inj found
        exact .lent ⟨callee_eq, ended, zero, rfl, fits⟩
    · rename_i ptr length stop callee_eq ended
      obtain rfl := Option.some.inj found
      cases stop with
      | trap cause => exact .trapped callee_eq ended
      | refused refusal => exact .refused callee_eq ended
    · rename_i ptr length stop callee_eq ended
      obtain rfl := Option.some.inj found
      exact .release callee_eq ended
    · simp at found
  · intro fails
    cases fails with
    | allocator callee_eq ended => simp [fault?, callee_eq, ended]
    | null callee_eq ended => simp [fault?, callee_eq, ended]
    | lent lends =>
        obtain ⟨callee_eq, ended, nonzero, rfl, outside⟩ := lends
        simp [fault?, callee_eq, ended, nonzero, outside]
    | trapped callee_eq ended => simp [fault?, callee_eq, ended, Fault.ofEntry]
    | refused callee_eq ended => simp [fault?, callee_eq, ended, Fault.ofEntry]
    | release callee_eq ended => simp [fault?, callee_eq, ended]

namespace Session

variable {session : Session} {source : String}

/-! ## One run -/

/-- A fault that comes before the release is the end of its run. -/
theorem Course.outcome_of_fault {octets : List UInt8} {exchange : Exchange}
    (course : Course session octets exchange) {call : Call} {fault : Fault}
    (member : call ∈ exchange.calls) (fails : call.fault? = some fault)
    (before : ∀ ptr length, call.callee ≠ .free ptr length) :
    exchange.outcome = .error fault := by
  have outcome := course.outcome_eq
  cases course with
  | stopped stop answer =>
      obtain rfl := List.mem_singleton.mp member
      simpa only [List.filterMap_cons_some fails, Exchange.endOf] using outcome
  | null answer =>
      obtain rfl := List.mem_singleton.mp member
      simpa only [List.filterMap_cons_some fails, Exchange.endOf] using outcome
  | outside ptr memory freed answer nonzero here outside frees =>
      simp only [List.mem_cons, List.not_mem_nil, or_false] at member
      rcases member with rfl | rfl
      · simpa only [List.filterMap_cons_some fails, Exchange.endOf] using outcome
      · exact absurd (congrArg Call.callee frees) (before _ _)
  | entered ptr memory ran freed answer nonzero here fits enters frees =>
      -- What was lent lies in the memory, so the first fault is at the earliest the entry's.
      have callee : (session.asked octets).callee = .alloc octets.length.toUInt32 := rfl
      have faultless : (session.asked octets).fault? = none := by
        simp [Call.fault?, callee, answer, nonzero, Machine.memorySize, here, fits]
      simp only [List.mem_cons, List.not_mem_nil, or_false] at member
      rcases member with rfl | rfl | rfl
      · rw [faultless] at fails
        contradiction
      · simpa only [List.filterMap_cons_none faultless, List.filterMap_cons_some fails,
          Exchange.endOf] using outcome
      · exact absurd (congrArg Call.callee frees) (before _ _)

theorem Ready.reaches_of_mem_calls (ready : session.Ready) {call : Call}
    (member : call ∈ (session.exchange source).calls) {machine : Machine}
    (found : machine ∈ call.machines session.env) :
    ∃ memory, memoryOf session.program machine = .ok memory := by
  obtain ⟨_, reached⟩ := ready.reaches
  have same := ready.equipment_of_mem_calls member found
  obtain ⟨memory, reached, -⟩ := memoryOf_of_equipment reached same
  exact ⟨memory, reached⟩

theorem Ready.refused_iff (ready : session.Ready) {call : Call}
    (member : call ∈ (session.exchange source).calls) (refusal : Refusal) :
    call.outcome = .error (.refused refusal) ↔
      ∃ span size, refusal = .outOfBounds span size ∧ call.Misses session.env span size :=
  Call.refused_iff (ready.genuine_of_mem_calls member)
    (fun _ => ready.reaches_of_mem_calls member) refusal

theorem Ready.outcome_of_fails (ready : session.Ready) {call : Call} {fault : Fault}
    (member : call ∈ (session.exchange source).calls) (fails : call.Fails fault)
    (before : ∀ ptr length, call.callee ≠ .free ptr length) :
    (session.exchange source).outcome = .error fault := by
  rcases ready.still_or_course source with ⟨outcome, still⟩ | course
  · simp [still] at member
  · exact course.outcome_of_fault member ((call.fault?_eq_some_iff fault).mpr fails) before

end Session
end SandboxHost
