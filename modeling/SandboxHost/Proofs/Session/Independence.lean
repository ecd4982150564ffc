import Mathlib.Data.List.Forall2
import SandboxHost.Proofs.Guest.Likeness
import SandboxHost.Proofs.Session.Confinement

/-!
# Independence from the host's side

A guest learns nothing of what the host collected, how it routes it, how many runs there were and
how much fuel they left.  Two sessions that differ only in these run every source with the same
outcome and the same output, and differ only in these afterwards.
-/

namespace SandboxHost

open Guest

/-! ## Agreement -/

/-- Two memories of the same size with the same octets. -/
structure Memory.Agree (first second : Memory) : Prop where
  pages_eq : first.pages = second.pages
  byteAt_eq : ∀ address < first.size, first.byteAt address = second.byteAt address

/-- Two machines with the same contents, whatever fuel they have. -/
structure Guest.Machine.Agree (first second : Machine) : Prop where
  memory : Option.Rel Memory.Agree first.memory second.memory
  globals_eq : first.globals = second.globals
  table_eq : first.table = second.table

/-- Two runs that nobody can tell apart, whatever fuel they leave. -/
structure Exchange.Agree (first second : Exchange) : Prop where
  calls : List.Forall₂ Call.Alike first.calls second.calls
  loan_eq : first.loan = second.loan
  outcome_eq : first.outcome = second.outcome
  fragments_eq : first.fragments = second.fragments
  machine : first.machine.Agree second.machine

/-- Two sessions that are one to the guest.  Output, routing, the number of runs and the fuel that
is left may differ. -/
structure Session.Agree (first second : Session) : Prop where
  program_eq : first.program = second.program
  limits_eq : first.host.limits = second.host.limits
  clock_eq : first.host.clock = second.host.clock
  machine : first.machine.Agree second.machine

theorem Memory.Agree.refl (memory : Memory) : memory.Agree memory :=
  ⟨rfl, fun _ _ => rfl⟩

namespace Guest.Machine

variable {first second : Machine}

theorem Agree.refl (machine : Machine) : machine.Agree machine :=
  ⟨optionRel_refl Memory.Agree.refl machine.memory, rfl, rfl⟩

theorem Alike.agree (alike : first.Alike second) : first.Agree second := by
  cases alike with
  | same => exact .refl first
  | stored here alike =>
      refine ⟨?_, rfl, rfl⟩
      rw [here]
      exact .some ⟨alike.pages_eq, fun address _ => alike.byteAt_eq address⟩

theorem clean_blank {program : Program} {memory : Memory}
    (present : program.blank.memory = some memory) : memory.Clean := by
  simp only [Program.blank, Option.map_eq_some_iff] at present
  obtain ⟨type, -, rfl⟩ := present
  intro address _
  exact Std.TreeMap.getD_emptyc

/-- Machines that have grown from the same blank machine and agree are alike once they have the same
fuel: the rest of what matters of their memories was fixed by the program. -/
theorem Agree.alike {limits : Option Limits} {program : Program} (agree : first.Agree second)
    (grows : program.blank.Grows limits first) (other : program.blank.Grows limits second)
    (fuel : Option Nat) : ({ first with fuel } : Machine).Alike { second with fuel } := by
  obtain ⟨old, globals, table, _⟩ := first
  obtain ⟨new, _, _, _⟩ := second
  obtain ⟨memory, rfl, rfl⟩ := agree
  cases memory with
  | none => exact .same
  | @some old new memory =>
      have front := grows.memory
      have back := other.memory
      cases present : program.blank.memory with
      | none =>
          rw [present] at front
          cases front
      | some blank =>
          rw [present] at front back
          cases front with
          | some front =>
          cases back with
          | some back =>
              have clean := clean_blank present
              apply Alike.stored rfl
              refine ⟨memory.pages_eq, front.maximum_eq.trans back.maximum_eq.symm, ?_⟩
              intro address
              -- What lies beyond the size comes into view when the memory grows.
              by_cases inside : address < old.size
              · exact memory.byteAt_eq address inside
              · have beyond : new.size ≤ address := by
                  rw [Memory.size, ← memory.pages_eq]
                  exact Nat.not_lt.mp inside
                rw [front.clean clean address (Nat.not_lt.mp inside),
                  back.clean clean address beyond]

end Guest.Machine

namespace Session.Agree

variable {first second : Session}

theorem clearLeft (agree : first.Agree second) : (first.act .clear).Agree second :=
  ⟨agree.program_eq, agree.limits_eq, agree.clock_eq, agree.machine⟩

theorem clearRight (agree : first.Agree second) : first.Agree (second.act .clear) :=
  ⟨agree.program_eq, agree.limits_eq, agree.clock_eq, agree.machine⟩

end Session.Agree

/-! ## Runs -/

namespace Exchange

variable {env : Env} {budget : Option Nat} {first second : Machine}

theorem written_eq_of_alike {calls others : List Call}
    (alike : List.Forall₂ Call.Alike calls others) :
    calls.flatMap Call.written = others.flatMap Call.written := by
  induction alike with
  | nil => rfl
  | cons call later ih => rw [List.flatMap_cons, List.flatMap_cons, call.written_eq, ih]

/-- Runs of alike calls that end in the same way emit the same fragments. -/
theorem agree_of_calls {calls others : List Call} (alike : List.Forall₂ Call.Alike calls others)
    {outcome other : Except Fault Unit} (outcome_eq : outcome = other) (loan : Option Loan)
    (machine : first.Agree second) :
    Exchange.Agree ⟨calls, loan, outcome, first⟩ ⟨others, loan, other, second⟩ where
  calls := alike
  loan_eq := rfl
  outcome_eq := outcome_eq
  fragments_eq := by rw [fragments, fragments, written_eq_of_alike alike, outcome_eq]
  machine := machine

theorem refuel_alike (budget : Option Nat) (alike : first.Alike second) :
    Matching Machine.Alike (refuel budget first) (refuel budget second) := by
  cases alike with
  | same => exact .refl (fun _ => .same) _
  | stored here alike =>
      obtain ⟨memory, globals, table, fuel⟩ := first
      cases budget with
      | none => exact .ok (.stored here alike)
      | some units =>
          cases fuel with
          | none => exact .error _
          | some left => exact .ok (.stored here alike)

theorem stage_alike (env : Env) (alike : first.Alike second) (loan : Loan) (octets : List UInt8) :
    Matching Machine.Alike (stage env first loan octets) (stage env second loan octets) := by
  apply (alike.memoryOf env.program).bind
  intro old new memories
  apply (memories.write loan.span.ptr octets).bind
  intro stored other stores
  cases alike <;> exact .ok (.stored rfl stores)

theorem conclude_agree {calls others : List Call} (before : List.Forall₂ Call.Alike calls others)
    (alike : first.Alike second) (loan : Loan) (outcome : Except Fault Unit) :
    (conclude env budget calls first loan outcome).Agree
      (conclude env budget others second loan outcome) := by
  have refueled := refuel_alike budget alike
  unfold conclude
  generalize refuel budget first = result at refueled ⊢
  generalize refuel budget second = other at refueled ⊢
  cases refueled with
  | error fault =>
      have freed := Call.perform_alike env (.free loan.span.ptr loan.span.len) alike
      apply agree_of_calls (List.rel_append before (.cons freed .nil)) _ _ freed.left.agree
      simp only [Except.toOption, Option.getD_none, freed.outcome_eq]
  | ok alike =>
      have freed := Call.perform_alike env (.free loan.span.ptr loan.span.len) alike
      apply agree_of_calls (List.rel_append before (.cons freed .nil)) _ _ freed.left.agree
      simp only [Except.toOption, Option.getD_some, freed.outcome_eq]
      cases outcome <;> rfl

/-- A run that gets its budget does the same on machines that agree. -/
theorem deliver_agree (agree : first.Agree second)
    (refueled : Matching Machine.Alike (refuel budget first) (refuel budget second))
    (octets : List UInt8) :
    (deliver env budget first octets).Agree (deliver env budget second octets) := by
  unfold deliver
  generalize refuel budget first = result at refueled ⊢
  generalize refuel budget second = other at refueled ⊢
  cases refueled with
  | error fault => exact agree_of_calls .nil rfl none agree
  | ok alike =>
      have asked := Call.perform_alike env (.alloc octets.length.toUInt32) alike
      simp only [Loan.borrow, asked.outcome_eq]
      split
      · exact agree_of_calls (.cons asked .nil) rfl none asked.left.agree
      · rename_i loan lent
        have staged := stage_alike env asked.left loan octets
        generalize stage env (Call.perform env _ _).left loan octets = result at staged ⊢
        generalize stage env (Call.perform env _ _).left loan octets = other at staged ⊢
        cases staged with
        | error refusal => exact conclude_agree (.cons asked .nil) asked.left loan _
        | ok staged =>
            have ran := Call.perform_alike env (.run loan.span.ptr loan.span.len) staged
            simp only [ran.outcome_eq]
            exact conclude_agree (.cons asked (.cons ran .nil)) ran.left loan _

theorem run_agree (agree : first.Agree second)
    (refueled : Matching Machine.Alike (refuel budget first) (refuel budget second))
    (source : String) : (run env budget first source).Agree (run env budget second source) := by
  unfold run
  dsimp only
  split
  · exact agree_of_calls .nil rfl none agree
  · split
    · exact agree_of_calls .nil rfl none agree
    · exact deliver_agree agree refueled _

end Exchange

namespace Session

variable {first second : Session}

theorem Reachable.act (reachable : first.Reachable) (deed : Deed) : (first.act deed).Reachable := by
  obtain ⟨fresh, deeds, opened, rfl⟩ := reachable
  refine ⟨fresh, deeds ++ [deed], opened, ?_⟩
  simp [after]

/-- The machine of a session has grown from what its program describes. -/
theorem Reachable.grows (reachable : first.Reachable) :
    first.program.blank.Grows (some first.host.limits) first.machine := by
  obtain ⟨fresh, deeds, ⟨limits, program, host, opened⟩, rfl⟩ := reachable
  have env_eq : (fresh.after deeds).env = ⟨program, some limits, host.clock⟩ :=
    (env_after deeds).trans opened.env_eq
  have program_eq : (fresh.after deeds).program = program := congrArg Env.program env_eq
  have limits_eq : some (fresh.after deeds).host.limits = some limits := congrArg Env.limits env_eq
  rw [program_eq, limits_eq]
  exact (opened.passage deeds).reaches _ List.mem_cons_self

theorem Agree.exchange (agree : first.Agree second) (reachable : first.Reachable)
    (other : second.Reachable) (source : String) :
    (first.exchange source).Agree (second.exchange source) := by
  have refueled : Matching Machine.Alike
      (Exchange.refuel first.host.limits.fuelPerRun first.machine)
      (Exchange.refuel second.host.limits.fuelPerRun second.machine) := by
    have grows := other.grows
    rw [← agree.program_eq, ← agree.limits_eq] at grows
    rw [refuel_eq reachable.ready.metered, refuel_eq other.ready.metered, Session.refueled,
      Session.refueled, ← agree.limits_eq]
    exact .ok (agree.machine.alike reachable.grows grows _)
  have env_eq : first.env = second.env := by
    rw [env, env, agree.program_eq, agree.limits_eq, agree.clock_eq]
  unfold Session.exchange
  rw [← env_eq, ← agree.limits_eq] at *
  exact Exchange.run_agree agree.machine refueled source

theorem Agree.run (agree : first.Agree second) (reachable : first.Reachable)
    (other : second.Reachable) (source : String) :
    (first.act (.run source)).Agree (second.act (.run source)) where
  program_eq := agree.program_eq
  limits_eq := agree.limits_eq
  clock_eq := agree.clock_eq
  machine := (agree.exchange reachable other source).machine

/-- What is run among some deeds, in order. -/
def sources : List Deed → List String
  | [] => []
  | .run source :: later => source :: sources later
  | .clear :: later => sources later

/-- What is cleared in between makes no difference to any run. -/
theorem Agree.after (agree : first.Agree second) (reachable : first.Reachable)
    (other : second.Reachable) {deeds others : List Deed} (same : sources deeds = sources others) :
    List.Forall₂ Exchange.Agree (first.exchanges deeds) (second.exchanges others) ∧
      (first.after deeds).Agree (second.after others) := by
  -- The second history catches up: what it clears is passed over until it runs the same source.
  induction deeds generalizing first second others with
  | nil =>
      induction others generalizing second with
      | nil => exact ⟨.nil, agree⟩
      | cons deed rest inner =>
          cases deed with
          | run source => cases same
          | clear => exact inner agree.clearRight (other.act .clear) same
  | cons deed later ih =>
      cases deed with
      | clear => exact ih agree.clearLeft (reachable.act .clear) other same
      | run source =>
          induction others generalizing second with
          | nil => cases same
          | cons deed rest inner =>
              cases deed with
              | clear => exact inner agree.clearRight (other.act .clear) same
              | run again =>
                  obtain ⟨rfl, rest_eq⟩ := List.cons.inj same
                  have now := agree.exchange reachable other source
                  have afterwards := agree.run reachable other source
                  obtain ⟨each, last⟩ := ih afterwards (reachable.act _) (other.act _) rest_eq
                  exact ⟨.cons now each, last⟩

/-! ## Opening -/

/-- The host's state has no part in whether and how a session is opened, but for the clock that a
start function may have read. -/
theorem OpenedWith.exists_twin {limits : Limits} {program : Program} {host other : Host}
    (opened : first.OpenedWith limits program host) (clock_eq : host.clock = other.clock) :
    ∃ second : Session, second.OpenedWith limits program other ∧ first.Agree second := by
  obtain ⟨program_eq, booted, -, -, reaches, supported, callable⟩ := opened.fresh
  rw [clock_eq] at booted
  refine ⟨⟨program, first.machine, ({ other with limits } : Host).emitAll
    (boot ⟨program, some limits, other.clock⟩).2, 0⟩, ?_, ?_⟩
  · exact Fresh.openedWith ⟨rfl, booted, rfl, rfl, reaches, supported, callable⟩
  · have env_eq := opened.env_eq
    have limits_eq := Option.some.inj (congrArg Env.limits env_eq)
    exact ⟨program_eq, limits_eq, (congrArg Env.clock env_eq).trans clock_eq, .refl first.machine⟩

/-- **A run depends on nothing of the host's but its limits and its clock.**  Sessions that differ in
output, routing, the number of runs or the fuel that is left run everything with the same outcomes
and emit the same fragments, whatever is cleared in between, and a session can be opened with one
output exactly as with another. -/
theorem runs_independent_of_host :
    (∀ first second : Session, first.Reachable → second.Reachable → first.Agree second →
      (∀ source, (first.run source).1 = (second.run source).1 ∧
        (first.run source).2.Agree (second.run source).2 ∧
        (first.run source).2.host = first.host.emitAll (first.exchange source).fragments ∧
        (second.run source).2.host = second.host.emitAll (first.exchange source).fragments) ∧
      ∀ deeds others, sources deeds = sources others →
        List.Forall₂ Exchange.Agree (first.exchanges deeds) (second.exchanges others) ∧
        (first.after deeds).Agree (second.after others)) ∧
    ∀ (limits : Limits) (program : Program) (host other : Host) (first : Session),
      first.OpenedWith limits program host → host.clock = other.clock →
        ∃ second : Session, second.OpenedWith limits program other ∧ first.Agree second := by
  constructor
  · intro first second reachable other agree
    refine ⟨?_, fun deeds others same => agree.after reachable other same⟩
    intro source
    have runs := agree.exchange reachable other source
    refine ⟨runs.outcome_eq, agree.run reachable other source, rfl, ?_⟩
    rw [runs.fragments_eq]
    rfl
  · intro limits program host other first opened clock_eq
    exact opened.exists_twin clock_eq

/-- The allocator has a place for four octets, and the entry writes what it is given. -/
def parrotProgram : Program where
  alloc := .branch (.binary .gtU .frameLength (.word 4)) (.leave (.word 0)) (.leave (.word 1024))
  run := .write .stdout .frameStart .frameLength

/-- A session on `parrotProgram` with a budget of 100 units, just opened. -/
def parrotSession (routing : Routing) : Session where
  program := parrotProgram
  machine := { memory := some { pages := 1 }, globals := [], table := none, fuel := some 0 }
  host := { output := .new routing, limits := { fuelPerRun := some 100 } }

theorem runs_independent_of_host_parrotSession :
    let first := parrotSession .merged
    let second := (parrotSession .split).after [.run "too long"]
    first.Agree second ∧
    first.machine.fuel ≠ second.machine.fuel ∧ first.host.output ≠ second.host.output ∧
    (first.run "hi").1 = (second.run "hi").1 ∧
    (first.exchange "hi").fragments = [⟨.stdout, "hi"⟩] ∧
    (second.run "hi").2.host.output = ⟨.split, "hi", "Failed to allocate memory\n"⟩ ∧
    (first.after [.run "hi", .clear, .run "ho"]).Agree
      (second.after [.clear, .run "hi", .run "ho"]) ∧
    ∃ twin : Session, twin.OpenedWith { fuelPerRun := some 100 } parrotProgram
      { output := .new .split } ∧ first.Agree twin := by
  intro first second
  have opened (routing : Routing) : (parrotSession routing).OpenedWith { fuelPerRun := some 100 }
      parrotProgram { output := .new routing } := ⟨_, _, rfl, rfl⟩
  have reachable : first.Reachable := ⟨_, [], ⟨_, _, _, opened .merged⟩, rfl⟩
  have other : second.Reachable := ⟨_, _, ⟨_, _, _, opened .split⟩, rfl⟩
  have agree : first.Agree second :=
    ⟨rfl, rfl, rfl, .some ⟨rfl, fun _ _ => rfl⟩, rfl, rfl⟩
  obtain ⟨each, twin⟩ := runs_independent_of_host
  obtain ⟨now, later⟩ := each first second reachable other agree
  obtain ⟨outcome_eq, -, -, host_eq⟩ := now "hi"
  have fragments : (first.exchange "hi").fragments = [⟨.stdout, "hi"⟩] := by decide +kernel
  refine ⟨agree, by decide +kernel, by decide +kernel, outcome_eq, fragments, ?_, ?_, ?_⟩
  · rw [host_eq, fragments]
    decide +kernel
  · exact (later [.run "hi", .clear, .run "ho"] [.clear, .run "hi", .run "ho"] rfl).2
  · exact twin _ _ _ _ first (opened .merged) rfl

end Session
end SandboxHost
