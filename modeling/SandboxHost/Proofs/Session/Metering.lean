import Mathlib.Data.List.Forall2
import SandboxHost.Proofs.Guest.Metering
import SandboxHost.Proofs.Session.Budget
import SandboxHost.Proofs.Session.Confinement

/-!
# Larger budgets

What a session does within its budgets it does with larger budgets too, and without any.  As long as
no call uses up all fuel, the same deeds have the same outcomes, output and contents of the guest,
and nothing but the fuel that is left differs.
-/

namespace SandboxHost

open Guest

/-- What is the same in all pairs of two rows is the same in the rows. -/
theorem map_eq_of_forall₂ {α β : Type} {Related : α → α → Prop} {look : α → β}
    (each : ∀ first second, Related first second → look first = look second) {row other : List α}
    (pairs : List.Forall₂ Related row other) : row.map look = other.map look := by
  rw [← List.forall₂_eq_eq_eq, List.forall₂_map_left_iff, List.forall₂_map_right_iff]
  exact pairs.imp each

/-- Two runs that differ in nothing but fuel, of which the second has at least as much. -/
structure Exchange.Backed (first second : Exchange) : Prop where
  calls : List.Forall₂ Call.Backed first.calls second.calls
  loan_eq : first.loan = second.loan
  outcome_eq : first.outcome = second.outcome
  machine_eq : second.machine = { first.machine with fuel := second.machine.fuel }

theorem Exchange.Backed.fragments_eq {first second : Exchange} (backed : first.Backed second) :
    first.fragments = second.fragments := by
  have written : first.calls.map Call.written = second.calls.map Call.written :=
    map_eq_of_forall₂ (fun _ _ call => call.written_eq) backed.calls
  rw [fragments, fragments, List.flatMap_def, List.flatMap_def, written, backed.outcome_eq]

theorem Guest.Machine.Backed.eq_with_fuel {first second : Machine}
    (backed : first.Backed second) : second = { first with fuel := second.fuel } := by
  cases backed
  rfl

namespace Session

/-- Two sessions that differ in nothing but fuel, of which the second has budgets that are at least
as large. -/
structure Backed (first second : Session) : Prop where
  env_eq : second.env = first.env.budgeted second.host.limits.fuelPerRun
  covers : Covers second.host.limits.fuelPerRun first.host.limits.fuelPerRun
  machine_eq : second.machine = { first.machine with fuel := second.machine.fuel }
  output_eq : first.host.output = second.host.output
  runs_eq : first.runs = second.runs

/-- A run takes one course only. -/
theorem Course.unique {session : Session} {octets : List UInt8} {exchange other : Exchange}
    (course : Course session octets exchange) (again : Course session octets other) :
    exchange = other := by
  cases course <;> cases again <;> grind

namespace Backed

variable {first second : Session}

theorem refueled (backed : first.Backed second) {machine other : Machine}
    (machine_eq : other = { machine with fuel := other.fuel }) :
    (first.refueled machine).Backed (second.refueled other) := by
  rw [machine_eq]
  exact .fueled backed.covers

theorem perform (backed : first.Backed second) (callee : Callee) {machine other : Machine}
    (machines : machine.Backed other)
    (ample : ¬ (Call.perform first.env callee machine).Exhausts first.env) :
    (Call.perform first.env callee machine).Backed (Call.perform second.env callee other) := by
  rw [backed.env_eq, Call.perform_budgeted]
  exact Call.perform_backed first.env callee machines ample

theorem asked (backed : first.Backed second) {octets : List UInt8}
    (ample : ¬ (first.asked octets).Exhausts first.env) :
    (first.asked octets).Backed (second.asked octets) :=
  backed.perform _ (backed.refueled backed.machine_eq) ample

/-- With larger budgets a run takes the same course. -/
theorem course (backed : first.Backed second) {octets : List UInt8} {exchange : Exchange}
    (course : Course first octets exchange)
    (ample : ∀ call ∈ exchange.calls, ¬ call.Exhausts first.env) :
    ∃ other, Course second octets other ∧ exchange.Backed other := by
  cases course with
  | stopped stop answer =>
      have asked := backed.asked (ample _ List.mem_cons_self)
      rw [asked.outcome_eq] at answer
      exact ⟨_, .stopped stop answer, .cons asked .nil, rfl, rfl, asked.left.eq_with_fuel⟩
  | null answer =>
      have asked := backed.asked (ample _ List.mem_cons_self)
      rw [asked.outcome_eq] at answer
      exact ⟨_, .null answer, .cons asked .nil, rfl, rfl, asked.left.eq_with_fuel⟩
  | outside ptr memory freed answer nonzero here outside frees =>
      simp only [List.forall_mem_cons] at ample
      obtain ⟨asking, freeing, -⟩ := ample
      have asked := backed.asked asking
      rw [asked.outcome_eq] at answer
      rw [asked.left.memory_eq] at here
      obtain rfl := frees
      have freed := backed.perform _ (backed.refueled asked.left.eq_with_fuel) freeing
      exact ⟨_, .outside ptr memory _ answer nonzero here outside rfl,
        .cons asked (.cons freed .nil), rfl, rfl, freed.left.eq_with_fuel⟩
  | entered ptr memory ran freed answer nonzero here fits enters frees =>
      simp only [List.forall_mem_cons] at ample
      obtain ⟨asking, running, freeing, -⟩ := ample
      have asked := backed.asked asking
      rw [asked.outcome_eq] at answer
      rw [asked.left.memory_eq] at here
      obtain rfl := enters
      obtain rfl := frees
      have ran := backed.perform _ (asked.left.withMemory _) running
      have freed := backed.perform _ (backed.refueled ran.left.eq_with_fuel) freeing
      refine ⟨_, .entered ptr memory _ _ answer nonzero here fits rfl rfl,
        .cons asked (.cons ran (.cons freed .nil)), rfl, ?_, freed.left.eq_with_fuel⟩
      simp only [ran.outcome_eq, freed.outcome_eq]

theorem exchange (backed : first.Backed second) (ready : first.Ready) (other : second.Ready)
    {source : String}
    (ample : ∀ call ∈ (first.exchange source).calls, ¬ call.Exhausts first.env) :
    (first.exchange source).Backed (second.exchange source) := by
  by_cases empty : (Utf8.encode source).length = 0
  · rw [exchange_of_empty empty, exchange_of_empty empty]
    exact ⟨.nil, rfl, rfl, backed.machine_eq⟩
  by_cases short : (Utf8.encode source).length < Exchange.sourceBound
  · obtain ⟨exchange, course, runs⟩ := backed.course (ready.course empty short) ample
    rw [(other.course empty short).unique course]
    exact runs
  · rw [exchange_of_long (Nat.not_lt.mp short), exchange_of_long (Nat.not_lt.mp short)]
    exact ⟨.nil, rfl, rfl, backed.machine_eq⟩

theorem run (backed : first.Backed second) {source : String}
    (runs : (first.exchange source).Backed (second.exchange source)) :
    (first.act (.run source)).Backed (second.act (.run source)) where
  env_eq := backed.env_eq
  covers := backed.covers
  machine_eq := runs.machine_eq
  output_eq := by
    simp only [act, Session.run, Host.emitAll, runs.fragments_eq, backed.output_eq]
  runs_eq := by
    simp only [act, Session.run, runs.loan_eq, backed.runs_eq]

theorem clear (backed : first.Backed second) :
    (first.act .clear).Backed (second.act .clear) where
  env_eq := backed.env_eq
  covers := backed.covers
  machine_eq := backed.machine_eq
  output_eq := congrArg Transcript.clear backed.output_eq
  runs_eq := backed.runs_eq

/-- As long as no call uses up all fuel, larger budgets make no difference. -/
theorem after (backed : first.Backed second) (ready : first.Ready) (other : second.Ready)
    (deeds : List Deed) (ample : ∀ call ∈ first.calls deeds, ¬ call.Exhausts first.env) :
    List.Forall₂ Exchange.Backed (first.exchanges deeds) (second.exchanges deeds) ∧
      (first.after deeds).Backed (second.after deeds) := by
  induction deeds generalizing first second with
  | nil => exact ⟨.nil, backed⟩
  | cons deed later ih =>
      have env_eq := first.env_act deed
      cases deed with
      | clear =>
          rw [← env_eq] at ample
          exact ih backed.clear (ready.act .clear) (other.act .clear) ample
      | run source =>
          simp only [calls, exchanges, List.flatMap_cons, List.forall_mem_append] at ample
          obtain ⟨now, rest⟩ := ample
          have runs := backed.exchange ready other now
          rw [← env_eq] at rest
          obtain ⟨each, last⟩ := ih (backed.run runs) (ready.act _) (other.act _) rest
          exact ⟨.cons runs each, last⟩

end Backed

/-! ## Opening -/

section

variable {limits : Limits} {program : Program} {host : Host} {session : Session} {fuel : Nat}

/-- What is opened is settled by program, limits and host. -/
theorem OpenedWith.unique {other : Session} (opened : session.OpenedWith limits program host)
    (again : other.OpenedWith limits program host) : session = other := by
  obtain ⟨self, left, made, done⟩ := opened
  obtain ⟨_, _, remade, redone⟩ := again
  obtain rfl := Except.ok.inj (congrArg Prod.fst (made.symm.trans remade))
  exact Except.ok.inj (done.symm.trans redone)

/-- A program that comes to run with budgets has no start function. -/
theorem OpenedWith.start_eq_none (opened : session.OpenedWith limits program host)
    (budget : limits.fuelPerRun = some fuel) : program.start = none := by
  obtain ⟨machine, assembled⟩ := exists_assembled opened.fresh.booted
  obtain ⟨self, left, made, -⟩ := opened
  rw [make_of_metered budget assembled] at made
  cases present : program.start with
  | none => rfl
  | some body => simp [present] at made

/-- A program that comes to run with budgets does so with larger ones. -/
theorem OpenedWith.exists_backed (opened : session.OpenedWith limits program host)
    (budget : limits.fuelPerRun = some fuel) {larger : Option Nat}
    (covers : Covers larger (some fuel)) :
    ∃ other : Session, other.OpenedWith { limits with fuelPerRun := larger } program host ∧
      session.Backed other := by
  have absent := opened.start_eq_none budget
  obtain ⟨program_eq, booted, host_eq, runs_eq, reaches, supported, callable⟩ := opened.fresh
  obtain ⟨machine, assembled⟩ := exists_assembled booted
  have boot_eq : boot ⟨program, some limits, host.clock⟩ = (.ok machine, []) := by
    simp [boot, assembled, absent]
  have budgeted : (⟨program, some { limits with fuelPerRun := larger }, host.clock⟩ : Env) =
      (⟨program, some limits, host.clock⟩ : Env).budgeted larger := rfl
  have boot_budgeted :
      boot ⟨program, some { limits with fuelPerRun := larger }, host.clock⟩ =
        (.ok { machine with fuel := larger.map fun _ => 0 }, []) := by
    rw [budgeted, boot, assemble_budgeted, assembled]
    simp [Except.map, Env.budgeted, initialFuel, absent]
  rw [boot_eq] at booted host_eq
  obtain rfl := Except.ok.inj booted
  refine ⟨⟨program, { session.machine with fuel := larger.map fun _ => 0 },
    { host with limits := { limits with fuelPerRun := larger } }, 0⟩, ?_, ?_⟩
  · apply Fresh.openedWith
    exact ⟨rfl, by rw [boot_budgeted], by rw [boot_budgeted]; rfl, rfl, reaches, supported,
      callable⟩
  · have limits_eq : session.host.limits = limits := by rw [host_eq]; rfl
    refine ⟨?_, ?_, rfl, by rw [host_eq]; rfl, runs_eq⟩
    · rw [env, env, program_eq, host_eq]
      rfl
    · rw [limits_eq, budget]
      exact covers

end

/-- Some deeds go the same way in two sessions, run by run, and leave the same in the end. -/
structure Concur (first second : Session) (deeds : List Deed) : Prop where
  outcomes_eq : (first.exchanges deeds).map Exchange.outcome =
    (second.exchanges deeds).map Exchange.outcome
  fragments_eq : (first.exchanges deeds).map Exchange.fragments =
    (second.exchanges deeds).map Exchange.fragments
  output_eq : (first.after deeds).host.output = (second.after deeds).host.output
  globals_eq : (first.after deeds).machine.globals = (second.after deeds).machine.globals
  memory_eq : (first.after deeds).machine.memory = (second.after deeds).machine.memory
  table_eq : (first.after deeds).machine.table = (second.after deeds).machine.table
  runs_eq : (first.after deeds).runs = (second.after deeds).runs

/-- **A larger budget makes no difference.**  What a session does without using up the budget of any
call it does with any larger budget and with none: the same sessions can be opened, and the same
deeds have the same outcomes, output and effects on the guest. -/
theorem concur_of_larger_budget {limits : Limits} {program : Program} {host : Host}
    {session : Session} {fuel : Nat} (budget : limits.fuelPerRun = some fuel)
    (opened : session.OpenedWith limits program host) (deeds : List Deed)
    (ample : ∀ call ∈ session.calls deeds, ¬ call.Exhausts session.env) (larger : Option Nat)
    (at_least : ∀ units, larger = some units → fuel ≤ units) :
    (∃ other : Session, other.OpenedWith { limits with fuelPerRun := larger } program host) ∧
      ∀ other : Session, other.OpenedWith { limits with fuelPerRun := larger } program host →
        session.Concur other deeds := by
  have covers : Covers larger (some fuel) := fun units here => ⟨fuel, at_least units here, rfl⟩
  obtain ⟨other, reopened, backed⟩ := opened.exists_backed budget covers
  refine ⟨⟨other, reopened⟩, fun again opening => ?_⟩
  obtain rfl := reopened.unique opening
  obtain ⟨each, last⟩ := backed.after opened.ready reopened.ready deeds ample
  refine ⟨?_, ?_, last.output_eq, ?_, ?_, ?_, last.runs_eq⟩
  · exact map_eq_of_forall₂ (fun _ _ runs => runs.outcome_eq) each
  · exact map_eq_of_forall₂ (fun _ _ runs => runs.fragments_eq) each
  · rw [last.machine_eq]
  · rw [last.machine_eq]
  · rw [last.machine_eq]

/-- Where no call ends for want of fuel, no call uses it up. -/
theorem Ready.not_exhausts {session : Session} (ready : session.Ready) (deeds : List Deed)
    (ended : ∀ call ∈ session.calls deeds, call.outcome ≠ .error (.trap .fuel)) :
    ∀ call ∈ session.calls deeds, ¬ call.Exhausts session.env := by
  induction deeds generalizing session with
  | nil => simp [calls, exchanges]
  | cons deed later ih =>
      have env_eq := session.env_act deed
      cases deed with
      | clear =>
          rw [← env_eq]
          exact ih (ready.act .clear) ended
      | run source =>
          simp only [calls, exchanges, List.flatMap_cons, List.forall_mem_append] at ended ⊢
          obtain ⟨now, rest⟩ := ended
          constructor
          · intro call member
            exact Call.not_exhausts (ready.genuine_of_mem_calls member) (now call member)
          · rw [← env_eq]
            exact ih (ready.act (.run source)) rest

/-- The entry writes its source octet by octet, with calls of the allocator in between, and aborts
if there are more than three. -/
def spellerProgram : Program where
  globals := [("left", .word 0)]
  alloc := .leave (.word 1024)
  run := .ofList [
    .assign "left" .frameLength,
    .loop (.global "left") (.ofList [
      .write .stdout (.binary .sub (.binary .add .frameStart .frameLength) (.global "left"))
        (.word 1),
      .assign "left" (.binary .sub (.global "left")
        (.binary .eq (.alloc (.word 1)) (.word 1024)))]),
    .branch (.binary .gtU .frameLength (.word 3)) .abort .skip]

/-- A session on `spellerProgram`, just opened. -/
def spellerSession (budget : Option Nat) : Session where
  program := spellerProgram
  machine :=
    { memory := some { pages := 1 }, globals := [("left", .word 0)], table := none,
      fuel := budget.map fun _ => 0 }
  host := { output := .new .merged, limits := { fuelPerRun := budget } }

theorem concur_of_larger_budget_spellerSession :
    let deeds := [.run "one", .clear, .run "three", .run "two"]
    (∀ larger ∈ [none, some 5000], (spellerSession (some 200)).Concur (spellerSession larger)
      deeds) ∧
    ((spellerSession none).exchanges deeds).map Exchange.outcome =
      [.ok (), .error (.trapped (.trap .unreachable)), .ok ()] ∧
    ((spellerSession none).after deeds).host.output.contents =
      "threeerror: guest trapped: wasm trap: wasm `unreachable` instruction executed\ntwo" := by
  intro deeds
  have opened (budget : Option Nat) : (spellerSession budget).OpenedWith
      { fuelPerRun := budget } spellerProgram { output := .new .merged } := by
    cases budget <;> exact ⟨_, _, rfl, rfl⟩
  have ample := (opened (some 200)).ready.not_exhausts deeds (by decide +kernel)
  have concur (larger : Option Nat) (at_least : ∀ units, larger = some units → 200 ≤ units) :
      (spellerSession (some 200)).Concur (spellerSession larger) deeds :=
    (concur_of_larger_budget rfl (opened (some 200)) deeds ample larger at_least).2 _ (opened larger)
  refine ⟨?_, ?_, ?_⟩
  · rintro larger (_ | ⟨_, _ | ⟨_, ⟨⟩⟩⟩)
    · exact concur none nofun
    · exact concur (some 5000) (by rintro _ ⟨⟩; decide)
  · rw [← (concur none nofun).outcomes_eq]
    decide +kernel
  · rw [← (concur none nofun).output_eq]
    decide +kernel

end Session
end SandboxHost
