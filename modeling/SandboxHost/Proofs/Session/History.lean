import SandboxHost.Session
import SandboxHost.Proofs.Guest.Steps

/-!
# Histories of sessions

A session is opened on a program and then used, run by run.  Every run finds the session ready: the
guest has a memory that the host reaches, and its work is metered exactly if runs have a budget.
-/

namespace SandboxHost

open Guest

/-- What is done with a session. -/
inductive Deed
  | run (source : String)
  | clear
  deriving DecidableEq, Repr

namespace Session

/-- The session after a deed. -/
def act (session : Session) : Deed → Session
  | .run source => (session.run source).2
  | .clear => session.clearOutput

/-- The session after some deeds. -/
def after (session : Session) (deeds : List Deed) : Session :=
  deeds.foldl act session

/-- The records of all runs among some deeds, in order. -/
def exchanges (session : Session) : List Deed → List Exchange
  | [] => []
  | .run source :: later =>
      session.exchange source :: (session.act (.run source)).exchanges later
  | .clear :: later => (session.act .clear).exchanges later

/-- A session with other output. -/
def withOutput (session : Session) (output : Transcript) : Session :=
  { session with host := { session.host with output } }

/-- All calls that some deeds make into the guest, in order. -/
def calls (session : Session) (deeds : List Deed) : List Call :=
  (session.exchanges deeds).flatMap Exchange.calls

/-- A session was opened on a program, under a loader's limits and with a host's state. -/
def OpenedWith (limits : Limits) (program : Program) (host : Host) (session : Session) : Prop :=
  ∃ (self : Instance) (left : Host),
    Instance.make limits program host = (.ok self, left) ∧ ofInstance self = .ok session

/-- A session was opened. -/
def Opened (session : Session) : Prop :=
  ∃ limits program host, session.OpenedWith limits program host

/-- A session was opened and then used. -/
def Reachable (session : Session) : Prop :=
  ∃ fresh deeds, Opened fresh ∧ session = fresh.after deeds

/-- What a run relies on. -/
structure Ready (session : Session) : Prop where
  /-- The host reaches the guest's memory. -/
  reaches : ∃ memory, memoryOf session.program session.machine = .ok memory
  /-- Work is metered exactly if runs have a budget. -/
  metered : session.machine.equipment.metered = session.host.limits.fuelPerRun.isSome

end Session

/-! ## Opening -/

namespace Guest

/-- What holds between the machines around each store of octets holds between the machines around
the copying of all initial data. -/
theorem relates_of_copySegments {Related : Machine → Machine → Prop}
    (refl : ∀ machine, Related machine machine)
    (trans : ∀ {first second third}, Related first second → Related second third →
      Related first third)
    (store : ∀ (machine : Machine) (memory : Memory) (address : Nat) (octets : List UInt8),
      machine.memory = some memory → address + octets.length ≤ memory.size →
        Related machine { machine with memory := some (memory.store address octets) })
    {machine copied : Machine} {segments : List Segment}
    (performed : segments.foldlM copySegment machine = .ok copied) : Related machine copied := by
  induction segments generalizing machine with
  | nil =>
      obtain rfl := Except.ok.inj performed
      exact refl machine
  | cons segment segments ih =>
      rw [List.foldlM_cons] at performed
      cases first : copySegment machine segment with
      | error failure => simp [first, bind, Except.bind] at performed
      | ok middle =>
          rw [first] at performed
          apply trans ?_ (ih performed)
          unfold copySegment at first
          split at first
          · simp at first
          · rename_i memory here
            split at first
            · rename_i inside
              obtain rfl := Except.ok.inj first
              exact store machine memory _ _ here inside
            · simp at first

/-- A machine is assembled from the initial memory and the initial table, by stores of octets. -/
theorem relates_of_assemble (Related : Machine → Machine → Prop)
    (refl : ∀ machine, Related machine machine)
    (trans : ∀ {first second third}, Related first second → Related second third →
      Related first third)
    (store : ∀ (machine : Machine) (memory : Memory) (address : Nat) (octets : List UInt8),
      machine.memory = some memory → address + octets.length ≤ memory.size →
        Related machine { machine with memory := some (memory.store address octets) })
    {env : Env} {machine : Machine} (assembled : assemble env = .ok machine) :
    ∃ memory table, initialMemory env = .ok memory ∧ initialTable env = .ok table ∧
      Related { memory, globals := env.program.globals, table, fuel := initialFuel env }
        machine := by
  unfold assemble at assembled
  simp only [bind, Except.bind] at assembled
  split at assembled
  · simp at assembled
  split at assembled
  · simp at assembled
  rename_i memory memory_eq
  split at assembled
  · simp at assembled
  rename_i table table_eq
  exact ⟨memory, table, memory_eq, table_eq, relates_of_copySegments refl trans store assembled⟩

/-- A new machine has no fuel, and its work is metered exactly if the limits give runs a budget. -/
theorem fuel_of_assemble {env : Env} {machine : Machine} (assembled : assemble env = .ok machine) :
    machine.fuel = initialFuel env := by
  obtain ⟨memory, table, -, -, fuel_eq⟩ := relates_of_assemble
    (fun before after => after.fuel = before.fuel) (fun _ => rfl)
    (fun first second => second.trans first) (fun _ _ _ _ _ _ => rfl) assembled
  exact fuel_eq

/-- The start function changes nothing of the equipment. -/
theorem metered_of_boot {env : Env} {machine : Machine} (booted : (boot env).1 = .ok machine) :
    machine.equipment.metered = (env.limits.bind Limits.fuelPerRun).isSome := by
  unfold boot at booted
  split at booted
  · simp at booted
  rename_i assembled assembles
  have metered : assembled.equipment.metered = (env.limits.bind Limits.fuelPerRun).isSome := by
    simp only [Machine.equipment, fuel_of_assemble assembles, initialFuel, Option.isSome_map]
  rw [← metered]
  split at booted
  · rw [Except.ok.inj booted]
  · have left := Call.equipment_left (genuine_perform env .start assembled)
    dsimp only at booted
    split at booted
    · rw [← Except.ok.inj booted, left]
      rfl
    · simp at booted

end Guest

namespace Session

variable {limits : Limits} {program : Program} {host : Host} {session : Session}

/-- A session is opened on an instance that has what runs need. -/
theorem ofInstance_eq_ok_iff {self : Instance} :
    ofInstance self = .ok session ↔
      (∃ memory, memoryOf self.program self.machine = .ok memory) ∧
      Loan.supported self.program = .ok () ∧ self.program.callable .runCodeApi = .ok () ∧
      session = { program := self.program, machine := self.machine, host := self.host } := by
  unfold ofInstance
  cases reached : memoryOf self.program self.machine with
  | error refusal => exact ⟨nofun, fun needs => nomatch needs.1⟩
  | ok memory =>
      cases supported : Loan.supported self.program with
      | error fault => exact ⟨nofun, fun needs => nomatch needs.2.1⟩
      | ok _ =>
          cases callable : self.program.callable .runCodeApi with
          | error refusal => exact ⟨nofun, fun needs => nomatch needs.2.2.1⟩
          | ok _ =>
              constructor
              · intro opened
                exact ⟨⟨memory, rfl⟩, rfl, rfl, (Except.ok.inj opened).symm⟩
              · rintro ⟨-, -, -, rfl⟩
                rfl

/-- What is known of a session that was just opened. -/
structure Fresh (limits : Limits) (program : Program) (host : Host) (session : Session) : Prop where
  program_eq : session.program = program
  booted : (boot ⟨program, some limits, host.clock⟩).1 = .ok session.machine
  host_eq : session.host =
    ({ host with limits } : Host).emitAll (boot ⟨program, some limits, host.clock⟩).2
  runs_eq : session.runs = 0
  reaches : ∃ memory, memoryOf program session.machine = .ok memory
  supported : Loan.supported program = .ok ()
  callable : program.callable .runCodeApi = .ok ()

theorem OpenedWith.fresh (opened : session.OpenedWith limits program host) :
    session.Fresh limits program host := by
  obtain ⟨self, left, made, done⟩ := opened
  obtain ⟨reaches, supported, callable, rfl⟩ := ofInstance_eq_ok_iff.mp done
  simp only [Instance.make, Prod.mk.injEq] at made
  obtain ⟨made, -⟩ := made
  cases booted : (boot ⟨program, some limits, host.clock⟩).1 with
  | error failure => simp [booted, Except.map] at made
  | ok machine =>
      rw [booted] at made
      obtain rfl := Except.ok.inj made
      exact ⟨rfl, booted, rfl, rfl, reaches, supported, callable⟩

/-- Nothing more is asked of a session that was just opened. -/
theorem Fresh.openedWith (fresh : session.Fresh limits program host) :
    session.OpenedWith limits program host := by
  have made : Instance.make limits program host =
      (.ok ⟨program, session.machine, session.host⟩, session.host) := by
    simp only [Instance.make, fresh.booted, Except.map, ← fresh.host_eq]
  refine ⟨_, _, made,
    ofInstance_eq_ok_iff.mpr ⟨fresh.reaches, fresh.supported, fresh.callable, ?_⟩⟩
  rw [← fresh.program_eq]
  exact congrArg (Session.mk session.program session.machine session.host) fresh.runs_eq

theorem OpenedWith.ready (opened : session.OpenedWith limits program host) : session.Ready where
  reaches := opened.fresh.program_eq ▸ opened.fresh.reaches
  metered := by
    rw [metered_of_boot opened.fresh.booted, opened.fresh.host_eq]
    rfl

theorem OpenedWith.env_eq (opened : session.OpenedWith limits program host) :
    session.env = ⟨program, some limits, host.clock⟩ := by
  rw [env, opened.fresh.program_eq, opened.fresh.host_eq]
  rfl

theorem env_act (deed : Deed) : (session.act deed).env = session.env := by
  cases deed <;> rfl

/-- What surrounds a guest stays the same for the whole session. -/
theorem env_after (deeds : List Deed) : (session.after deeds).env = session.env := by
  induction deeds generalizing session with
  | nil => rfl
  | cons deed later ih => exact ih.trans (env_act deed)

/-- A session on a guest of three bodies and one page of memory, just opened. -/
def ofBodies (alloc free run : Stmt) : Session where
  program := { alloc, free, run }
  machine := { memory := some { pages := 1 }, globals := [], table := none }
  host := { output := .new .merged }

theorem opened_ofBodies (alloc free run : Stmt) : (ofBodies alloc free run).Opened :=
  ⟨{}, { alloc, free, run }, { output := .new .merged }, _, _, rfl, rfl⟩

theorem reachable_ofBodies (alloc free run : Stmt) : (ofBodies alloc free run).Reachable :=
  ⟨_, [], opened_ofBodies alloc free run, rfl⟩

end Session
end SandboxHost
