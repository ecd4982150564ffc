import SandboxHost.Proofs.Guest.Writes
import SandboxHost.Proofs.Output
import SandboxHost.Proofs.Session.Course

/-!
# What a session writes

The output of a session is told by its journal: run by run the writes that succeeded, as their steps
show them, and then the report if the run failed.  Clearing the output begins a new journal.  The
first journal begins with what the transcript held and what the start function wrote.
-/

namespace SandboxHost

open Guest

/-- The entries of all writes that succeeded in a program's start function. -/
def Guest.startEntries (env : Env) : List Fragment :=
  match assemble env with
  | .error _ => []
  | .ok machine =>
      if env.program.start.isNone then [] else (Call.perform env .start machine).entries env

theorem Guest.boot_written (env : Env) : (boot env).2 = startEntries env := by
  unfold boot startEntries
  cases assemble env with
  | error failure => rfl
  | ok machine =>
      have written := Call.written_eq_entries (genuine_perform env .start machine)
      cases env.program.start.isNone with
      | true => rfl
      | false =>
          simp only [Bool.false_eq_true, if_false]
          rw [← written]
          cases (Call.perform env .start machine).outcome <;> rfl

namespace Session

variable {session : Session}

/-- What a run adds to the output: an entry for each write that succeeded, then the report of the
fault if there was one. -/
def entries (session : Session) (source : String) : List Fragment :=
  (session.exchange source).calls.flatMap (Call.entries session.env) ++
    match (session.run source).1 with
    | .ok _ => []
    | .error (.outOfMemory _) => [⟨.stderr, "Failed to allocate memory\n"⟩]
    | .error fault => [⟨.stderr, "error: " ++ fault.message ++ "\n"⟩]

/-- The entries since the last clearing, after some deeds and some earlier entries. -/
def journal (session : Session) (earlier : List Fragment) : List Deed → List Fragment
  | [] => earlier
  | .run source :: later =>
      (session.act (.run source)).journal (earlier ++ session.entries source) later
  | .clear :: later => (session.act .clear).journal [] later

theorem Ready.fragments_eq (ready : session.Ready) (source : String) :
    (session.exchange source).fragments = session.entries source := by
  have written : (session.exchange source).calls.flatMap Call.written =
      (session.exchange source).calls.flatMap (Call.entries session.env) := by
    rw [List.flatMap_def, List.flatMap_def]
    congr 1
    apply List.map_congr_left
    intro call member
    exact Call.written_eq_entries (ready.genuine_of_mem_calls member)
  have outcome : (session.run source).1 = (session.exchange source).outcome := rfl
  simp only [Exchange.fragments, entries, written, outcome]
  cases (session.exchange source).outcome with
  | ok _ => rfl
  | error fault => cases fault <;> rfl

/-- If the output is that of some entries, it is that of the journal ever after. -/
theorem Ready.output_after (ready : session.Ready) {routing : Routing} {earlier : List Fragment}
    (output : session.host.output = Transcript.collected routing earlier) (deeds : List Deed) :
    (session.after deeds).host.output =
      Transcript.collected routing (session.journal earlier deeds) := by
  induction deeds generalizing session earlier with
  | nil => exact output
  | cons deed later ih =>
      cases deed with
      | run source =>
          apply ih (ready.act (.run source))
          rw [← Transcript.appendAll_collected, ← output, ← ready.fragments_eq]
          rfl
      | clear =>
          apply ih (ready.act .clear)
          rw [Transcript.collected_nil, ← Transcript.routing_collected routing earlier, ← output]
          rfl

/-- A clearing parts what is done into what no longer counts and what the journal tells. -/
theorem journal_append_clear (earlier : List Fragment) (front back : List Deed) :
    session.journal earlier (front ++ .clear :: back) =
      (session.after (front ++ [.clear])).journal [] back := by
  induction front generalizing session earlier with
  | nil => rfl
  | cons deed later ih =>
      cases deed with
      | run source => exact ih _
      | clear => exact ih _

/-- **The output is the journal.**  The output of a session holds exactly the texts of its journal,
each where its stream belongs.  The journal begins with what the transcript held and what the start
function wrote, until the first clearing. -/
theorem output_law {limits : Limits} {program : Program} {host : Host} {routing : Routing}
    (opened : session.OpenedWith limits program host) (earlier : List Fragment)
    (held : host.output = (Transcript.new routing).appendAll earlier) (deeds : List Deed) :
    (session.after deeds).host.output =
      Transcript.collected routing
        (session.journal (earlier ++ startEntries ⟨program, some limits, host.clock⟩) deeds) ∧
    ∀ front back, deeds = front ++ .clear :: back →
      (session.after deeds).host.output =
        Transcript.collected routing ((session.after (front ++ [.clear])).journal [] back) := by
  have fresh : session.host.output =
      Transcript.collected routing
        (earlier ++ startEntries ⟨program, some limits, host.clock⟩) := by
    rw [opened.fresh.host_eq, ← Transcript.appendAll_collected, ← boot_written]
    have began : Transcript.collected routing earlier = host.output := by
      rw [held, ← Transcript.collected_nil, Transcript.appendAll_collected, List.nil_append]
    rw [began]
    rfl
  have output := opened.ready.output_after fresh deeds
  refine ⟨output, fun front back parts => ?_⟩
  rw [output, parts, journal_append_clear]

/-- A guest that writes a greeting when it starts and, when it runs, what it is given. -/
def greetingProgram : Program where
  data := [⟨0, [65]⟩]
  alloc := .leave (.word 1024)
  run := .write .stdout .frameStart .frameLength
  start := some (.write .stdout (.word 0) (.word 1))

/-- A session on `greetingProgram`, just opened. -/
def greetingSession : Session where
  program := greetingProgram
  machine :=
    { memory := some (({ pages := 1 } : Memory).store 0 [65]), globals := [], table := none }
  host := { output := ⟨.merged, "A", ""⟩ }

theorem opened_greetingSession :
    greetingSession.OpenedWith {} greetingProgram { output := .new .merged } :=
  ⟨_, _, rfl, rfl⟩

theorem output_law_greetingSession :
    (greetingSession.after [.run "hi"]).host.output = ⟨.merged, "Ahi", ""⟩ ∧
    (greetingSession.after [.run "hi", .clear, .run "ho"]).host.output = ⟨.merged, "ho", ""⟩ := by
  have law := output_law opened_greetingSession [] rfl
  constructor
  · rw [(law [.run "hi"]).1]
    decide +kernel
  · rw [(law [.run "hi", .clear, .run "ho"]).2 [.run "hi"] [.run "ho"] rfl]
    decide +kernel

/-- The runs alone do not account for the output: what the start function wrote is there before
them. -/
theorem output_of_runs_alone_false :
    ¬ ∀ (limits : Limits) (program : Program) (routing : Routing) (session : Session)
        (deeds : List Deed),
      session.OpenedWith limits program { output := .new routing } →
        (session.after deeds).host.output =
          Transcript.collected routing (session.journal [] deeds) := by
  intro law
  have output := law {} greetingProgram .merged greetingSession [.run "hi"] opened_greetingSession
  exact absurd (congrArg Transcript.contents output) (by decide +kernel)

end Session
end SandboxHost
