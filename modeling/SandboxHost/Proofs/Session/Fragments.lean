import SandboxHost.Proofs.Session.Journal
import SandboxHost.Proofs.Text.Fragments

/-!
# Texts written in several writes

Each write is decoded on its own.  A guest that writes a text octet list by octet list, never cutting
inside a character, leaves the same merged output as one that writes it at once.
-/

namespace SandboxHost

open Guest

/-! ## The octets of writes -/

namespace Guest

/-- The octets that a step writes, if it is a write that succeeds: what the span held just before. -/
def Step.octets? (step : Step) : Option (List UInt8) :=
  match step.instruction, step.outcome with
  | .write _ span, .ok _ => some (step.before.machine.octetsAt span)
  | _, _ => none

/-- The octets of all writes that succeeded during a call, write by write. -/
def Call.octets (env : Env) (call : Call) : List (List UInt8) :=
  (call.steps env).filterMap Step.octets?

/-- The octets of all writes that succeeded in a program's start function, write by write. -/
def startOctets (env : Env) : List (List UInt8) :=
  match assemble env with
  | .error _ => []
  | .ok machine =>
      if env.program.start.isNone then [] else (Call.perform env .start machine).octets env

/-- The text of an entry is decoded from the octets of its write alone. -/
theorem Step.text_emitted? (step : Step) :
    step.emitted?.map Fragment.text = step.octets?.map Utf8.decode := by
  obtain ⟨instruction, before, outcome, after⟩ := step
  cases instruction <;> cases outcome <;> rfl

theorem Call.text_entries (env : Env) (call : Call) :
    (call.entries env).map Fragment.text = (call.octets env).map Utf8.decode := by
  rw [entries, octets, List.map_filterMap, List.map_filterMap]
  congr 1
  funext step
  exact step.text_emitted?

theorem joined_startEntries (env : Env) :
    Fragment.joined (startEntries env) = String.join ((startOctets env).map Utf8.decode) := by
  unfold startEntries startOctets
  cases assemble env with
  | error failure => rfl
  | ok machine =>
      dsimp only
      split
      · rfl
      · rw [Fragment.joined, Call.text_entries]

end Guest

/-- The octets of all writes that succeeded during a run, write by write. -/
def Exchange.octets (env : Env) (exchange : Exchange) : List (List UInt8) :=
  exchange.calls.flatMap (Call.octets env)

namespace Session

variable {session : Session}

/-- The octets of all writes that succeed in some deeds, write by write. -/
def octets (session : Session) (deeds : List Deed) : List (List UInt8) :=
  (session.exchanges deeds).flatMap (Exchange.octets session.env)

/-- The reports of all runs that fail among some deeds. -/
def reports (session : Session) (deeds : List Deed) : List Fragment :=
  (session.exchanges deeds).flatMap fun exchange => Exchange.report exchange.outcome

/-- What a guest writes in some deeds, where nothing is cleared and no run fails but the last. -/
structure Writes (session : Session) (deeds : List Deed) (fragments : List (List UInt8)) :
    Prop where
  octets_eq : session.octets deeds = fragments
  kept : .clear ∉ deeds
  /-- A run that another one follows has succeeded. -/
  succeed : (session.exchanges deeds).Pairwise fun earlier _ => earlier.outcome = .ok ()

/-! ## Merged output -/

theorem Ready.joined_written (ready : session.Ready) (source : String) :
    Fragment.joined ((session.exchange source).calls.flatMap Call.written) =
      String.join (((session.exchange source).octets session.env).map Utf8.decode) := by
  rw [Fragment.joined, Exchange.octets, List.map_flatMap, List.map_flatMap, List.flatMap_def,
    List.flatMap_def]
  congr 2
  apply List.map_congr_left
  intro call member
  rw [Call.written_eq_entries (ready.genuine_of_mem_calls member), Call.text_entries]

/-- A run adds the texts of its writes to merged output and then its report. -/
theorem Ready.output_run (ready : session.Ready) (merged : session.host.output.routing = .merged)
    (source : String) :
    (session.act (.run source)).host.output =
      { session.host.output with
        contents := session.host.output.contents ++
          (String.join (((session.exchange source).octets session.env).map Utf8.decode) ++
            Fragment.joined (Exchange.report (session.exchange source).outcome)) } := by
  rw [← ready.joined_written, ← Fragment.joined_append]
  exact Transcript.appendAll_of_merged merged (session.exchange source).fragments

theorem octets_run (source : String) (later : List Deed) :
    session.octets (.run source :: later) =
      (session.exchange source).octets session.env ++
        (session.act (.run source)).octets later := by
  rw [octets, exchanges, List.flatMap_cons, ← env_act (.run source)]
  rfl

theorem reports_run (source : String) (later : List Deed) :
    session.reports (.run source :: later) =
      Exchange.report (session.exchange source).outcome ++
        (session.act (.run source)).reports later :=
  List.flatMap_cons

/-- Deeds add the texts of their writes to merged output, each decoded on its own, and a report if
the last run fails. -/
theorem Ready.output_after_writes (ready : session.Ready)
    (merged : session.host.output.routing = .merged) {deeds : List Deed}
    (kept : .clear ∉ deeds)
    (succeed : (session.exchanges deeds).Pairwise fun earlier _ => earlier.outcome = .ok ()) :
    (session.after deeds).host.output =
      { session.host.output with
        contents := session.host.output.contents ++
          (String.join ((session.octets deeds).map Utf8.decode) ++
            Fragment.joined (session.reports deeds)) } := by
  induction deeds generalizing session with
  | nil =>
      have nothing : (session.after []).host.output = session.host.output := rfl
      simp [nothing, octets, reports, exchanges, Fragment.joined]
  | cons deed later ih =>
      cases deed with
      | clear => simp at kept
      | run source =>
          obtain ⟨followed, later_succeed⟩ := List.pairwise_cons.mp succeed
          have ran := ready.output_run merged source
          have rest := ih (ready.act (.run source)) (by rw [ran]; exact merged)
            (fun member => kept (List.mem_cons_of_mem _ member)) later_succeed
          have quiet : Exchange.report (session.exchange source).outcome = [] ∨
              (session.act (.run source)).exchanges later = [] := by
            cases further : (session.act (.run source)).exchanges later with
            | nil => exact .inr rfl
            | cons exchange exchanges =>
                have succeeded := followed exchange (by simp [further])
                exact .inl (by rw [succeeded]; rfl)
          refine rest.trans ?_
          rw [ran, octets_run, reports_run, List.map_append, String.join_append,
            Fragment.joined_append]
          -- A report and writes after it never stand in the same deeds, so their order is free.
          rcases quiet with quiet | quiet
          · simp [quiet, Fragment.joined, String.append_assoc]
          · simp [octets, reports, quiet, Fragment.joined]

/-- Merged output in which a text was written between whole characters holds it whole. -/
theorem Ready.output_of_writes (ready : session.Ready)
    (merged : session.host.output.routing = .merged) {deeds : List Deed}
    {fragments : List (List UInt8)} (writes : session.Writes deeds fragments) {text : String}
    (whole : String.join (fragments.map Utf8.decode) = text) (stream : Stream) :
    (session.after deeds).host.output =
      (session.host.output.append ⟨stream, text⟩).appendAll (session.reports deeds) := by
  have single : Fragment.joined [⟨stream, text⟩] = text := by simp [Fragment.joined]
  have added : (session.host.output.append ⟨stream, text⟩).appendAll (session.reports deeds) =
      session.host.output.appendAll ([⟨stream, text⟩] ++ session.reports deeds) :=
    (Transcript.appendAll_append session.host.output [⟨stream, text⟩] _).symm
  rw [added, Transcript.appendAll_of_merged merged, Fragment.joined_append, single,
    ready.output_after_writes merged writes.kept writes.succeed, writes.octets_eq, whole]

/-- **Fragments.**  Octets may be cut and decoded apart behind a whole text, and before octets that
are none or do not begin with one that continues a sequence.  Fragments of the encoding of a text
decode to the text exactly if no cut falls strictly inside a character, and to more characters if one
does.  So a guest that writes a text in fragments cut between characters, in its start function or in
runs of which none but the last fails, leaves the merged output of one write of the whole. -/
theorem fragments_decode_apart :
    (∀ front back : List UInt8, Utf8.WellFormed front ∨ Utf8.Apart back →
      Utf8.decode (front ++ back) = Utf8.decode front ++ Utf8.decode back) ∧
    (∀ (text : String) (fragments : List (List UInt8)), fragments.flatten = Utf8.encode text →
      (String.join (fragments.map Utf8.decode) = text ↔ ¬ Utf8.Splits text.toList fragments) ∧
      (Utf8.Splits text.toList fragments →
        text.length < (String.join (fragments.map Utf8.decode)).length)) ∧
    (∀ (limits : Limits) (program : Program) (host : Host) (session : Session) (text : String),
      let written := startOctets ⟨program, some limits, host.clock⟩
      session.OpenedWith limits program host → host.output.routing = .merged →
      written.flatten = Utf8.encode text → ¬ Utf8.Splits text.toList written →
      ∀ stream, session.host.output =
        host.output.append ⟨stream, Utf8.decode (Utf8.encode text)⟩) ∧
    ∀ (session : Session) (deeds : List Deed) (text : String) (fragments : List (List UInt8)),
      session.Reachable → session.host.output.routing = .merged → session.Writes deeds fragments →
      fragments.flatten = Utf8.encode text → ¬ Utf8.Splits text.toList fragments →
      (∀ stream, (session.after deeds).host.output =
        (session.host.output.append ⟨stream, Utf8.decode (Utf8.encode text)⟩).appendAll
          (session.reports deeds)) ∧
      ∀ (other : Session) (others : List Deed), other.Reachable →
        other.host.output = session.host.output → other.Writes others [Utf8.encode text] →
        other.reports others = session.reports deeds →
        (other.after others).host.output = (session.after deeds).host.output := by
  have joined : ∀ {text : String} {fragments : List (List UInt8)},
      fragments.flatten = Utf8.encode text → ¬ Utf8.Splits text.toList fragments →
      String.join (fragments.map Utf8.decode) = Utf8.decode (Utf8.encode text) := by
    intro text fragments whole between
    rw [(Utf8.join_decode_eq_iff whole).mpr between, Utf8.decode_encode]
  refine ⟨?_, ?_, ?_, ?_⟩
  · rintro front back (wellFormed | apart)
    · obtain ⟨text, rfl⟩ := wellFormed.exists_encode
      rw [Utf8.decode_encode_append, Utf8.decode_encode]
    · exact Utf8.decode_append front apart
  · intro text fragments whole
    refine ⟨Utf8.join_decode_eq_iff whole, fun splits => ?_⟩
    rw [← String.length_toList]
    exact Utf8.length_lt_of_splits whole splits
  · intro limits program host session text written opened merged whole between stream
    rw [opened.fresh.host_eq, boot_written]
    exact Transcript.appendAll_eq_append merged
      ((joined_startEntries _).trans (joined whole between)) stream
  · intro session deeds text fragments reachable merged writes whole between
    have output := reachable.ready.output_of_writes merged writes (joined whole between)
    refine ⟨output, ?_⟩
    intro other others again same single reported
    have alone : String.join ([Utf8.encode text].map Utf8.decode) =
        Utf8.decode (Utf8.encode text) := by simp
    have once := again.ready.output_of_writes (by rwa [same]) single alone
    rw [once .stdout, same, reported, output .stdout]

/-- A guest with a letter of one octet and a letter of two in its memory, which does the same when it
starts and when it runs. -/
def letterProgram (work : Stmt) : Program where
  data := [⟨0, [0x61, 0xC3, 0xA9]⟩]
  alloc := .leave (.word 1024)
  run := work
  start := some work

/-- A session on `letterProgram`, just opened, if the guest changes nothing when it starts. -/
def letterSession (work : Stmt) : Session where
  program := letterProgram work
  machine :=
    { memory := some (({ pages := 1 } : Memory).store 0 [0x61, 0xC3, 0xA9]), globals := [],
      table := none }
  host := ({ output := .new .merged } : Host).emitAll (boot ⟨letterProgram work, some {}, 0⟩).2

theorem fragments_decode_apart_letterSession :
    let apart := letterSession
      (.seq (.write .stdout (.word 0) (.word 1)) (.write .stderr (.word 1) (.word 2)))
    let whole := letterSession (.write .stdout (.word 0) (.word 3))
    apart.host.output = (Transcript.new .merged).append ⟨.stderr, "aé"⟩ ∧
    (apart.after [.run "x"]).host.output = ⟨.merged, "aéaé", ""⟩ ∧
    (whole.after [.run "x"]).host.output = (apart.after [.run "x"]).host.output ∧
    "aé".length < (String.join ([[0x61, 0xC3], [0xA9]].map Utf8.decode)).length := by
  intro apart whole
  obtain ⟨-, texts, starts, runs⟩ := fragments_decode_apart
  have between : ¬ Utf8.Splits "aé".toList [[0x61], [0xC3, 0xA9]] :=
    (texts "aé" _ (by decide +kernel)).1.mp (by decide +kernel)
  have first : apart.OpenedWith {} apart.program { output := .new .merged } :=
    ⟨_, _, rfl, rfl⟩
  have second : whole.OpenedWith {} whole.program { output := .new .merged } :=
    ⟨_, _, rfl, rfl⟩
  have reachable : apart.Reachable := ⟨_, [], ⟨_, _, _, first⟩, rfl⟩
  have writes : apart.Writes [.run "x"] [[0x61], [0xC3, 0xA9]] :=
    ⟨by decide +kernel, by decide, List.pairwise_singleton ..⟩
  have once : whole.Writes [.run "x"] [Utf8.encode "aé"] :=
    ⟨by decide +kernel, by decide, List.pairwise_singleton ..⟩
  have merged : apart.host.output.routing = .merged := by decide +kernel
  obtain ⟨output, same⟩ :=
    runs apart [.run "x"] "aé" _ reachable merged writes (by decide +kernel) between
  refine ⟨?_, ?_, ?_, ?_⟩
  · have written : startOctets ⟨apart.program, some {}, 0⟩ = [[0x61], [0xC3, 0xA9]] := by
      decide +kernel
    rw [starts {} _ _ apart "aé" first rfl (by rw [written]; decide +kernel)
      (by rw [written]; exact between) .stderr]
    decide +kernel
  · rw [output .stdout]
    decide +kernel
  · exact same whole [.run "x"] ⟨_, [], ⟨_, _, _, second⟩, rfl⟩ (by decide +kernel) once
      (by decide +kernel)
  · refine (texts "aé" _ (by decide +kernel)).2 ?_
    exact ⟨[[0x61, 0xC3]], [[0xA9]], rfl, ['a'], 'é', [], rfl, by decide, by decide⟩

end Session
end SandboxHost
