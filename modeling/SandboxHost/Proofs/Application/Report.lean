import SandboxHost.Application
import SandboxHost.Proofs.Output
import SandboxHost.Proofs.Session.History
import SandboxHost.Proofs.Text.Json

/-!
# Runs that are shown and runs that are reported

A file can be run with its output on the terminal, or with a report as JSON.  Both do the same to
the same guest, and end alike.  The report, read back, tells what the terminal shows while the
streams are kept apart.
-/

namespace SandboxHost

open Guest Text

/-! ## Reading reports -/

/-- The fields of a report on a run. -/
structure Report where
  ok : Bool
  stdout : String
  stderr : String
  deriving DecidableEq, Repr

namespace Report

/-- What follows the name of a field and the colon behind it. -/
def afterName? (name : String) (input : List Char) : Option (List Char) :=
  (after? ("\"" ++ name ++ "\"") input).bind (after? ":")

/-- Read the first field, and what follows it. -/
def readOk? (input : List Char) : Option (Bool × List Char) := do
  let rest ← (after? "\x7b" input).bind (afterName? "ok")
  ((after? "true" rest).map (true, ·)).or ((after? "false" rest).map (false, ·))

/-- Read a later field, and what follows it. -/
def readField? (name : String) (input : List Char) : Option (String × List Char) :=
  ((after? "," input).bind (afterName? name)).bind readText?

/-- Read a report: a JSON object of the three fields, with blanks anywhere between its tokens. -/
def read? (text : String) : Option Report := do
  let (ok, rest) ← readOk? text.toList
  let (stdout, rest) ← readField? "stdout" rest
  let (stderr, rest) ← readField? "stderr" rest
  let rest ← after? "\x7d" rest
  if rest.all isJsonBlank then some ⟨ok, stdout, stderr⟩ else none

/-- The opening of a field is passed over. -/
theorem afterName?_append (name : String) (rest : List Char) :
    afterName? name (("\n  \"" ++ name ++ "\":").toList ++ rest) = some rest := by
  have parts : ("\n  \"" ++ name ++ "\":").toList ++ rest =
      ['\n', ' ', ' '] ++ (("\"" ++ name ++ "\"").toList ++ (":".toList ++ rest)) := by
    simp
  rw [parts, afterName?, after?_blanks_append (by simp [isJsonBlank]),
    after?_append (by simp [isJsonBlank]), Option.bind_some, after?_append (by simp [isJsonBlank])]

theorem readOk?_append (ok : Bool) (rest : List Char) :
    readOk? ("\x7b".toList ++ (("\n  \"" ++ "ok" ++ "\":").toList ++
      ([' '] ++ ((if ok then "true" else "false").toList ++ rest)))) = some (ok, rest) := by
  have space : ∀ c ∈ [' '], isJsonBlank c := by simp [isJsonBlank]
  rw [readOk?, after?_append (by simp [isJsonBlank]), Option.bind_some, afterName?_append]
  simp only [Option.bind_eq_bind, Option.bind_some, after?_blanks_append space]
  cases ok with
  | true =>
      rw [if_pos rfl, after?_append (by simp [isJsonBlank])]
      rfl
  | false =>
      have other : after? "true" ("false".toList ++ rest) = none := by
        simp [after?, isJsonBlank, List.dropPrefix?]
      rw [if_neg Bool.false_ne_true, other, after?_append (by simp [isJsonBlank])]
      rfl

theorem readField?_append (name text : String) (rest : List Char) :
    readField? name (",".toList ++ (("\n  \"" ++ name ++ "\":").toList ++
      ([' '] ++ ((json text).toList ++ rest)))) = some (text, rest) := by
  rw [readField?, after?_append (by simp [isJsonBlank]), Option.bind_some, afterName?_append,
    Option.bind_some, readText?_blanks_append (by simp [isJsonBlank]), readText?_json]

/-- A report is read back as it was meant. -/
theorem read?_renderReport (ok : Bool) (output : Transcript) :
    read? (Application.renderReport ok output) = some ⟨ok, output.contents, output.stderr⟩ := by
  let last := ['\n'] ++ ("\x7d".toList ++ ['\n'])
  let second := ",".toList ++ (("\n  \"" ++ "stderr" ++ "\":").toList ++
    ([' '] ++ ((json output.stderr).toList ++ last)))
  let first := ",".toList ++ (("\n  \"" ++ "stdout" ++ "\":").toList ++
    ([' '] ++ ((json output.contents).toList ++ second)))
  have text_eq : (Application.renderReport ok output).toList =
      "\x7b".toList ++ (("\n  \"" ++ "ok" ++ "\":").toList ++
        ([' '] ++ ((if ok then "true" else "false").toList ++ first))) := by
    unfold Application.renderReport
    simp [first, second, last]
  have closed : after? "\x7d" last = some ['\n'] := by
    rw [after?_blanks_append (by simp [isJsonBlank]), after?_append (by simp [isJsonBlank])]
  have stdout_read : readField? "stdout" first = some (output.contents, second) :=
    readField?_append ..
  have stderr_read : readField? "stderr" second = some (output.stderr, last) :=
    readField?_append ..
  simp only [read?, text_eq, readOk?_append, stdout_read, stderr_read, closed, Option.bind_eq_bind,
    Option.bind_some]
  rfl

end Report

namespace Application

/-! ## Opening -/

/-- What the start function writes when a session is opened on the guest that settings name. -/
def openingFragments (tree : FileTree) (settings : Settings) (clock : Int64) : List Fragment :=
  match loadProgram tree settings.guestPath with
  | .error _ => []
  | .ok program => (boot ⟨program, some settings.limits, clock⟩).2

theorem ofInstance_with_output (self : Instance) (output : Transcript) :
    Session.ofInstance { self with host := { self.host with output } } =
      (Session.ofInstance self).map (·.withOutput output) := by
  unfold Session.ofInstance
  cases memoryOf self.program self.machine with
  | error refusal => rfl
  | ok memory =>
      cases Loan.supported self.program with
      | error fault => rfl
      | ok _ => cases self.program.callable .runCodeApi <;> rfl

/-- What the guest writes until a source has run. -/
def guestFragments (tree : FileTree) (settings : Settings) (clock : Int64) (session : Session)
    (source : String) : List Fragment :=
  openingFragments tree settings clock ++ (session.exchange source).calls.flatMap Call.written

/-- How a session is opened does not depend on the output, which takes what the start function
writes. -/
theorem openSession_with_output (tree : FileTree) (settings : Settings) (host : Host)
    (output : Transcript) :
    let terminal := output.appendAll (openingFragments tree settings host.clock)
    openSession tree settings { host with output } =
      ((openSession tree settings host).1.map (·.withOutput terminal), terminal) := by
  intro terminal
  cases loaded : loadProgram tree settings.guestPath with
  | error fault =>
      unfold terminal openSession openingFragments
      simp only [loaded]
      rfl
  | ok program =>
      unfold terminal openSession openingFragments
      simp only [loaded, Instance.make]
      cases (boot ⟨program, some settings.limits, host.clock⟩).1 with
      | error failure => rfl
      | ok machine =>
          let written := (boot ⟨program, some settings.limits, host.clock⟩).2
          let made : Instance :=
            ⟨program, machine, ({ host with limits := settings.limits } : Host).emitAll written⟩
          have same := ofInstance_with_output made (output.appendAll written)
          refine Prod.ext ((congrArg (Except.mapError Failure.notUsable) same).trans ?_) rfl
          change ((Session.ofInstance made).map _).mapError Failure.notUsable =
            ((Session.ofInstance made).mapError Failure.notUsable).map _
          cases Session.ofInstance made <;> rfl

/-- The same session is opened, but for what was collected, whatever routing is set and whatever
routing the output has. -/
theorem openSession_new (tree : FileTree) (settings : Settings) (clock : Int64)
    (set routing : Routing) :
    let terminal := Transcript.collected routing (openingFragments tree settings clock)
    openSession tree { settings with routing := set } { output := .new routing, clock } =
      ((openSession tree settings { output := .new .split, clock }).1.map (·.withOutput terminal),
        terminal) := by
  have began : (Transcript.new routing).appendAll (openingFragments tree settings clock) =
      .collected routing (openingFragments tree settings clock) := by
    rw [← Transcript.collected_nil, Transcript.appendAll_collected, List.nil_append]
  have unset (host : Host) :
      openSession tree { settings with routing := set } host = openSession tree settings host := by
    unfold openSession Settings.guestPath
    rfl
  intro terminal
  rw [unset]
  simp only [terminal, ← began]
  exact openSession_with_output tree settings { output := .new .split, clock } (.new routing)

/-! ## Running a file -/

/-- The report of a fault stands behind what the guest wrote on the error stream. -/
theorem collected_append_report (guest : List Fragment) (outcome : Except Fault Unit) :
    Transcript.collected .split (guest ++ Exchange.report outcome) =
      ⟨.split, Fragment.joined (guest.filter (·.stream = .stdout)),
        Fragment.joined (guest.filter (·.stream = .stderr)) ++
          Fragment.joined (Exchange.report outcome)⟩ := by
  rw [Transcript.collected, List.filter_append, List.filter_append, Fragment.joined_append,
    Fragment.joined_append]
  cases outcome <;> simp [Exchange.report, Fragment.joined]

theorem joined_report {outcome : Except Fault Unit} {fault : Fault}
    (failed : outcome = .error fault) :
    Fragment.joined (Exchange.report outcome) = fault.report := by
  simp [failed, Exchange.report, Fragment.joined]

theorem exitCode_eq_zero_iff (outcome : Except Fault Unit) :
    exitCode outcome = 0 ↔ outcome = .ok () := by
  cases outcome <;> simp [exitCode, Except.isOk, Except.toBool]

theorem isOk_eq_exitCode (outcome : Except Fault Unit) :
    outcome.isOk = (exitCode outcome == 0) := by
  cases outcome <;> rfl

section

variable {tree : FileTree} {settings : Settings} {clock : Int64} {file source : String}

/-- A file that cannot be read ends a run before anything else is looked at. -/
theorem runFile_of_unreadable {error : FileError} (unread : tree.readText file = .error error)
    (settings : Settings) (clock : Int64) (json : Bool) :
    runFile tree settings clock file json =
      if error = .notText then ⟨1, "", (Failure.notText file).report⟩
      else ⟨1, "Failed to open file : '" ++ file ++ "'\n", ""⟩ := by
  unfold runFile
  rw [unread]
  cases error <;> rfl

theorem runFile_of_text (read : tree.readText file = .ok source) (settings : Settings)
    (clock : Int64) (json : Bool) :
    runFile tree settings clock file json =
      if json then runReported tree settings clock source
      else runPlainly tree settings clock source := by
  unfold runFile
  rw [read]

/-- Where the guest cannot be opened, both ways of running end with the same failure. -/
theorem runFile_of_not_opened (read : tree.readText file = .ok source) {failure : Failure}
    (failed : (openSession tree settings { output := .new .split, clock }).1 = .error failure)
    (routing : Routing) :
    runFile tree { settings with routing } clock file true = fail failure (.new .split) ∧
    runFile tree { settings with routing } clock file false =
      fail failure (.collected routing (openingFragments tree settings clock)) := by
  have plain := openSession_new tree settings clock routing routing
  have reported := openSession_new tree settings clock routing .split
  rw [failed] at plain reported
  rw [runFile_of_text read, runFile_of_text read, if_pos rfl, if_neg Bool.false_ne_true]
  constructor
  · unfold runReported
    rw [reported]
    rfl
  · unfold runPlainly
    rw [plain]
    rfl

/-- Where it can be opened, both do the same run. -/
theorem runFile_of_opened (read : tree.readText file = .ok source) {session : Session}
    (opened : (openSession tree settings { output := .new .split, clock }).1 = .ok session)
    (routing : Routing) :
    let outcome := (session.run source).1
    let fragments := guestFragments tree settings clock session source ++ Exchange.report outcome
    runFile tree { settings with routing } clock file true =
      ⟨exitCode outcome, renderReport outcome.isOk (.collected .split fragments), ""⟩ ∧
    runFile tree { settings with routing } clock file false =
      finish (exitCode outcome) (.collected routing fragments) := by
  have plain := openSession_new tree settings clock routing routing
  have reported := openSession_new tree settings clock routing .split
  rw [opened] at plain reported
  intro outcome fragments
  -- A run adds what its calls wrote and then the report.
  have fragments_eq : openingFragments tree settings clock ++ (session.exchange source).fragments =
      fragments := (List.append_assoc ..).symm
  rw [runFile_of_text read, runFile_of_text read, if_pos rfl, if_neg Bool.false_ne_true]
  simp only [← fragments_eq, ← Transcript.appendAll_collected]
  constructor
  · unfold runReported
    rw [reported]
    rfl
  · unfold runPlainly
    rw [plain]
    rfl

end

/-- The exit code of running a file is the same with a report and for each routing. -/
theorem exit_runFile (tree : FileTree) (settings : Settings) (clock : Int64) (file : String)
    (routing : Routing) (json : Bool) :
    (runFile tree { settings with routing } clock file json).exit =
      match tree.readText file, (openSession tree settings { output := .new .split, clock }).1 with
      | .ok source, .ok session => exitCode (session.run source).1
      | _, _ => 1 := by
  cases read : tree.readText file with
  | error error =>
      rw [runFile_of_unreadable read]
      split <;> rfl
  | ok source =>
      cases opened : (openSession tree settings { output := .new .split, clock }).1 with
      | error failure =>
          obtain ⟨reported, plain⟩ := runFile_of_not_opened read opened routing
          cases json with
          | true => exact congrArg Outcome.exit reported
          | false => exact congrArg Outcome.exit plain
      | ok session =>
          obtain ⟨reported, plain⟩ := runFile_of_opened read opened routing
          cases json with
          | true => exact congrArg Outcome.exit reported
          | false => exact congrArg Outcome.exit plain

/-- A file is run with success exactly if it is text, the session opens and the run succeeds. -/
theorem exit_runFile_eq_zero_iff (tree : FileTree) (settings : Settings) (clock : Int64)
    (file : String) (routing : Routing) (json : Bool) (output : Transcript) :
    (runFile tree { settings with routing } clock file json).exit = 0 ↔
      ∃ source session, tree.readText file = .ok source ∧
        (openSession tree settings { output, clock }).1 = .ok session ∧
        (session.run source).1 = .ok () := by
  have same := congrArg Prod.fst
    (openSession_with_output tree settings { output := .new .split, clock } output)
  rw [exit_runFile, same]
  cases tree.readText file with
  | error error => simp
  | ok source =>
      cases (openSession tree settings { output := .new .split, clock }).1 with
      | error failure => simp [Except.map]
      | ok session =>
          simp only [Except.map, exitCode_eq_zero_iff]
          constructor
          · exact fun done => ⟨source, _, rfl, rfl, done⟩
          · rintro ⟨_, _, ⟨⟩, ⟨⟩, done⟩
            exact done

/-- **The report tells what the terminal shows.**  Running a file plainly and running it with a
report end with the same exit code, which is zero exactly if the file is text, the session opens
and the run succeeds.  A file that cannot be read ends both before the guest is looked at, and a
guest that cannot be opened ends both with the same failure.  Otherwise the report, read back, holds
what a terminal shows that keeps the streams apart: what the guest wrote to each, and on the error
stream the report of the fault behind it.  A terminal with merged streams shows the same in the
order in which it was written. -/
theorem report_tells_terminal (tree : FileTree) (settings : Settings) (clock : Int64)
    (file : String) :
    let plain := fun routing => runFile tree { settings with routing } clock file false
    let reported := fun routing => runFile tree { settings with routing } clock file true
    let opened := (openSession tree settings { output := .new .split, clock }).1
    (∀ routing other, (plain routing).exit = (reported other).exit) ∧
    (∀ routing output, (plain routing).exit = 0 ↔
      ∃ source session, tree.readText file = .ok source ∧
        (openSession tree settings { output, clock }).1 = .ok session ∧
        (session.run source).1 = .ok ()) ∧
    (∀ error, tree.readText file = .error error →
      ∀ (elsewhere : Settings) (now : Int64) (json : Bool),
        runFile tree elsewhere now file json =
          if error = .notText then ⟨1, "", (Failure.notText file).report⟩
          else ⟨1, "Failed to open file : '" ++ file ++ "'\n", ""⟩) ∧
    ∀ source, tree.readText file = .ok source →
      (∀ failure, opened = .error failure → ∀ routing,
        let started := Transcript.collected routing (openingFragments tree settings clock)
        reported routing = ⟨1, "", failure.report⟩ ∧
        plain routing = ⟨1, started.contents, started.stderr ++ failure.report⟩) ∧
      ∀ session, opened = .ok session →
        let outcome := (session.run source).1
        let guest := guestFragments tree settings clock session source
        let told := Fragment.joined (Exchange.report outcome)
        plain .merged = ⟨exitCode outcome, Fragment.joined guest ++ told, ""⟩ ∧
        plain .split = ⟨exitCode outcome, Fragment.joined (guest.filter (·.stream = .stdout)),
          Fragment.joined (guest.filter (·.stream = .stderr)) ++ told⟩ ∧
        (∀ fault, outcome = .error fault → told = fault.report) ∧
        ∀ routing,
          (reported routing).stderr = "" ∧
          Report.read? (reported routing).stdout = some
            { ok := (reported routing).exit == 0
              stdout := (plain .split).stdout
              stderr := (plain .split).stderr } := by
  intro plain reported opened
  refine ⟨?_, fun routing output => exit_runFile_eq_zero_iff .., fun _ => runFile_of_unreadable, ?_⟩
  · intro routing other
    exact (exit_runFile tree settings clock file routing false).trans
      (exit_runFile tree settings clock file other true).symm
  · intro source read
    refine ⟨fun failure failed routing => runFile_of_not_opened read failed routing, ?_⟩
    intro session opens outcome guest told
    obtain ⟨-, merged⟩ := runFile_of_opened read opens .merged
    obtain ⟨-, split⟩ := runFile_of_opened read opens .split
    rw [Transcript.collected, Fragment.joined_append] at merged
    rw [collected_append_report] at split
    refine ⟨merged, split, fun _ => joined_report, fun routing => ?_⟩
    obtain ⟨report, -⟩ := runFile_of_opened read opens routing
    rw [collected_append_report] at report
    simp only [reported, plain]
    rw [report, split, Report.read?_renderReport, isOk_eq_exitCode]
    exact ⟨rfl, rfl⟩

/-- A guest that greets when it starts, complains with what it is given when it runs, and stops. -/
def complainingProgram : Program where
  data := [⟨0, [65]⟩]
  alloc := .leave (.word 1024)
  run := .seq (.write .stderr .frameStart .frameLength) .abort
  start := some (.write .stdout (.word 0) (.word 1))

/-- A working directory with `complainingProgram` and a source. -/
def complainingTree : FileTree where
  home := ["home"]
  nodes :=
    [(["home", "pankti.wasm"], .file (.program complainingProgram)),
      (["home", "a.pank"], .file (.octets (Utf8.encode "\"hi\"\n")))]

/-- A session on `complainingProgram`, just opened with its streams kept apart. -/
def complainingSession : Session where
  program := complainingProgram
  machine :=
    { memory := some (({ pages := 1 } : Memory).store 0 [65]), globals := [], table := none }
  host := { output := ⟨.split, "A", ""⟩ }

theorem report_tells_terminal_complainingTree :
    let told := "error: guest trapped: wasm trap: wasm `unreachable` instruction executed\n"
    runFile complainingTree {} 0 "a.pank" false = ⟨1, "A\"hi\"\n" ++ told, ""⟩ ∧
    Report.read? (runFile complainingTree {} 0 "a.pank" true).stdout =
      some ⟨false, "A", "\"hi\"\n" ++ told⟩ ∧
    runFile complainingTree {} 0 "b.pank" true =
      ⟨1, "Failed to open file : 'b.pank'\n", ""⟩ := by
  obtain ⟨-, -, -, readable⟩ := report_tells_terminal complainingTree {} 0 "a.pank"
  obtain ⟨-, -, unreadable, -⟩ := report_tells_terminal complainingTree {} 0 "b.pank"
  have read : complainingTree.readText "a.pank" = .ok "\"hi\"\n" := rfl
  have opened : (openSession complainingTree {} { output := .new .split, clock := 0 }).1 =
      .ok complainingSession := rfl
  obtain ⟨merged, split, -, reported⟩ := (readable _ read).2 _ opened
  refine ⟨merged.trans ?_, (reported .merged).2.trans ?_, ?_⟩
  · decide +kernel
  · rw [split]
    decide +kernel
  · exact unreadable .notFound rfl {} 0 true

end Application
end SandboxHost
