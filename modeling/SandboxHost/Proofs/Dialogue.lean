import Mathlib.Data.List.DropRight
import SandboxHost.Proofs.Output
import SandboxHost.Proofs.Session.History
import SandboxHost.Proofs.Text.Lines
import SandboxHost.Proofs.Text.RoundTrip

/-!
# What a dialogue does

A dialogue goes through the lines of its input up to the first that asks to leave.  What a line does
is told by the lines before it: they tell the draft, the draft tells what is run and what is listed.
The standard output shows what the runs wrote there and what was listed, in the order of the lines.
-/

namespace SandboxHost
namespace Dialogue

/-! ## Lines of input -/

/-- Input is cut into lines: each ends at a line feed, and what follows the last line feed is a line
too unless it is empty. -/
inductive Cut : List UInt8 → List (List UInt8) → Prop
  | done : Cut [] []
  | rest (line : List UInt8) (nonempty : line ≠ []) (whole : 0x0A ∉ line) : Cut line [line]
  | line (line later : List UInt8) (lines : List (List UInt8)) (whole : 0x0A ∉ line)
      (cut : Cut later lines) : Cut (line ++ 0x0A :: later) (line :: lines)

theorem inputLines_of_whole {line : List UInt8} (whole : 0x0A ∉ line) :
    inputLines line = if line.isEmpty then [] else [line] := by
  simp [inputLines, terminated_of_forall_not (beq_of_not_mem whole)]

theorem inputLines_append_cons {line later : List UInt8} (whole : 0x0A ∉ line) :
    inputLines (line ++ 0x0A :: later) = line :: inputLines later := by
  simp only [inputLines, terminated_append_cons (beq_of_not_mem whole) (beq_self_eq_true _)]
  split <;> rfl

theorem cut_inputLines (input : List UInt8) : Cut input (inputLines input) := by
  by_cases feeds : 0x0A ∈ input
  · obtain ⟨line, later, rfl, whole⟩ := List.eq_append_cons_of_mem feeds
    rw [inputLines_append_cons whole]
    exact .line line later _ whole (cut_inputLines later)
  · rw [inputLines_of_whole feeds]
    cases input with
    | nil => exact .done
    | cons first others => exact .rest _ (List.cons_ne_nil first others) feeds
termination_by input.length
decreasing_by
  rw [‹input = _›, List.length_append, List.length_cons]
  omega

theorem Cut.eq_inputLines {input : List UInt8} {lines : List (List UInt8)}
    (cut : Cut input lines) : lines = inputLines input := by
  induction cut with
  | done => rfl
  | rest line nonempty whole =>
      rw [inputLines_of_whole whole, if_neg (by simpa using nonempty)]
  | line line later lines whole cut ih => rw [inputLines_append_cons whole, ih]

/-- The lines of some input are the one way to cut it. -/
theorem cut_iff {input : List UInt8} {lines : List (List UInt8)} :
    Cut input lines ↔ lines = inputLines input :=
  ⟨Cut.eq_inputLines, fun same => same ▸ cut_inputLines input⟩

/-! ## The draft -/

/-- What the user said up to leaving, or else to the end. -/
def heardIn (lines : List (List UInt8)) : List Heard :=
  (lines.map hear).takeWhile (!·.isQuit)

namespace Heard

/-- Whether a line replaces the draft. -/
def replaces : Heard → Bool
  | .typed (.command .clear) | .typed (.command .sample) => true
  | _ => false

/-- The line that is added to the draft. -/
def source? : Heard → Option String
  | .typed (.source line) => some line
  | _ => none

/-- What a line makes of the draft. -/
def edit (draft : Draft) : Heard → Draft
  | .typed (.source line) => draft.push line
  | .typed (.command .clear) => {}
  | .typed (.command .sample) => .ofText Draft.sample
  | _ => draft

/-- A line that does not replace the draft adds itself if it is source. -/
theorem edit_of_not_replaces {heard : Heard} (keeps : heard.replaces = false)
    (lines : List String) :
    heard.edit ⟨lines.toArray⟩ = ⟨(lines ++ heard.source?.toList).toArray⟩ := by
  revert keeps
  fun_cases edit <;> simp_all [replaces, source?, Draft.push]

end Heard

/-- The draft after some lines: the lines of source since it was last replaced, behind those of the
sample if that replaced it. -/
def draftOf (earlier : List Heard) : Draft :=
  let base := match (earlier.rdropWhile (!·.replaces)).getLast? with
    | some (.typed (.command .sample)) => lines Draft.sample
    | _ => []
  ⟨(base ++ (earlier.rtakeWhile (!·.replaces)).filterMap Heard.source?).toArray⟩

theorem draftOf_concat (earlier : List Heard) (heard : Heard) :
    draftOf (earlier ++ [heard]) = heard.edit (draftOf earlier) := by
  cases replaces : heard.replaces with
  | true =>
      have last : ¬ (!heard.replaces) = true := by simp [replaces]
      simp only [draftOf, List.rdropWhile_concat_neg (!·.replaces) earlier heard last,
        List.rtakeWhile_concat_neg (!·.replaces) earlier heard last, List.getLast?_concat]
      revert replaces
      fun_cases Heard.replaces heard <;> simp [Heard.edit, Draft.ofText]
  | false =>
      have last : (!heard.replaces) = true := by simp [replaces]
      simp only [draftOf, List.rdropWhile_concat_pos (!·.replaces) earlier heard last,
        List.rtakeWhile_concat_pos (!·.replaces) earlier heard last, List.filterMap_append,
        Heard.edit_of_not_replaces replaces]
      cases added : heard.source? <;> simp [added]

theorem draftOf_eq_foldl (earlier : List Heard) :
    draftOf earlier = earlier.foldl Heard.edit {} := by
  induction earlier using List.reverseRecOn with
  | nil => rfl
  | append_singleton earlier heard ih => rw [draftOf_concat, ih, List.foldl_concat]

/-! ## What is done on the session -/

/-- What a dialogue does on its session. -/
inductive Act
  | run (source : String)
  | print (stream : Stream) (text : String)

/-- Whether an act shows on the standard output. -/
def Act.isShown : Act → Bool
  | .run _ | .print .stdout _ => true
  | .print .stderr _ => false

/-- The session after an act. -/
def perform (session : Session) : Act → Session
  | .run source => (session.run source).2
  | .print stream text => { session with host := session.host.print stream text }

/-- The acts that a line asks for, but for what is printed on the error output. -/
def reply (draft : Draft) : Heard → List Act
  | .typed (.command .run) =>
      if draft.isEmpty then [] else [.run draft.source, .print .stdout "\n"]
  | .typed (.command .list) => [.print .stdout draft.numbered]
  | .typed (.command .sample) => [.print .stdout (Draft.ofText Draft.sample).numbered]
  | _ => []

/-- What some lines ask for, each with the draft that the lines before it made. -/
def replies : Draft → List Heard → List Act
  | _, [] => []
  | draft, heard :: later => reply draft heard ++ replies (heard.edit draft) later

theorem replies_eq_flatten (draft : Draft) (heard : List Heard) :
    replies draft heard = (heard.mapIdx fun number line =>
      reply ((heard.take number).foldl Heard.edit draft) line).flatten := by
  induction heard generalizing draft with
  | nil => rfl
  | cons line later ih => simp [replies, ih]

/-- One session became another by some acts, and others that only print on the error output. -/
def Did (before : Session) (shown : List Act) (after : Session) : Prop :=
  ∃ acts : List Act, acts.filter Act.isShown = shown ∧ after = acts.foldl perform before

section Did

variable {before between after : Session} {first second : List Act}

theorem Did.refl (session : Session) : Did session [] session :=
  ⟨[], rfl, rfl⟩

theorem Did.trans (did : Did before first between) (next : Did between second after) :
    Did before (first ++ second) after := by
  obtain ⟨earlier, rfl, rfl⟩ := did
  obtain ⟨later, rfl, rfl⟩ := next
  exact ⟨earlier ++ later, List.filter_append .., List.foldl_append.symm⟩

theorem did_perform (session : Session) (act : Act) :
    Did session ([act].filter Act.isShown) (perform session act) :=
  ⟨[act], rfl, rfl⟩

end Did

theorem did_invite (dialogue : Dialogue) (prompt : Bool) :
    Did dialogue.session [] (dialogue.invite prompt).session := by
  cases prompt with
  | true => exact did_perform dialogue.session (.print .stderr "> ")
  | false => exact .refl _

theorem draft_invite (dialogue : Dialogue) (prompt : Bool) :
    (dialogue.invite prompt).draft = dialogue.draft := by
  cases prompt <;> rfl

theorem did_runDraft (dialogue : Dialogue) :
    Did dialogue.session (reply dialogue.draft (.typed (.command .run)))
      dialogue.runDraft.session := by
  rw [runDraft, reply]
  split
  · exact did_perform dialogue.session (.print .stderr "nothing to run\n")
  · exact (did_perform dialogue.session (.run dialogue.draft.source)).trans
      (did_perform _ (.print .stdout "\n"))

theorem draft_runDraft (dialogue : Dialogue) : dialogue.runDraft.draft = dialogue.draft := by
  unfold runDraft
  split <;> rfl

/-- A line does what it asks for. -/
theorem did_answer (dialogue : Dialogue) (heard : Heard) :
    Did dialogue.session (reply dialogue.draft heard) (dialogue.answer heard).session := by
  cases heard with
  | noise fault => exact did_perform _ (.print .stderr _)
  | typed typed =>
      cases typed with
      | source line => exact .refl _
      | unknown name => exact did_perform _ (.print .stderr _)
      | command command =>
          cases command with
          | run => exact did_runDraft dialogue
          | list | sample => exact did_perform _ (.print .stdout _)
          | help => exact did_perform _ (.print .stderr _)
          | clear | quit => exact .refl _

/-- A line edits the draft, and no run does. -/
theorem draft_answer (dialogue : Dialogue) (heard : Heard) :
    (dialogue.answer heard).draft = heard.edit dialogue.draft := by
  cases heard with
  | noise fault => rfl
  | typed typed =>
      cases typed with
      | source line | unknown name => rfl
      | command command =>
          cases command with
          | run => exact draft_runDraft dialogue
          | clear | list | sample | help | quit => rfl

/-- Lines edit the draft and do what they ask for, until one asks to leave. -/
theorem converse_eq (prompt : Bool) (dialogue : Dialogue) (lines : List (List UInt8)) :
    (converse prompt dialogue lines).draft = (heardIn lines).foldl Heard.edit dialogue.draft ∧
    Did dialogue.session (replies dialogue.draft (heardIn lines))
      (converse prompt dialogue lines).session := by
  induction lines generalizing dialogue with
  | nil => exact ⟨draft_invite dialogue prompt, did_invite dialogue prompt⟩
  | cons line later ih =>
      simp only [heardIn, List.map_cons, List.takeWhile_cons, converse]
      cases leaves : (hear line).isQuit with
      | true => exact ⟨draft_invite dialogue prompt, did_invite dialogue prompt⟩
      | false =>
          obtain ⟨draft, did⟩ := ih ((dialogue.invite prompt).answer (hear line))
          rw [draft_answer, draft_invite] at draft did
          have answered := did_answer (dialogue.invite prompt) (hear line)
          rw [draft_invite] at answered
          exact ⟨draft, (did_invite dialogue prompt).trans (answered.trans did)⟩

/-! ## What is shown -/

/-- The texts that some acts put on the standard output. -/
def shown (routing : Routing) : Session → List Act → String
  | _, [] => ""
  | session, .run source :: later =>
      Fragment.joined
          ((session.exchange source).fragments.filter (routing.route ·.stream = .stdout)) ++
        shown routing (session.run source).2 later
  | session, .print .stdout text :: later => text ++ shown routing session later
  | session, .print .stderr _ :: later => shown routing session later

/-- What a guest does and what it shows do not depend on what was shown before. -/
theorem shown_with_output (routing : Routing) (session : Session) (output : Transcript)
    (acts : List Act) :
    shown routing { session with host := { session.host with output } } acts =
      shown routing session acts := by
  induction acts generalizing session output with
  | nil => rfl
  | cons act later ih =>
      cases act with
      | run source => exact congrArg (_ ++ ·) (ih (session.run source).2 _)
      | print stream text =>
          cases stream with
          | stdout => exact congrArg (text ++ ·) (ih session output)
          | stderr => exact ih session output

theorem shown_print (routing : Routing) (session : Session) (stream : Stream) (text : String)
    (acts : List Act) :
    shown routing (perform session (.print stream text)) acts = shown routing session acts :=
  shown_with_output routing session _ acts

/-- Acts show on the standard output what they put there, and nothing else does. -/
theorem contents_foldl_perform (session : Session) (acts : List Act) :
    (acts.foldl perform session).host.output.contents = session.host.output.contents ++
      shown session.host.output.routing session (acts.filter Act.isShown) := by
  induction acts generalizing session with
  | nil => exact String.append_empty.symm
  | cons act later ih =>
      refine (ih (perform session act)).trans ?_
      cases act with
      | run source =>
          have contents := Transcript.contents_appendAll session.host.output
            (session.exchange source).fragments
          have routing := Transcript.routing_appendAll session.host.output
            (session.exchange source).fragments
          simp only [perform, Session.run, Host.emitAll, contents, routing, List.filter_cons,
            Act.isShown, shown, if_true, String.append_assoc]
      | print stream text =>
          have routing : (perform session (.print stream text)).host.output.routing =
              session.host.output.routing := Transcript.routing_put ..
          rw [routing, shown_print]
          cases stream with
          | stdout => exact String.append_assoc ..
          | stderr => rfl

/-- **The standard output of a dialogue.**  The input is cut at its line feeds, and each line that
is UTF-8 is read without a carriage return at its end, up to the first that asks to leave.  The
lines before a line tell the draft there, whatever became of runs.  The draft is run where a line
asks for it and the draft has a line, and nowhere else.  The standard output shows what each run
put there and a line feed, and the listings that were asked for, in the order of the lines. -/
theorem output_of_dialogue (session : Session) (input : List UInt8) (prompt : Bool) :
    let heard := heardIn (inputLines input)
    let acts := (heard.mapIdx fun number line =>
      reply (draftOf (heard.take number)) line).flatten
    let left := drive session input prompt
    (∀ lines, Cut input lines ↔ lines = inputLines input) ∧
    (∀ octets typed, hear octets = .typed typed ↔
      Utf8.WellFormed octets ∧
        typed = Command.parse (String.ofList (dropReturn (Utf8.decode octets).toList))) ∧
    left.draft = draftOf heard ∧
    Did session acts left.session ∧
    left.session.host.output.contents =
      session.host.output.contents ++ shown session.host.output.routing session acts := by
  intro heard acts left
  obtain ⟨draft, did⟩ := converse_eq prompt { session } (inputLines input)
  have all : acts = replies {} heard := by
    simp only [acts, replies_eq_flatten, draftOf_eq_foldl]
  rw [← draftOf_eq_foldl] at draft
  rw [← all] at did
  obtain ⟨done, done_shown, after⟩ := did
  refine ⟨fun _ => cut_iff, fun _ _ => Utf8.hear_eq_typed_iff, draft,
    ⟨done, done_shown, after⟩, ?_⟩
  rw [← done_shown, ← contents_foldl_perform]
  exact congrArg (·.host.output.contents) after

/-- Four octets are given back as they are, and there is no room for more. -/
def terseSession : Session :=
  .ofBodies (.branch (.binary .gtU .frameLength (.word 4)) (.leave (.word 0)) (.leave (.word 1024)))
    .skip (.write .stdout .frameStart .frameLength)

theorem output_of_dialogue_terseSession :
    let input := Utf8.encode "a\r\n :r \n" ++ [0xFF, 0x0A] ++
      Utf8.encode "bcd\n:run\n:show\n:c\n:run\n:nothing\n:exit\n:sample"
    (drive terseSession input true).session.host.output.contents =
      "a\n\nFailed to allocate memory\n\n1 | a\n2 | bcd\n" := by
  intro input
  obtain ⟨-, -, -, -, contents⟩ := output_of_dialogue terseSession input true
  exact contents.trans (by decide +kernel)

end Dialogue
end SandboxHost
