import Mathlib.Logic.Relation
import SandboxHost.Proofs.Dialogue
import SandboxHost.Proofs.Text.Slices

/-!
# Inputs that come to the same

Lines that ask for nothing, the octets behind the command to leave, carriage returns before line
feeds and the last line feed can be changed in the input of a dialogue.  The same sources are run on
the same guest, with the same results, and the standard output is the same.
-/

namespace SandboxHost
namespace Dialogue

/-! ## Changes of the input -/

/-- Some input is made of lines that all end with a line feed. -/
def WholeLines (input : List UInt8) : Prop :=
  input = [] ∨ input.getLast? = some 0x0A

instance (input : List UInt8) : Decidable (WholeLines input) :=
  inferInstanceAs (Decidable (_ ∨ _))

/-- A line asks for nothing: it is not UTF-8, or it asks for help, or for what there is not. -/
def Idle (line : List UInt8) : Prop :=
  ¬ Utf8.WellFormed line ∨ hear line = .typed (.command .help) ∨
    ∃ name, hear line = .typed (.unknown name)

/-- One input is changed into another. -/
inductive Change : List UInt8 → List UInt8 → Prop
  /-- Lines that ask for nothing, put in where a line begins. -/
  | idle (front : List UInt8) (lines : List (List UInt8)) (rest : List UInt8)
      (whole : WholeLines front) (idle : ∀ line ∈ lines, 0x0A ∉ line ∧ Idle line) :
      Change (front ++ rest) (front ++ lines.flatMap (· ++ [0x0A]) ++ rest)
  /-- Other octets behind the line feed of a line that asks to leave. -/
  | afterQuit (front line rest other : List UInt8) (whole : WholeLines front) (single : 0x0A ∉ line)
      (leaves : hear line = .typed (.command .quit)) :
      Change (front ++ line ++ 0x0A :: rest) (front ++ line ++ 0x0A :: other)
  /-- A carriage return before a line feed that has none. -/
  | carriageReturn (before rest : List UInt8) (bare : before.getLast? ≠ some 0x0D) :
      Change (before ++ 0x0A :: rest) (before ++ 0x0D :: 0x0A :: rest)
  /-- A line feed behind a line that has none. -/
  | lineFeed (input : List UInt8) (unended : ¬ WholeLines input) : Change input (input ++ [0x0A])

/-! ## Lines of changed inputs -/

theorem WholeLines.append_feed (line : List UInt8) : WholeLines (line ++ [0x0A]) :=
  .inr List.getLast?_concat

/-- Any input is made of whole lines and a part of a line. -/
theorem exists_wholeLines (input : List UInt8) :
    ∃ front line, input = front ++ line ∧ WholeLines front ∧ 0x0A ∉ line := by
  induction input using List.reverseRecOn with
  | nil => exact ⟨[], [], rfl, .inl rfl, List.not_mem_nil⟩
  | append_singleton input octet ih =>
      by_cases feed : octet = 0x0A
      · subst feed
        exact ⟨_, [], (List.append_nil _).symm, .append_feed input, List.not_mem_nil⟩
      · obtain ⟨front, line, rfl, whole, single⟩ := ih
        refine ⟨front, line ++ [octet], List.append_assoc .., whole, ?_⟩
        simpa [single] using Ne.symm feed

/-- The lines behind whole lines are those of the rest. -/
theorem inputLines_append {front : List UInt8} (whole : WholeLines front) (rest : List UInt8) :
    inputLines (front ++ rest) = inputLines front ++ inputLines rest := by
  have cut := cut_inputLines front
  generalize inputLines front = lines at cut ⊢
  induction cut with
  | done => rfl
  | rest line nonempty single =>
      exact absurd (List.mem_of_getLast? (whole.resolve_left nonempty)) single
  | line line later lines single cut ih =>
      have more : WholeLines later := by
        cases later with
        | nil => exact .inl rfl
        | cons octet later =>
            right
            simpa [WholeLines, List.getLast?_append] using whole
      rw [List.append_assoc, List.cons_append, inputLines_append_cons single, ih more,
        List.cons_append]

theorem inputLines_flatMap_append {lines : List (List UInt8)}
    (single : ∀ line ∈ lines, 0x0A ∉ line) (rest : List UInt8) :
    inputLines (lines.flatMap (· ++ [0x0A]) ++ rest) = lines ++ inputLines rest := by
  induction lines with
  | nil => rfl
  | cons line lines ih =>
      obtain ⟨first, others⟩ := List.forall_mem_cons.mp single
      rw [List.flatMap_cons, List.append_assoc, List.append_assoc, List.singleton_append,
        inputLines_append_cons first, ih others, List.cons_append]

/-! ## What counts -/

/-- Whether what the user said asks for nothing. -/
def Heard.isIdle : Heard → Bool
  | .noise _ | .typed (.command .help) | .typed (.unknown _) => true
  | _ => false

/-- What the user said up to leaving, without what asks for nothing. -/
def said (lines : List (List UInt8)) : List Heard :=
  ((lines.map hear).filter (!·.isIdle)).takeWhile (!·.isQuit)

theorem isIdle_hear_iff {line : List UInt8} : (hear line).isIdle ↔ Idle line := by
  cases heard : hear line with
  | noise fault =>
      have malformed : ¬ Utf8.WellFormed line := by
        intro wellFormed
        rw [Utf8.hear_eq_typed_iff.mpr ⟨wellFormed, rfl⟩] at heard
        cases heard
      exact iff_of_true rfl (.inl malformed)
  | typed typed =>
      have wellFormed := (Utf8.hear_eq_typed_iff.mp heard).1
      simp only [Idle, heard, wellFormed, not_true_eq_false, false_or]
      cases typed with
      | source | unknown => simp [Heard.isIdle]
      | command command => cases command <;> simp [Heard.isIdle]

instance (line : List UInt8) : Decidable (Idle line) :=
  decidable_of_iff _ isIdle_hear_iff

/-- What asks for nothing gets no reply, leaves the draft alone and does not leave. -/
theorem Heard.reply_of_isIdle {heard : Heard} (idle : heard.isIdle) (draft : Draft) :
    heard.isQuit = false ∧ reply draft heard = [] ∧ heard.edit draft = draft := by
  revert idle
  fun_cases isIdle <;> simp [isQuit, reply, edit]

theorem replies_heardIn (draft : Draft) (lines : List (List UInt8)) :
    replies draft (heardIn lines) = replies draft (said lines) := by
  induction lines generalizing draft with
  | nil => rfl
  | cons line lines ih =>
      simp only [heardIn, said] at ih
      simp only [heardIn, said, List.map_cons, List.takeWhile_cons, List.filter_cons]
      cases idle : (hear line).isIdle with
      | true =>
          obtain ⟨stays, nothing, kept⟩ := (hear line).reply_of_isIdle idle draft
          simp [stays, replies, nothing, kept, ih]
      | false => cases leaves : (hear line).isQuit <;> simp [leaves, replies, ih]

theorem said_append_idle {lines : List (List UInt8)} (idle : ∀ line ∈ lines, Idle line)
    (front rest : List (List UInt8)) : said (front ++ (lines ++ rest)) = said (front ++ rest) := by
  have nothing : (lines.map hear).filter (!·.isIdle) = [] := by
    rw [List.filter_eq_nil_iff]
    simpa using fun line member => isIdle_hear_iff.mpr (idle line member)
  simp only [said, List.map_append, List.filter_append, nothing, List.nil_append]

/-- What follows the command to leave does not count. -/
theorem said_append_quit {line : List UInt8} (leaves : hear line = .typed (.command .quit))
    (front rest other : List (List UInt8)) :
    said (front ++ line :: rest) = said (front ++ line :: other) := by
  simp [said, leaves, Heard.isIdle, Heard.isQuit, List.takeWhile_append]

/-- A carriage return is read for itself, whatever stands before it. -/
theorem decode_append_return (line : List UInt8) :
    Utf8.decode (line ++ [0x0D]) = Utf8.decode line ++ "\r" :=
  Utf8.decode_append line (by simp [Utf8.Apart, Utf8.Within, Utf8.tail])

theorem wellFormed_append_return (line : List UInt8) :
    Utf8.WellFormed (line ++ [0x0D]) ↔ Utf8.WellFormed line := by
  have one : Utf8.encode "\r" = [0x0D] := rfl
  rw [← Utf8.encode_decode_iff, ← Utf8.encode_decode_iff, decode_append_return, Utf8.encode_append,
    one, List.append_cancel_right_eq]

/-- The last octet of a line that ends with a carriage return is its code. -/
theorem getLast?_of_decode {line : List UInt8} (wellFormed : Utf8.WellFormed line)
    (ends : (Utf8.decode line).toList.getLast? = some '\r') : line.getLast? = some 0x0D := by
  obtain ⟨chars, spelled⟩ := List.getLast?_eq_some_iff.mp ends
  rw [← Utf8.encode_decode_iff.mpr wellFormed, Utf8.encode, spelled, List.flatMap_append]
  exact List.getLast?_concat

/-- With a carriage return behind it, a line is still not UTF-8, or it is heard in the same way. -/
theorem hear_append_return {line : List UInt8} (bare : line.getLast? ≠ some 0x0D) :
    ¬ Utf8.WellFormed line ∧ ¬ Utf8.WellFormed (line ++ [0x0D]) ∨
      hear (line ++ [0x0D]) = hear line := by
  by_cases wellFormed : Utf8.WellFormed line
  · right
    have kept : dropReturn (Utf8.decode line).toList = (Utf8.decode line).toList :=
      if_neg fun ends => bare (getLast?_of_decode wellFormed ends)
    have dropped :
        dropReturn (Utf8.decode (line ++ [0x0D])).toList = (Utf8.decode line).toList := by
      rw [decode_append_return, String.toList_append]
      simp [dropReturn]
    rw [Utf8.hear_eq_typed_iff.mpr ⟨wellFormed, rfl⟩, kept]
    exact Utf8.hear_eq_typed_iff.mpr
      ⟨(wellFormed_append_return line).mpr wellFormed, by rw [dropped]⟩
  · exact .inl ⟨wellFormed, (wellFormed_append_return line).not.mpr wellFormed⟩

theorem said_append_return {line : List UInt8} (bare : line.getLast? ≠ some 0x0D)
    (front rest : List (List UInt8)) :
    said (front ++ line :: rest) = said (front ++ (line ++ [0x0D]) :: rest) := by
  rcases hear_append_return bare with ⟨malformed, still⟩ | same
  · have first := isIdle_hear_iff.mpr (.inl malformed)
    have second := isIdle_hear_iff.mpr (.inl still)
    simp [said, first, second]
  · simp only [said, List.map_append, List.map_cons, same]

theorem said_eq_of_change {input other : List UInt8} (change : Change input other) :
    said (inputLines input) = said (inputLines other) := by
  cases change with
  | idle front lines rest whole idle =>
      rw [List.append_assoc, inputLines_append whole, inputLines_append whole,
        inputLines_flatMap_append fun line member => (idle line member).1,
        said_append_idle fun line member => (idle line member).2]
  | afterQuit front line rest later whole single leaves =>
      rw [List.append_assoc, List.append_assoc, inputLines_append whole, inputLines_append whole,
        inputLines_append_cons single, inputLines_append_cons single]
      exact said_append_quit leaves ..
  | carriageReturn before rest bare =>
      -- The line that is changed begins behind the last line feed before its own.
      obtain ⟨front, line, rfl, whole, single⟩ := exists_wholeLines before
      have returned : 0x0A ∉ line ++ [0x0D] := by simpa using single
      rw [List.append_assoc, List.append_assoc, List.append_cons line 0x0D, inputLines_append whole,
        inputLines_append whole, inputLines_append_cons single, inputLines_append_cons returned]
      apply said_append_return
      intro ends
      rw [List.getLast?_append, ends] at bare
      exact bare rfl
  | lineFeed input unended =>
      obtain ⟨front, line, rfl, whole, single⟩ := exists_wholeLines input
      have nonempty : line ≠ [] := by
        rintro rfl
        exact unended (by rwa [List.append_nil])
      rw [List.append_assoc, inputLines_append whole, inputLines_append whole,
        inputLines_append_cons single, inputLines_of_whole single,
        if_neg (by simpa using nonempty)]
      rfl

/-! ## What is run -/

/-- A run in a dialogue. -/
structure Trial where
  source : String
  /-- What the run did to the guest, and how it ended. -/
  exchange : Exchange

/-- The run that a line asks for. -/
def trial? (dialogue : Dialogue) : Heard → Option Trial
  | .typed (.command .run) =>
      if dialogue.draft.isEmpty then none
      else some ⟨dialogue.draft.source, dialogue.session.exchange dialogue.draft.source⟩
  | _ => none

/-- The runs in a dialogue over some lines, in order. -/
def trials (prompt : Bool) : Dialogue → List (List UInt8) → List Trial
  | _, [] => []
  | dialogue, octets :: later =>
      let dialogue := dialogue.invite prompt
      let heard := hear octets
      if heard.isQuit then []
      else (dialogue.trial? heard).toList ++ trials prompt (dialogue.answer heard) later

/-- The runs among some acts. -/
def trialsOf : Session → List Act → List Trial
  | _, [] => []
  | session, .run source :: later =>
      ⟨source, session.exchange source⟩ :: trialsOf (session.run source).2 later
  | session, .print .. :: later => trialsOf session later

theorem trialsOf_with_output (session : Session) (output : Transcript) (acts : List Act) :
    trialsOf (session.withOutput output) acts = trialsOf session acts := by
  induction acts generalizing session output with
  | nil => rfl
  | cons act later ih =>
      cases act with
      | run source => exact congrArg (_ :: ·) (ih (session.run source).2 _)
      | print stream text => exact ih session output

/-- The run that a line asks for is the one that its reply makes. -/
theorem trialsOf_reply (dialogue : Dialogue) (heard : Heard) (later : List Act) :
    trialsOf dialogue.session (reply dialogue.draft heard ++ later) =
      (dialogue.trial? heard).toList ++ trialsOf (dialogue.answer heard).session later := by
  have printed (stream : Stream) (text : String) :
      trialsOf (perform dialogue.session (.print stream text)) later =
        trialsOf dialogue.session later := trialsOf_with_output ..
  cases heard with
  | noise fault => exact (printed ..).symm
  | typed typed =>
      cases typed with
      | source line => rfl
      | unknown name => exact (printed ..).symm
      | command command =>
          cases command with
          | clear | quit => rfl
          | list | sample | help => exact (printed ..).symm
          | run =>
              simp only [reply, trial?, answer, obey, runDraft]
              split
              · exact (printed ..).symm
              · exact congrArg (_ :: ·) (trialsOf_with_output ..).symm

theorem trials_eq (prompt : Bool) (dialogue : Dialogue) (lines : List (List UInt8)) :
    trials prompt dialogue lines =
      trialsOf dialogue.session (replies dialogue.draft (heardIn lines)) := by
  induction lines generalizing dialogue with
  | nil => rfl
  | cons line later ih =>
      simp only [trials, heardIn, List.map_cons, List.takeWhile_cons]
      cases leaves : (hear line).isQuit with
      | true => rfl
      | false =>
          have invited (acts : List Act) :
              trialsOf (dialogue.invite prompt).session acts = trialsOf dialogue.session acts := by
            cases prompt with
            | true => exact trialsOf_with_output ..
            | false => rfl
          have step := trialsOf_reply (dialogue.invite prompt) (hear line)
            (replies ((hear line).edit dialogue.draft) (heardIn later))
          rw [draft_invite, invited] at step
          simp only [Bool.not_false, if_true, replies]
          rw [ih, draft_answer, draft_invite]
          exact step.symm

theorem trialsOf_filter (session : Session) (acts : List Act) :
    trialsOf session (acts.filter Act.isShown) = trialsOf session acts := by
  induction acts generalizing session with
  | nil => rfl
  | cons act later ih =>
      cases act with
      | run source => exact congrArg (_ :: ·) (ih (session.run source).2)
      | print stream text => cases stream <;> exact ih session

/-- Acts leave the session as the runs among them do, but for the output. -/
theorem foldl_perform_eq (session : Session) (output : Transcript) (acts : List Act) :
    let deeds := (trialsOf session acts).map fun trial => Deed.run trial.source
    (trialsOf session acts).map Trial.exchange = session.exchanges deeds ∧
    ∃ left, acts.foldl perform (session.withOutput output) =
      (session.after deeds).withOutput left := by
  induction acts generalizing session output with
  | nil => exact ⟨rfl, output, rfl⟩
  | cons act later ih =>
      cases act with
      | run source =>
          obtain ⟨exchanges, left, session_eq⟩ := ih (session.run source).2
            (output.appendAll (session.exchange source).fragments)
          exact ⟨congrArg (session.exchange source :: ·) exchanges, left, session_eq⟩
      | print stream text => exact ih session _

/-! ## What the input decides -/

/-- A dialogue leaves the session as its runs do, but for the output, and each of them finds the
guest as those before it left it. -/
theorem session_drive (session : Session) (input : List UInt8) (prompt : Bool) :
    let ran := trials prompt { session } (inputLines input)
    let deeds := ran.map fun trial => Deed.run trial.source
    let left := (drive session input prompt).session
    ran.map Trial.exchange = session.exchanges deeds ∧
    left = (session.after deeds).withOutput left.host.output := by
  obtain ⟨-, acts, shows, after⟩ := converse_eq prompt { session } (inputLines input)
  obtain ⟨exchanges, output, session_eq⟩ := foldl_perform_eq session session.host.output acts
  rw [trials_eq, ← shows, trialsOf_filter]
  have left_eq := after.trans session_eq
  exact ⟨exchanges, left_eq.trans
    (congrArg (Session.withOutput _) (congrArg (·.host.output) left_eq).symm)⟩

/-- What was said tells the runs of a dialogue and its standard output. -/
theorem trials_and_contents_drive (session : Session) (input : List UInt8) (prompt : Bool) :
    let acts := replies {} (said (inputLines input))
    trials prompt { session } (inputLines input) = trialsOf session acts ∧
    (drive session input prompt).session.host.output.contents =
      session.host.output.contents ++ shown session.host.output.routing session acts := by
  intro acts
  obtain ⟨-, done, shows, after⟩ := converse_eq prompt { session } (inputLines input)
  rw [replies_heardIn] at shows
  refine ⟨by rw [trials_eq, replies_heardIn], ?_⟩
  rw [drive, after, contents_foldl_perform, shows]

theorem said_eq_of_changes {input other : List UInt8}
    (changes : Relation.EqvGen Change input other) :
    said (inputLines input) = said (inputLines other) := by
  induction changes with
  | rel _ _ change => exact said_eq_of_change change
  | refl => rfl
  | symm _ _ _ ih => exact ih.symm
  | trans _ _ _ _ _ first second => exact first.trans second

/-- **Inputs that come to the same.**  Any number of changes can be made to the input of a dialogue,
or undone: lines that ask for nothing are put in, what follows the command to leave is replaced,
a carriage return is put before a line feed, or the last line feed is added.  The dialogue runs the
same sources with the same results, and shows the same on the standard output.  These runs are all
that either dialogue does to the session, but for the output. -/
theorem drive_eq_of_changes {input other : List UInt8}
    (changes : Relation.EqvGen Change input other) (session : Session) (prompt : Bool) :
    let left := (drive session input prompt).session
    let right := (drive session other prompt).session
    let ran := trials prompt { session } (inputLines input)
    let deeds := ran.map fun trial => Deed.run trial.source
    ran = trials prompt { session } (inputLines other) ∧
    left.host.output.contents = right.host.output.contents ∧
    ran.map Trial.exchange = session.exchanges deeds ∧
    left = (session.after deeds).withOutput left.host.output ∧
    right = (session.after deeds).withOutput right.host.output := by
  have same := said_eq_of_changes changes
  obtain ⟨ran_eq, contents⟩ := trials_and_contents_drive session input prompt
  obtain ⟨ran_other, contents_other⟩ := trials_and_contents_drive session other prompt
  rw [← same] at ran_other contents_other
  have trials_same := ran_eq.trans ran_other.symm
  obtain ⟨exchanges, left_eq⟩ := session_drive session input prompt
  obtain ⟨-, right_eq⟩ := session_drive session other prompt
  rw [← trials_same] at right_eq
  exact ⟨trials_same, contents.trans contents_other.symm, exchanges, left_eq, right_eq⟩

/-- A line of source, a run and the command to leave, without a line feed behind it. -/
def plainInput : List UInt8 :=
  Utf8.encode "a\n:r\n:q"

/-- `plainInput` with noise before the run and more behind the command to leave. -/
def noisyInput : List UInt8 :=
  Utf8.encode "a\r\n" ++ [0xFF, 0x0A] ++ Utf8.encode ":h\n:what\n:r\n:q\nb\n:r\n"

theorem drive_eq_of_changes_noisyInput :
    Relation.EqvGen Change plainInput noisyInput ∧
    trials true { session := terseSession } (inputLines plainInput) =
      trials true { session := terseSession } (inputLines noisyInput) ∧
    (drive terseSession noisyInput true).session.host.output.contents = "a\n\n" := by
  have ended : Change plainInput (Utf8.encode "a\n:r\n:q\n") :=
    .lineFeed plainInput (by decide +kernel)
  have more : Change (Utf8.encode "a\n:r\n:q\n") (Utf8.encode "a\n:r\n:q\nb\n:r\n") :=
    .afterQuit (Utf8.encode "a\n:r\n") (Utf8.encode ":q") [] (Utf8.encode "b\n:r\n")
      (by decide +kernel) (by decide +kernel) rfl
  have noise : Change (Utf8.encode "a\n:r\n:q\nb\n:r\n")
      (Utf8.encode "a\n" ++ [0xFF, 0x0A] ++ Utf8.encode ":h\n:what\n:r\n:q\nb\n:r\n") :=
    .idle (Utf8.encode "a\n") [[0xFF], Utf8.encode ":h", Utf8.encode ":what"]
      (Utf8.encode ":r\n:q\nb\n:r\n") (by decide +kernel) (by decide +kernel)
  have returned : Change
      (Utf8.encode "a\n" ++ [0xFF, 0x0A] ++ Utf8.encode ":h\n:what\n:r\n:q\nb\n:r\n")
      noisyInput := .carriageReturn (Utf8.encode "a") _ (by decide +kernel)
  have changes := ((Relation.EqvGen.rel _ _ ended).trans _ _ _ (.rel _ _ more)).trans _ _ _
    (.trans _ _ _ (.rel _ _ noise) (.rel _ _ returned))
  obtain ⟨ran, contents, -⟩ := drive_eq_of_changes changes terseSession true
  exact ⟨changes, ran, contents.symm.trans (by decide +kernel)⟩

end Dialogue
end SandboxHost
