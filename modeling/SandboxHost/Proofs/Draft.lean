import SandboxHost.Draft
import SandboxHost.Proofs.Text.Lines

/-!
# The text of a draft

However a draft came to be, none of its lines contains a line feed.  Its text is its lines, each
ended by a line feed, unless its only line is empty: the text of that draft is empty, as if there
were no line.  Nothing else is lost, so that a text of whole lines comes back after it was loaded.
-/

namespace SandboxHost
namespace Draft

/-! ## Editing -/

/-- What can be done to a draft. -/
inductive Edit
  | push (line : String)
  | load (text : String)
  | clear
  deriving DecidableEq, Repr

/-- The draft after an edit. -/
def edit (draft : Draft) : Edit → Draft
  | .push line => draft.push line
  | .load text => .ofText text
  | .clear => {}

/-- The draft that some edits make of an empty one. -/
def edited (edits : List Edit) : Draft :=
  edits.foldl edit {}

/-- A line that is pushed contains no line feed. -/
def Edit.Whole : Edit → Prop
  | .push line => '\n' ∉ line.toList
  | .load _ | .clear => True

instance (change : Edit) : Decidable change.Whole := by
  cases change <;> unfold Edit.Whole <;> infer_instance

/-- No line contains a line feed. -/
def Whole (draft : Draft) : Prop :=
  ∀ line ∈ draft.lines.toList, '\n' ∉ line.toList

theorem whole_edit {draft : Draft} (whole : draft.Whole) {change : Edit}
    (single : change.Whole) : (draft.edit change).Whole := by
  cases change with
  | push line =>
      intro other member
      rw [edit, push, Array.toList_push, List.mem_append, List.mem_singleton] at member
      rcases member with old | rfl
      · exact whole other old
      · exact single
  | load text => exact fun line member => feed_not_mem_lines member
  | clear => exact List.forall_mem_nil _

theorem whole_foldl_edit {draft : Draft} (whole : draft.Whole) {edits : List Edit}
    (single : ∀ change ∈ edits, change.Whole) : (edits.foldl edit draft).Whole := by
  induction edits generalizing draft with
  | nil => exact whole
  | cons change edits ih =>
      obtain ⟨first, others⟩ := List.forall_mem_cons.mp single
      exact ih (whole_edit whole first) others

/-! ## Source -/

/-- The lines, each ended by a line feed. -/
def ended (draft : Draft) : String :=
  String.join (draft.lines.toList.map (· ++ "\n"))

theorem toList_ended (draft : Draft) :
    draft.ended.toList = draft.lines.toList.flatMap fun line => line.toList ++ ['\n'] := by
  rw [ended, String.toList_join, List.flatMap_map]
  simp only [String.toList_append]
  rfl

theorem intercalate_append_feed (first : String) (later : List String) :
    String.intercalate "\n" (first :: later) ++ "\n" =
      String.join ((first :: later).map (· ++ "\n")) := by
  induction later generalizing first with
  | nil => simp
  | cons second later ih =>
      rw [String.intercalate_cons_cons, String.append_assoc, ih second, List.map_cons (a := first),
        String.join_cons]

theorem intercalate_feed_eq_empty_iff (lines : List String) :
    String.intercalate "\n" lines = "" ↔ lines = [] ∨ lines = [""] := by
  match lines with
  | [] => simp
  | [line] => simp
  | first :: second :: later => simp [String.intercalate_cons_cons, String.append_eq_empty_iff]

/-- The text of a draft is its lines, each ended, but for the draft of one empty line. -/
theorem source_eq (draft : Draft) :
    draft.source = if draft.lines = #[""] then "" else draft.ended := by
  obtain ⟨⟨lines⟩⟩ := draft
  have empty := intercalate_feed_eq_empty_iff lines
  simp only [source, ended, String.isEmpty_iff]
  cases lines with
  | nil => rfl
  | cons first later =>
      by_cases blank : first :: later = [""]
      · rw [if_pos (empty.mpr (.inr blank)), blank]
        rfl
      · have more : String.intercalate "\n" (first :: later) ≠ "" :=
          fun same => (empty.mp same).elim nofun blank
        rw [if_neg more, if_neg (by simpa using blank), intercalate_append_feed]

theorem source_of_blank {draft : Draft} (blank : draft.lines = #[""]) : draft.source = "" := by
  rw [source_eq, if_pos blank]

theorem source_of_not_blank {draft : Draft} (more : draft.lines ≠ #[""]) :
    draft.source = draft.ended := by
  rw [source_eq, if_neg more]

theorem ended_eq_empty_iff (draft : Draft) : draft.ended = "" ↔ draft.isEmpty := by
  obtain ⟨⟨lines⟩⟩ := draft
  cases lines with
  | nil => decide
  | cons line later => simp [ended, isEmpty, String.append_eq_empty_iff]

/-- There is a line feed for each line, and none inside a line. -/
theorem count_ended {draft : Draft} (whole : draft.Whole) :
    draft.ended.toList.count '\n' = draft.lines.size := by
  obtain ⟨⟨lines⟩⟩ := draft
  rw [toList_ended]
  induction lines with
  | nil => rfl
  | cons line later ih =>
      obtain ⟨first, others⟩ := List.forall_mem_cons.mp whole
      have rest := ih others
      simp only [List.flatMap_cons, List.count_append, List.count_eq_zero.mpr first,
        List.size_toArray, List.length_cons] at rest ⊢
      rw [rest]
      exact Nat.add_comm 1 later.length

/-! ## Loading -/

/-- A text of whole lines is the lines of its draft again. -/
theorem ended_ofText {text : String} (whole : text = "" ∨ text.toList.getLast? = some '\n')
    (plain : ¬ ['\r', '\n'] <:+: text.toList) : (ofText text).ended = text := by
  rw [← String.toList_inj, toList_ended]
  exact flatMap_lines whole plain

theorem lines_ofText_eq_blank_iff {text : String}
    (whole : text = "" ∨ text.toList.getLast? = some '\n')
    (plain : ¬ ['\r', '\n'] <:+: text.toList) : (ofText text).lines = #[""] ↔ text = "\n" := by
  constructor
  · intro blank
    rw [← ended_ofText whole plain, ended, blank]
    rfl
  · rintro rfl
    decide

/-- **The text of a draft is its lines, each ended by a line feed, exactly if the draft is not one
empty line.**  So is it with all that follows: that the text is empty only without lines, that it
has as many line feeds as there are lines, and that a text of whole lines comes back after it was
loaded, which fails for a single line feed alone. -/
theorem source_eq_ended_iff (edits : List Edit) (single : ∀ change ∈ edits, change.Whole) :
    let draft := edited edits
    (draft.source = draft.ended ↔ draft.lines ≠ #[""]) ∧
    (draft.lines = #[""] → draft.source = "") ∧
    ((draft.source = "" ↔ draft.isEmpty) ↔ draft.lines ≠ #[""]) ∧
    (draft.source.toList.count '\n' = draft.lines.size ↔ draft.lines ≠ #[""]) ∧
    ∀ text : String, text = "" ∨ text.toList.getLast? = some '\n' →
      ¬ ['\r', '\n'] <:+: text.toList →
        ((draft.edit (.load text)).source = text ↔ text ≠ "\n") := by
  intro draft
  have start : ({} : Draft).Whole := List.forall_mem_nil _
  have whole : draft.Whole := whole_foldl_edit start single
  refine ⟨⟨?_, source_of_not_blank⟩, source_of_blank, ⟨?_, ?_⟩, ⟨?_, ?_⟩, ?_⟩
  · intro same blank
    rw [source_of_blank blank, eq_comm, ended_eq_empty_iff, isEmpty, blank] at same
    cases same
  · intro agree blank
    have nothing := agree.mp (source_of_blank blank)
    rw [isEmpty, blank] at nothing
    cases nothing
  · intro more
    rw [source_of_not_blank more, ended_eq_empty_iff]
  · intro agree blank
    rw [source_of_blank blank, blank] at agree
    cases agree
  · intro more
    rw [source_of_not_blank more, count_ended whole]
  · intro text ends plain
    have blank := lines_ofText_eq_blank_iff ends plain
    constructor
    · rintro same rfl
      rw [edit, source_of_blank (blank.mpr rfl)] at same
      exact absurd same (by decide)
    · intro more
      rw [edit, source_of_not_blank (mt blank.mp more), ended_ofText ends plain]

/-- Edits that leave a draft with empty lines at both ends. -/
def blankEdits : List Edit :=
  [.push "a", .clear, .load "\nb\r\n", .push ""]

theorem source_eq_ended_iff_blankEdits :
    (∀ change ∈ blankEdits, change.Whole) ∧ (edited blankEdits).lines = #["", "b", ""] ∧
    (edited blankEdits).source = "\nb\n\n" ∧
    (edited blankEdits).source.toList.count '\n' = 3 ∧
    ((edited blankEdits).edit (.load "\n\n")).source = "\n\n" := by
  have single : ∀ change ∈ blankEdits, change.Whole := by decide
  have lines : (edited blankEdits).lines = #["", "b", ""] := by decide
  have more : (edited blankEdits).lines ≠ #[""] := by rw [lines]; decide
  obtain ⟨source, -, -, feeds, loaded⟩ := source_eq_ended_iff blankEdits single
  refine ⟨single, lines, (source.mpr more).trans ?_, (feeds.mpr more).trans ?_, ?_⟩
  · rw [ended, lines]
    rfl
  · rw [lines]
    rfl
  · exact (loaded "\n\n" (by decide) (by decide)).mpr (by decide)

/-- The text of a draft of one empty line has no line feed. -/
theorem source_always_ended_false :
    ¬ ∀ edits : List Edit, (∀ change ∈ edits, change.Whole) →
      (edited edits).source = (edited edits).ended := by
  intro always
  exact absurd (always [.push ""] (by decide)) (by decide)

end Draft
end SandboxHost
