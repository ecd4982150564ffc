import Mathlib.Data.List.Infix
import SandboxHost.Text.Lines

/-!
# Cutting into lines

Cutting after separators undoes ending each of some parts with one, as long as no part contains a
separator, and every sequence is cut into such parts.  A text whose line feeds have no carriage
return before them is told by its lines.
-/

namespace SandboxHost

section Terminated

variable {α : Type} {separates : α → Bool}

theorem terminated_of_forall_not {rest : List α} (whole : ∀ item ∈ rest, separates item = false) :
    terminated separates rest = ([], rest) := by
  simp [terminated, List.splitOnP_eq_singleton whole]

theorem terminated_append_cons {line later : List α} {separator : α}
    (whole : ∀ item ∈ line, separates item = false) (ends : separates separator) :
    terminated separates (line ++ separator :: later) =
      (line :: (terminated separates later).1, (terminated separates later).2) := by
  have more := List.splitOnP_ne_nil separates later
  obtain ⟨first, others, parts⟩ := List.exists_cons_of_ne_nil more
  simp [terminated, List.splitOnP_append_cons _ _ ends, List.splitOnP_eq_singleton whole, parts]

end Terminated

/-! ## Parts that end with a separator -/

section Parts

variable {α : Type}

/-- Any sequence is made of parts that end with a separator, and a rest that does not. -/
theorem exists_parts [DecidableEq α] (separator : α) (items : List α) :
    ∃ (parts : List (List α)) (rest : List α), (∀ part ∈ parts, separator ∉ part) ∧
      separator ∉ rest ∧ items = parts.flatMap (· ++ [separator]) ++ rest := by
  induction items with
  | nil => exact ⟨[], [], nofun, nofun, rfl⟩
  | cons item items ih =>
      obtain ⟨parts, rest, whole, unended, rfl⟩ := ih
      by_cases ends : item = separator
      · subst ends
        exact ⟨[] :: parts, rest, List.forall_mem_cons.mpr ⟨List.not_mem_nil, whole⟩, unended, rfl⟩
      · -- The item stands at the beginning of the first part, or of the rest if there is none.
        cases parts with
        | nil => exact ⟨[], item :: rest, nofun, by simp [unended, Ne.symm ends], rfl⟩
        | cons part parts =>
            obtain ⟨first, others⟩ := List.forall_mem_cons.mp whole
            refine ⟨(item :: part) :: parts, rest, ?_, unended, rfl⟩
            exact List.forall_mem_cons.mpr ⟨by simp [first, Ne.symm ends], others⟩

variable [BEq α] [LawfulBEq α] {separator : α}

theorem beq_of_not_mem {part : List α} (whole : separator ∉ part) :
    ∀ item ∈ part, (item == separator) = false := by
  intro item member
  exact beq_eq_false_iff_ne.mpr fun same => whole (same ▸ member)

/-- Parts that are ended one by one are cut apart again. -/
theorem terminated_flatMap_append {parts : List (List α)} {rest : List α}
    (whole : ∀ part ∈ parts, separator ∉ part) (unended : separator ∉ rest) :
    terminated (· == separator) (parts.flatMap (· ++ [separator]) ++ rest) = (parts, rest) := by
  induction parts with
  | nil => exact terminated_of_forall_not (beq_of_not_mem unended)
  | cons part parts ih =>
      obtain ⟨first, others⟩ := List.forall_mem_cons.mp whole
      rw [List.flatMap_cons, List.append_assoc, List.append_assoc, List.singleton_append,
        terminated_append_cons (beq_of_not_mem first) (beq_self_eq_true separator), ih others]

end Parts

/-! ## Lines of a text -/

theorem lines_of_parts {parts : List (List Char)} {rest : List Char}
    (whole : ∀ part ∈ parts, '\n' ∉ part) (unended : '\n' ∉ rest) :
    lines (String.ofList (parts.flatMap (· ++ ['\n']) ++ rest)) =
      parts.map (fun part => String.ofList (dropReturn part)) ++
        if rest.isEmpty then [] else [String.ofList rest] := by
  rw [lines, String.toList_ofList, terminated_flatMap_append whole unended]

theorem mem_of_mem_dropReturn {chars : List Char} {c : Char} (member : c ∈ dropReturn chars) :
    c ∈ chars := by
  unfold dropReturn at member
  split at member
  · exact List.mem_of_mem_dropLast member
  · exact member

/-- No line of a text contains a line feed. -/
theorem feed_not_mem_lines {text line : String} (member : line ∈ lines text) :
    '\n' ∉ line.toList := by
  obtain ⟨parts, rest, whole, unended, text_eq⟩ := exists_parts '\n' text.toList
  rw [← String.ofList_toList (s := text), text_eq, lines_of_parts whole unended,
    List.mem_append, List.mem_map] at member
  rcases member with ⟨part, found, rfl⟩ | last
  · rw [String.toList_ofList]
    exact fun feed => whole part found (mem_of_mem_dropReturn feed)
  · split at last
    · cases last
    · rw [List.mem_singleton.mp last, String.toList_ofList]
      exact unended

/-- A text of whole lines without carriage returns before its line feeds is its lines, each ended by
a line feed. -/
theorem flatMap_lines {text : String} (ended : text = "" ∨ text.toList.getLast? = some '\n')
    (plain : ¬ ['\r', '\n'] <:+: text.toList) :
    (lines text).flatMap (fun line => line.toList ++ ['\n']) = text.toList := by
  obtain ⟨parts, rest, whole, unended, text_eq⟩ := exists_parts '\n' text.toList
  have nothing : rest = [] := by
    rcases ended with rfl | last
    · exact (List.append_eq_nil_iff.mp text_eq.symm).2
    · by_contra more
      rw [text_eq, List.getLast?_append_of_ne_nil _ more] at last
      exact unended (List.mem_of_getLast? last)
  subst nothing
  have kept : ∀ part ∈ parts, dropReturn part = part := by
    intro part member
    rw [dropReturn, if_neg]
    intro returned
    obtain ⟨front, rfl⟩ := List.getLast?_eq_some_iff.mp returned
    apply plain
    obtain ⟨early, late, rfl⟩ := List.append_of_mem member
    rw [text_eq]
    exact ⟨early.flatMap (· ++ ['\n']) ++ front, late.flatMap (· ++ ['\n']), by simp⟩
  rw [← String.ofList_toList (s := text), text_eq, lines_of_parts whole unended]
  simp only [List.isEmpty_nil, if_true, List.append_nil, List.flatMap_map, String.toList_ofList]
  exact List.flatMap_congr fun part member => by rw [kept part member]

end SandboxHost
