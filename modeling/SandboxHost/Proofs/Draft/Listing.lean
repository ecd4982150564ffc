import SandboxHost.Proofs.Draft
import Std.Data.String.ToNat

/-!
# Listings

The listing of a draft has one row for each line: the number of the line, right-aligned in a gutter
as wide as the last number, a bar, and the line.  No number is wider than the gutter, so cutting all
rows at the same place gives the numbers and the lines back.
-/

namespace SandboxHost
namespace Draft

/-- The characters between a number and its line. -/
def bar : List Char := [' ', '|', ' ']

/-- The width of the numbers in a listing of `count` lines. -/
def gutter (count : Nat) : Nat :=
  (Nat.toDigits 10 count).length

/-- A row of a listing: blanks, the number up to the end of the gutter, the bar and the line. -/
def row (width number : Nat) (line : String) : List Char :=
  List.replicate (width - (Nat.toDigits 10 number).length) ' ' ++ Nat.toDigits 10 number ++
    (bar ++ line.toList)

/-- The number in the gutter of a row. -/
def readNumber (width : Nat) (row : List Char) : Option Nat :=
  (String.ofList ((row.take width).dropWhile (· == ' '))).toNat?

/-- The line behind the gutter and the bar of a row. -/
def readLine (width : Nat) (row : List Char) : String :=
  String.ofList (row.drop (width + bar.length))

/-! ## Numbers -/

/-- Smaller numbers are not wider. -/
theorem length_toDigits_mono {small large : Nat} (le : small ≤ large) :
    (Nat.toDigits 10 small).length ≤ (Nat.toDigits 10 large).length := by
  have ten : 1 < 10 := by decide
  rw [Nat.length_toDigits_le_iff ten Nat.length_toDigits_pos]
  exact Nat.lt_of_le_of_lt le
    ((Nat.length_toDigits_le_iff ten Nat.length_toDigits_pos).mp (Nat.le_refl _))

theorem not_mem_toDigits {c : Char} (other : c.isDigit = false) (number : Nat) :
    c ∉ Nat.toDigits 10 number := by
  intro member
  have digit := Nat.isDigit_of_mem_toDigits (by decide) (by decide) member
  rw [other] at digit
  cases digit

/-- Blanks before a number are passed over. -/
theorem dropWhile_blanks_toDigits (blanks number : Nat) :
    (List.replicate blanks ' ' ++ Nat.toDigits 10 number).dropWhile (· == ' ') =
      Nat.toDigits 10 number := by
  rw [List.dropWhile_append_of_pos (by simp)]
  have blank := not_mem_toDigits (c := ' ') rfl number
  cases digits : Nat.toDigits 10 number with
  | nil => rfl
  | cons first later =>
      rw [digits, List.mem_cons, not_or] at blank
      simp [Ne.symm blank.1]

/-! ## Rows -/

section Row

variable {width number : Nat} {line : String}

theorem length_number (fits : (Nat.toDigits 10 number).length ≤ width) :
    (List.replicate (width - (Nat.toDigits 10 number).length) ' ' ++
      Nat.toDigits 10 number).length = width := by
  rw [List.length_append, List.length_replicate]
  exact Nat.sub_add_cancel fits

theorem feed_not_mem_row (single : '\n' ∉ line.toList) : '\n' ∉ row width number line := by
  have digits := not_mem_toDigits (c := '\n') rfl number
  simp [row, bar, single, digits]

theorem readNumber_row (fits : (Nat.toDigits 10 number).length ≤ width) :
    readNumber width (row width number line) = some number := by
  rw [readNumber, row, List.take_left' (length_number fits), dropWhile_blanks_toDigits,
    ← Nat.repr_eq_ofList_toDigits, Nat.toNat?_repr]

theorem drop_row (fits : (Nat.toDigits 10 number).length ≤ width) :
    (row width number line).drop width = bar ++ line.toList :=
  List.drop_left' (length_number fits)

theorem readLine_row (fits : (Nat.toDigits 10 number).length ≤ width) :
    readLine width (row width number line) = line := by
  rw [readLine, ← List.drop_drop, drop_row fits, List.drop_left, String.ofList_toList]

end Row

/-! ## The listing -/

/-- The rows of a listing. -/
def rows (draft : Draft) : List (List Char) :=
  draft.lines.toList.mapIdx fun index line => row (gutter draft.lines.size) (index + 1) line

theorem length_rows (draft : Draft) : draft.rows.length = draft.lines.size :=
  List.length_mapIdx

theorem getElem_rows (draft : Draft) {index : Nat} (inside : index < draft.lines.size)
    (within : index < draft.rows.length) :
    draft.rows[index] = row (gutter draft.lines.size) (index + 1) draft.lines[index] := by
  simp only [rows, List.getElem_mapIdx, Array.getElem_toList]

/-- The number of no line is wider than the gutter. -/
theorem number_fits {count index : Nat} (inside : index < count) :
    (Nat.toDigits 10 (index + 1)).length ≤ gutter count :=
  length_toDigits_mono inside

theorem toList_numberedLine (count number : Nat) (line : String) :
    (numberedLine (toString count).length number line).toList =
      row (gutter count) number line ++ ['\n'] := by
  simp [numberedLine, padded, List.leftpad, row, gutter, bar, ← String.length_toList]

theorem toList_numbered (draft : Draft) :
    draft.numbered.toList = draft.rows.flatMap (· ++ ['\n']) := by
  simp only [numbered, String.toList_join, rows, List.mapIdx_eq_zipIdx_map, List.flatMap_map,
    toList_numberedLine]

theorem terminated_numbered {draft : Draft} (whole : draft.Whole) :
    terminated (· == '\n') draft.numbered.toList = (draft.rows, []) := by
  have single : ∀ part ∈ draft.rows, '\n' ∉ part := by
    intro part member
    obtain ⟨index, within, rfl⟩ := List.getElem_of_mem member
    rw [draft.getElem_rows (draft.length_rows ▸ within)]
    exact feed_not_mem_row (whole _ (by simp))
  rw [toList_numbered, ← List.append_nil (List.flatMap _ _)]
  exact terminated_flatMap_append single List.not_mem_nil

theorem readNumbers_rows (draft : Draft) :
    draft.rows.map (readNumber (gutter draft.lines.size)) =
      (List.range' 1 draft.lines.size).map some := by
  apply List.ext_getElem
  · simp [length_rows]
  · intro index inside other
    rw [List.length_map, length_rows] at inside
    rw [List.getElem_map, draft.getElem_rows inside, readNumber_row (number_fits inside)]
    simp [Nat.add_comm]

theorem readLines_rows (draft : Draft) :
    draft.rows.map (readLine (gutter draft.lines.size)) = draft.lines.toList := by
  apply List.ext_getElem
  · simp [length_rows]
  · intro index inside other
    rw [List.length_map, length_rows] at inside
    rw [List.getElem_map, draft.getElem_rows inside, readLine_row (number_fits inside),
      Array.getElem_toList]

/-- **A listing is aligned and can be read back.**  It has a row for each line, with the number of
the line, the bar and the line itself.  No number is wider than the gutter, so that the bar stands
in the same column of all rows; the numbers read there are those from one on, and behind the bar
stand the lines.  Drafts with the same listing are therefore the same. -/
theorem listing_reads_back (draft : Draft) (whole : draft.Whole) :
    let count := draft.lines.size
    let width := (Nat.toDigits 10 count).length
    ∃ rows : List (List Char),
      terminated (· == '\n') draft.numbered.toList = (rows, []) ∧ rows.length = count ∧
      (∀ (index : Nat) (inside : index < count),
        let digits := Nat.toDigits 10 (index + 1)
        digits.length ≤ width ∧
        rows[index]? = some (List.replicate (width - digits.length) ' ' ++ digits ++
          ([' ', '|', ' '] ++ draft.lines[index].toList))) ∧
      (∀ row ∈ rows, (row.drop width).take 3 = [' ', '|', ' ']) ∧
      rows.map (readNumber width) = (List.range' 1 count).map some ∧
      rows.map (readLine width) = draft.lines.toList ∧
      ∀ other : Draft, other.Whole → other.numbered = draft.numbered → other = draft := by
  refine ⟨draft.rows, terminated_numbered whole, length_rows draft, ?_, ?_, readNumbers_rows draft,
    readLines_rows draft, ?_⟩
  · intro index inside
    refine ⟨number_fits inside, ?_⟩
    rw [List.getElem?_eq_getElem (draft.length_rows ▸ inside), draft.getElem_rows inside]
    rfl
  · intro part member
    obtain ⟨index, within, rfl⟩ := List.getElem_of_mem member
    have inside : index < draft.lines.size := draft.length_rows ▸ within
    rw [draft.getElem_rows inside, ← gutter, drop_row (number_fits inside)]
    rfl
  · intro other otherWhole same
    have cut := terminated_numbered otherWhole
    rw [same, terminated_numbered whole] at cut
    have rows_eq : draft.rows = other.rows := congrArg Prod.fst cut
    have size_eq : draft.lines.size = other.lines.size := by
      rw [← length_rows, rows_eq, length_rows]
    have lines_eq : other.lines.toList = draft.lines.toList := by
      rw [← readLines_rows, ← readLines_rows, rows_eq, size_eq]
    exact congrArg Draft.mk (Array.toList_inj.mp lines_eq)

/-- A draft of ten lines, some of which look like rows of a listing. -/
def barredDraft : Draft :=
  ⟨#["", " 2 | b", "3", "", " ", "|", "", "", "9", "10 | c"]⟩

theorem listing_reads_back_barredDraft :
    barredDraft.Whole ∧ ∃ rows : List (List Char),
      terminated (· == '\n') barredDraft.numbered.toList = (rows, []) ∧
      rows[1]? = some " 2 |  2 | b".toList ∧ rows[9]? = some "10 | 10 | c".toList ∧
      rows.map (readNumber 2) = (List.range' 1 10).map some ∧
      rows.map (readLine 2) = barredDraft.lines.toList := by
  have whole : barredDraft.Whole := by unfold Whole; decide
  obtain ⟨rows, cut, -, each, -, numbers, lines, -⟩ := listing_reads_back barredDraft whole
  refine ⟨whole, rows, cut, ?_, ?_, numbers, lines⟩
  · exact (each 1 (by decide)).2.trans (by decide)
  · exact (each 9 (by decide)).2.trans (by decide)

end Draft
end SandboxHost
