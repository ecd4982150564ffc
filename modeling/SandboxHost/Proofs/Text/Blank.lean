import Mathlib.Data.List.DropRight
import Mathlib.Data.List.TakeWhile
import SandboxHost.Text.Blank

/-!
# Between the blanks

Characters are blanks, then characters that neither begin nor end with a blank, and blanks again.
Those in the middle are what is left when the blanks at both ends are cut off, and nothing else is.
-/

namespace SandboxHost

/-- The code points of all characters with the property White_Space. -/
def whiteSpace : List Nat :=
  [0x09, 0x0A, 0x0B, 0x0C, 0x0D, 0x20, 0x85, 0xA0, 0x1680, 0x2000, 0x2001, 0x2002, 0x2003, 0x2004,
    0x2005, 0x2006, 0x2007, 0x2008, 0x2009, 0x200A, 0x2028, 0x2029, 0x202F, 0x205F, 0x3000]

theorem isBlank_iff {c : Char} : isBlank c ↔ c.toNat ∈ whiteSpace := by
  simp only [isBlank, Bool.or_eq_true, Bool.and_eq_true, decide_eq_true_eq, beq_iff_eq,
    ← UInt32.toNat_inj, UInt32.le_iff_toNat_le]
  simp only [UInt32.reduceToNat, Char.toNat_val, whiteSpace, List.mem_cons, List.not_mem_nil,
    or_false]
  omega

/-- There are only blanks, or nothing at all. -/
def Blanks (chars : List Char) : Prop :=
  ∀ c ∈ chars, isBlank c

/-- Neither the first nor the last character is a blank. -/
def Bare (chars : List Char) : Prop :=
  (∀ c ∈ chars.head?, isBlank c = false) ∧ ∀ c ∈ chars.getLast?, isBlank c = false

-- Both are decided along the list; an instance that is searched for may go through all characters.
instance (chars : List Char) : Decidable (Blanks chars) :=
  List.decidableBAll _ chars

instance (chars : List Char) : Decidable (Bare chars) :=
  @instDecidableAnd _ _ (Option.decidableForallMem _) (Option.decidableForallMem _)

theorem Blanks.append {first second : List Char} (blank : Blanks first) (later : Blanks second) :
    Blanks (first ++ second) :=
  List.forall_mem_append.mpr ⟨blank, later⟩

section Trim

variable {before after chars : List Char}

theorem trimChars_eq_rdropWhile (chars : List Char) :
    trimChars chars = (chars.dropWhile isBlank).rdropWhile isBlank :=
  rfl

theorem trimChars_of_blanks (blank : Blanks chars) : trimChars chars = [] := by
  rw [trimChars_eq_rdropWhile, List.dropWhile_eq_nil_iff.mpr blank, List.rdropWhile_nil]

theorem rdropWhile_append_blanks (blank : Blanks after) :
    (chars ++ after).rdropWhile isBlank = chars.rdropWhile isBlank := by
  have back : ∀ c ∈ after.reverse, isBlank c := fun c member => blank c (List.mem_reverse.mp member)
  rw [List.rdropWhile, List.reverse_append, List.dropWhile_append_of_pos back, List.rdropWhile]

/-- After a character that is no blank, only the blanks at the end are cut off. -/
theorem rdropWhile_cons {c : Char} (ink : isBlank c = false) (later : List Char) :
    (c :: later).rdropWhile isBlank = c :: later.rdropWhile isBlank := by
  rw [List.rdropWhile, List.reverse_cons, List.dropWhile_append]
  split
  · rename_i nothing
    rw [List.rdropWhile, List.isEmpty_iff.mp nothing]
    simp [ink]
  · rw [List.reverse_append]
    rfl

theorem trimChars_append_cons (blank : Blanks before) {c : Char} (ink : isBlank c = false)
    (later : List Char) :
    trimChars (before ++ c :: later) = c :: later.rdropWhile isBlank := by
  rw [trimChars_eq_rdropWhile, List.dropWhile_append_of_pos blank,
    List.dropWhile_cons_of_neg (by simp [ink]), rdropWhile_cons ink]

theorem bare_trimChars (chars : List Char) : Bare (trimChars chars) := by
  rw [trimChars_eq_rdropWhile]
  cases kept : chars.dropWhile isBlank with
  | nil => exact ⟨nofun, nofun⟩
  | cons first later =>
      have nonempty : chars.dropWhile isBlank ≠ [] := by simp [kept]
      have ink : isBlank first = false := by
        simpa [kept] using List.head_dropWhile_not isBlank nonempty
      constructor
      · rw [rdropWhile_cons ink]
        rintro c ⟨⟩
        exact ink
      · intro c last
        obtain ⟨left, rfl⟩ := List.mem_getLast?_eq_getLast last
        exact Bool.eq_false_iff.mpr (List.rdropWhile_last_not isBlank (first :: later) left)

theorem exists_eq_append_trimChars (chars : List Char) :
    ∃ before after, Blanks before ∧ Blanks after ∧ chars = before ++ trimChars chars ++ after := by
  have blank : Blanks (chars.takeWhile isBlank) := fun c member => List.mem_takeWhile_imp member
  have ends : Blanks ((chars.dropWhile isBlank).rtakeWhile isBlank) :=
    fun c member => List.mem_rtakeWhile_imp member
  refine ⟨_, _, blank, ends, ?_⟩
  rw [trimChars_eq_rdropWhile, List.append_assoc, List.rdropWhile_append_rtakeWhile,
    List.takeWhile_append_dropWhile]

/-- Cutting off the blanks leaves the one bare part that has nothing but blanks around it. -/
theorem trimChars_eq_iff {middle : List Char} :
    trimChars chars = middle ↔
      Bare middle ∧ ∃ before after, Blanks before ∧ Blanks after ∧
        chars = before ++ middle ++ after := by
  constructor
  · rintro rfl
    exact ⟨bare_trimChars chars, exists_eq_append_trimChars chars⟩
  · rintro ⟨bare, before, after, blank, ends, rfl⟩
    -- Between blanks that touch, the first cut leaves nothing for the second.
    cases middle with
    | nil =>
        rw [List.append_nil]
        exact trimChars_of_blanks (blank.append ends)
    | cons first later =>
        have ink : isBlank first = false := bare.1 first rfl
        rw [List.append_assoc, List.cons_append, trimChars_append_cons blank ink,
          rdropWhile_append_blanks ends, ← rdropWhile_cons ink, List.rdropWhile_eq_self_iff]
        intro nonempty
        simpa using bare.2 _ (List.getLast?_eq_getLast_of_ne_nil nonempty)

theorem trimChars_of_bare (bare : Bare chars) : trimChars chars = chars :=
  trimChars_eq_iff.mpr ⟨bare, [], [], nofun, nofun, by simp⟩

/-- More blanks around some characters make no difference to what is left. -/
theorem trimChars_between (blank : Blanks before) (ends : Blanks after) :
    trimChars (before ++ chars ++ after) = trimChars chars := by
  obtain ⟨front, back, front_blank, back_blank, chars_eq⟩ := exists_eq_append_trimChars chars
  refine trimChars_eq_iff.mpr ⟨bare_trimChars chars, before ++ front, back ++ after,
    blank.append front_blank, back_blank.append ends, ?_⟩
  conv_lhs => rw [chars_eq]
  simp only [List.append_assoc]

theorem trimChars_rdropWhile (chars : List Char) :
    trimChars (chars.rdropWhile isBlank) = trimChars chars := by
  have none : Blanks [] := List.forall_mem_nil _
  have ends : Blanks (chars.rtakeWhile isBlank) := fun c member => List.mem_rtakeWhile_imp member
  rw [← trimChars_between none ends, List.nil_append, List.rdropWhile_append_rtakeWhile]

end Trim

end SandboxHost
