import SandboxHost.Text.Utf8

/-!
# Well-formed sequences

The table of well-formed sequences, independent of any decoder.  A sequence spells a number by its
bits, and the sequences of the table are exactly the encodings of characters.
-/

namespace SandboxHost
namespace Utf8

/-! ## The table -/

/-- The range of the octets that continue a sequence. -/
def tail : UInt8 × UInt8 :=
  (0x80, 0xBF)

/-- The table of well-formed sequences: a row for each range of first octets, with the ranges of the
octets after it. -/
def table : List (List (UInt8 × UInt8)) :=
  [[(0x00, 0x7F)],
    [(0xC2, 0xDF), tail],
    [(0xE0, 0xE0), (0xA0, 0xBF), tail],
    [(0xE1, 0xEC), tail, tail],
    [(0xED, 0xED), (0x80, 0x9F), tail],
    [(0xEE, 0xEF), tail, tail],
    [(0xF0, 0xF0), (0x90, 0xBF), tail, tail],
    [(0xF1, 0xF3), tail, tail, tail],
    [(0xF4, 0xF4), (0x80, 0x8F), tail, tail]]

/-- An octet lies in a range. -/
def Within (range : UInt8 × UInt8) (octet : UInt8) : Prop :=
  range.1 ≤ octet ∧ octet ≤ range.2

/-- There is one octet for each range of a row, and lies in it. -/
def Matches : List (UInt8 × UInt8) → List UInt8 → Prop
  | [], [] => True
  | range :: row, octet :: octets => Within range octet ∧ Matches row octets
  | _, _ => False

/-- A well-formed sequence for one character. -/
def Sequence (octets : List UInt8) : Prop :=
  ∃ row ∈ table, Matches row octets

instance (range : UInt8 × UInt8) (octet : UInt8) : Decidable (Within range octet) :=
  inferInstanceAs (Decidable (_ ∧ _))

instance decidableMatches : ∀ row octets, Decidable (Matches row octets)
  | [], [] => isTrue trivial
  | range :: row, octet :: octets =>
      have := decidableMatches row octets
      inferInstanceAs (Decidable (Within range octet ∧ Matches row octets))
  | [], _ :: _ => isFalse id
  | _ :: _, [] => isFalse id

instance (octets : List UInt8) : Decidable (Sequence octets) :=
  inferInstanceAs (Decidable (∃ row ∈ table, Matches row octets))

/-- The number that the bits of a sequence spell. -/
def scalar : List UInt8 → Nat
  | [one] => one.toNat
  | [one, two] => one.toNat % 0x20 * 0x40 + two.toNat % 0x40
  | [one, two, three] =>
      (one.toNat % 0x10 * 0x40 + two.toNat % 0x40) * 0x40 + three.toNat % 0x40
  | [one, two, three, four] =>
      ((one.toNat % 0x08 * 0x40 + two.toNat % 0x40) * 0x40 + three.toNat % 0x40) * 0x40 +
        four.toNat % 0x40
  | _ => 0

/-- Texts in octets: well-formed sequences one after the other. -/
inductive WellFormed : List UInt8 → Prop
  | nil : WellFormed []
  | append {front rest : List UInt8} (sequence : Sequence front) (later : WellFormed rest) :
      WellFormed (front ++ rest)

theorem within_iff {low high octet : UInt8} :
    Within (low, high) octet ↔ low.toNat ≤ octet.toNat ∧ octet.toNat ≤ high.toNat :=
  Iff.rfl

/-- Whether some octets are a sequence, without the table: each octet is what its place asks for, and
the number they spell needs as many octets and is that of a character. -/
theorem sequence_iff {octets : List UInt8} :
    Sequence octets ↔
      match octets with
      | [one] => one.toNat ≤ 0x7F
      | [one, two] =>
          Within (0xC0, 0xDF) one ∧ Within tail two ∧ 0x7F < scalar octets
      | [one, two, three] =>
          Within (0xE0, 0xEF) one ∧ Within tail two ∧ Within tail three ∧
            0x7FF < scalar octets ∧ (scalar octets).isValidChar
      | [one, two, three, four] =>
          Within (0xF0, 0xF7) one ∧ Within tail two ∧ Within tail three ∧ Within tail four ∧
            0xFFFF < scalar octets ∧ (scalar octets).isValidChar
      | _ => False := by
  rcases octets with _ | ⟨one, _ | ⟨two, _ | ⟨three, _ | ⟨four, _ | ⟨five, octets⟩⟩⟩⟩⟩
  all_goals
    simp only [Sequence, table, List.mem_cons, List.not_mem_nil, or_false, exists_eq_or_imp,
      exists_eq_left, Matches, tail, within_iff, scalar, Nat.isValidChar, UInt8.reduceToNat,
      and_false, and_true, false_or, or_false]
  all_goals omega

/-! ## Encodings of characters -/

section

variable {c : Char}

theorem encodeChar_one (high : c.toNat ≤ 0x7F) :
    String.utf8EncodeChar c = [UInt8.ofNat c.toNat] :=
  if_pos high

theorem encodeChar_two (low : 0x7F < c.toNat) (high : c.toNat ≤ 0x7FF) :
    String.utf8EncodeChar c =
      [UInt8.ofNat (c.toNat / 64 % 32 + 192), UInt8.ofNat (c.toNat % 64 + 128)] :=
  (if_neg (Nat.not_le.mpr low)).trans (if_pos high)

theorem encodeChar_three (low : 0x7FF < c.toNat) (high : c.toNat ≤ 0xFFFF) :
    String.utf8EncodeChar c =
      [UInt8.ofNat (c.toNat / 4096 % 16 + 224), UInt8.ofNat (c.toNat / 64 % 64 + 128),
        UInt8.ofNat (c.toNat % 64 + 128)] := by
  have above : ¬ c.toNat ≤ 0x7F := by omega
  exact (if_neg above).trans ((if_neg (Nat.not_le.mpr low)).trans (if_pos high))

theorem encodeChar_four (low : 0xFFFF < c.toNat) :
    String.utf8EncodeChar c =
      [UInt8.ofNat (c.toNat / 262144 % 8 + 240), UInt8.ofNat (c.toNat / 4096 % 64 + 128),
        UInt8.ofNat (c.toNat / 64 % 64 + 128), UInt8.ofNat (c.toNat % 64 + 128)] := by
  have above : ¬ c.toNat ≤ 0x7F := by omega
  have beyond : ¬ c.toNat ≤ 0x7FF := by omega
  exact (if_neg above).trans ((if_neg beyond).trans (if_neg (Nat.not_le.mpr low)))

/-- The encoding of a character spells its number. -/
theorem scalar_encodeChar (c : Char) : scalar (String.utf8EncodeChar c) = c.toNat := by
  have below : c.toNat < 0x110000 := by
    have valid : c.toNat.isValidChar := c.valid
    unfold Nat.isValidChar at valid
    omega
  by_cases one : c.toNat ≤ 0x7F
  · simp only [encodeChar_one one, scalar, UInt8.toNat_ofNat']
    omega
  by_cases two : c.toNat ≤ 0x7FF
  · simp only [encodeChar_two (Nat.not_le.mp one) two, scalar, UInt8.toNat_ofNat']
    omega
  by_cases three : c.toNat ≤ 0xFFFF
  · simp only [encodeChar_three (Nat.not_le.mp two) three, scalar, UInt8.toNat_ofNat']
    omega
  · simp only [encodeChar_four (Nat.not_le.mp three), scalar, UInt8.toNat_ofNat']
    omega

/-- The encoding of a character is a sequence. -/
theorem sequence_encodeChar (c : Char) : Sequence (String.utf8EncodeChar c) := by
  have valid : c.toNat.isValidChar := c.valid
  have value := scalar_encodeChar c
  rw [sequence_iff]
  by_cases one : c.toNat ≤ 0x7F
  · simp only [encodeChar_one one, UInt8.toNat_ofNat']
    omega
  by_cases two : c.toNat ≤ 0x7FF
  · rw [encodeChar_two (Nat.not_le.mp one) two] at value ⊢
    simp only [value, tail, within_iff, UInt8.toNat_ofNat', UInt8.reduceToNat]
    omega
  by_cases three : c.toNat ≤ 0xFFFF
  · rw [encodeChar_three (Nat.not_le.mp two) three] at value ⊢
    simp only [value, tail, within_iff, UInt8.toNat_ofNat', UInt8.reduceToNat]
    refine ⟨?_, ?_, ?_, Nat.not_le.mp two, valid⟩
    all_goals omega
  · rw [encodeChar_four (Nat.not_le.mp three)] at value ⊢
    simp only [value, tail, within_iff, UInt8.toNat_ofNat', UInt8.reduceToNat]
    unfold Nat.isValidChar at valid
    refine ⟨?_, ?_, ?_, ?_, Nat.not_le.mp three, valid⟩
    all_goals omega

theorem ofNat_eq {number : Nat} (octet : UInt8) (same : number = octet.toNat) :
    UInt8.ofNat number = octet := by
  rw [same, UInt8.ofNat_toNat]

/-- A sequence is the encoding of the character whose number it spells. -/
theorem Sequence.encodeChar_eq {octets : List UInt8} (sequence : Sequence octets)
    (value : c.toNat = scalar octets) : String.utf8EncodeChar c = octets := by
  rw [sequence_iff] at sequence
  split at sequence
  · rename_i one
    simp only [scalar] at value
    rw [encodeChar_one (by omega), ofNat_eq one value]
  · rename_i one two
    simp only [scalar, tail, within_iff, UInt8.reduceToNat] at value sequence
    rw [encodeChar_two (by omega) (by omega), ofNat_eq one (by omega), ofNat_eq two (by omega)]
  · rename_i one two three
    simp only [scalar, tail, within_iff, UInt8.reduceToNat] at value sequence
    rw [encodeChar_three (by omega) (by omega), ofNat_eq one (by omega), ofNat_eq two (by omega),
      ofNat_eq three (by omega)]
  · rename_i one two three four
    simp only [scalar, tail, within_iff, UInt8.reduceToNat, Nat.isValidChar] at value sequence
    rw [encodeChar_four (by omega), ofNat_eq one (by omega), ofNat_eq two (by omega),
      ofNat_eq three (by omega), ofNat_eq four (by omega)]
  · exact sequence.elim

/-- What a sequence spells is the number of a character. -/
theorem Sequence.exists_char {octets : List UInt8} (sequence : Sequence octets) :
    ∃ c : Char, c.toNat = scalar octets := by
  have valid : (scalar octets).isValidChar := by
    rw [sequence_iff] at sequence
    split at sequence
    · simp only [scalar]
      omega
    · simp only [scalar]
      omega
    · exact sequence.2.2.2.2
    · exact sequence.2.2.2.2.2
    · exact sequence.elim
  exact ⟨Char.ofNatAux (scalar octets) valid, rfl⟩

end

end Utf8
end SandboxHost
