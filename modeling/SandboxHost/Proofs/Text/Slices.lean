import SandboxHost.Proofs.Text.Fragments

/-!
# Slices of texts

Places in a text are told by the number of octets before them.  Two places between characters cut a
slice out of the text, and the octets between them decode to that slice alone.
-/

namespace SandboxHost
namespace Utf8

/-- A number of octets that ends between two characters of a text, or at an end of it. -/
def Boundary (text : String) (offset : Nat) : Prop :=
  offset ≤ (encode text).length ∧ ¬ InsideCharacter text.toList offset

/-- A part of a text, with the octets before it and those up to its end. -/
def Slice (text : String) (start stop : Nat) (part : String) : Prop :=
  ∃ front back, text = front ++ part ++ back ∧
    (encode front).length = start ∧ (encode (front ++ part)).length = stop

theorem encode_append (front back : String) :
    encode (front ++ back) = encode front ++ encode back := by
  rw [encode, String.toList_append, List.flatMap_append]
  rfl

/-- Nothing but the empty text is written without octets. -/
theorem eq_empty_of_length_encode {text : String} (none : (encode text).length = 0) :
    text = "" := by
  rw [← decode_encode text, List.length_eq_zero_iff.mp none, decode_nil]

theorem Boundary.exists_append {text : String} {offset : Nat} (boundary : Boundary text offset) :
    ∃ front back, text = front ++ back ∧ (encode front).length = offset := by
  obtain ⟨front, back, parts, length_eq⟩ := exists_boundary boundary.1 boundary.2
  refine ⟨.ofList front, .ofList back, ?_, ?_⟩
  · rw [← String.ofList_append, ← parts, String.ofList_toList]
  · rw [encode_ofList, length_eq]

/-- What stands before a part of a text ends at a boundary. -/
theorem boundary_length_encode (front back : String) :
    Boundary (front ++ back) (encode front).length := by
  refine ⟨by rw [encode_append, List.length_append]; exact Nat.le_add_right .., ?_⟩
  rintro ⟨before, c, after, parts, above, below⟩
  rw [String.toList_append] at parts
  simp only [encode, List.flatMap_append, List.length_append] at above below
  rcases List.append_eq_append_iff.mp parts with ⟨middle, before_eq, -⟩ | ⟨middle, front_eq, rest⟩
  · rw [before_eq, List.flatMap_append, List.length_append] at above
    omega
  · cases middle with
    | nil => simp [front_eq] at above
    | cons first middle =>
        obtain ⟨rfl, -⟩ := List.cons.inj rest
        rw [front_eq, List.flatMap_append, List.flatMap_cons, List.flatMap_singleton,
          List.length_append, List.length_append] at below
        omega

/-- Two boundaries cut out a slice. -/
theorem exists_slice {text : String} {start stop : Nat} (ordered : start ≤ stop)
    (first : Boundary text start) (last : Boundary text stop) :
    ∃ part, Slice text start stop part := by
  obtain ⟨front, rest, text_eq, start_eq⟩ := first.exists_append
  obtain ⟨whole, back, same, stop_eq⟩ := last.exists_append
  have chars : front.toList ++ rest.toList = whole.toList ++ back.toList := by
    rw [← String.toList_append, ← String.toList_append, ← text_eq, ← same]
  rcases List.append_eq_append_iff.mp chars with ⟨middle, whole_eq, -⟩ | ⟨middle, front_eq, -⟩
  · refine ⟨.ofList middle, front, back, ?_, start_eq, ?_⟩
    · rw [same, ← String.toList_inj]
      simp [whole_eq]
    · have joined : front ++ String.ofList middle = whole := by
        rw [← String.toList_inj]
        simp [whole_eq]
      rw [joined, stop_eq]
  · -- The second boundary is not before the first, so nothing stands between them.
    have split : front = whole ++ .ofList middle := by
      rw [← String.toList_inj]
      simp [front_eq]
    have nothing : String.ofList middle = "" := by
      apply eq_empty_of_length_encode
      rw [split, encode_append, List.length_append] at start_eq
      omega
    rw [nothing, String.append_empty] at split
    subst split
    exact ⟨"", front, back, by rw [String.append_empty, same], start_eq,
      by rw [String.append_empty, stop_eq]⟩

namespace Slice

variable {text part : String} {start stop : Nat}

/-- The octets between two places are those of the slice. -/
theorem encode_eq (slice : Slice text start stop part) :
    ((encode text).drop start).take (stop - start) = encode part := by
  obtain ⟨front, back, rfl, rfl, rfl⟩ := slice
  simp only [encode_append, List.append_assoc, List.drop_left, List.length_append,
    Nat.add_sub_cancel_left, List.take_left]

theorem stop_le (slice : Slice text start stop part) : stop ≤ (encode text).length := by
  obtain ⟨front, back, rfl, rfl, rfl⟩ := slice
  rw [encode_append (front ++ part), List.length_append]
  exact Nat.le_add_right ..

theorem start_le_stop (slice : Slice text start stop part) : start ≤ stop := by
  obtain ⟨front, back, rfl, rfl, rfl⟩ := slice
  rw [encode_append, List.length_append]
  exact Nat.le_add_right ..

theorem decode_eq (slice : Slice text start stop part) :
    decode (((encode text).drop start).take (stop - start)) = part := by
  rw [slice.encode_eq, decode_encode]

/-- The slice from one end to the other is the text. -/
theorem eq_of_whole (slice : Slice text 0 (encode text).length part) : part = text := by
  rw [← slice.decode_eq, List.drop_zero, Nat.sub_zero, List.take_length, decode_encode]

end Slice

end Utf8
end SandboxHost
