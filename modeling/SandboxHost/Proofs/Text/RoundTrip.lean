import Mathlib.Data.Set.Operations
import SandboxHost.Dialogue
import SandboxHost.Proofs.Text.Decoding

/-!
# Encoding and decoding are inverse

The encodings of texts are exactly the well-formed octets.  On those the decoder that replaces faults
undoes the encoder and the strict decoder agrees with it; on all others a replacement shows, and the
strict decoder refuses.
-/

namespace SandboxHost
namespace Utf8

/-! ## Well-formed octets are encodings -/

theorem wellFormed_flatMap (chars : List Char) :
    WellFormed (chars.flatMap String.utf8EncodeChar) := by
  induction chars with
  | nil => exact .nil
  | cons c chars ih => exact .append (sequence_encodeChar c) ih

theorem wellFormed_encode (text : String) : WellFormed (encode text) :=
  wellFormed_flatMap text.toList

theorem encode_ofList (chars : List Char) :
    encode (String.ofList chars) = chars.flatMap String.utf8EncodeChar := by
  rw [encode, String.toList_ofList]

theorem WellFormed.exists_encode {octets : List UInt8} (wellFormed : WellFormed octets) :
    ∃ text, encode text = octets := by
  suffices spelled : ∃ chars : List Char, chars.flatMap String.utf8EncodeChar = octets by
    obtain ⟨chars, spelled⟩ := spelled
    exact ⟨String.ofList chars, (encode_ofList chars).trans spelled⟩
  induction wellFormed with
  | nil => exact ⟨[], rfl⟩
  | append sequence later ih =>
      obtain ⟨chars, spelled⟩ := ih
      obtain ⟨c, value⟩ := sequence.exists_char
      refine ⟨c :: chars, ?_⟩
      rw [List.flatMap_cons, sequence.encodeChar_eq value, spelled]

/-! ## Decoding with replacement -/

/-- After characters the decoder starts afresh. -/
theorem decodeChars_flatMap (chars : List Char) (rest : List UInt8) :
    decodeChars .start (chars.flatMap String.utf8EncodeChar ++ rest) =
      chars ++ decodeChars .start rest := by
  induction chars with
  | nil => rfl
  | cons c chars ih =>
      rw [List.flatMap_cons, List.append_assoc,
        (sequence_encodeChar c).decodeChars_append (scalar_encodeChar c).symm, ih]
      rfl

theorem decode_encode_append (text : String) (rest : List UInt8) :
    decode (encode text ++ rest) = text ++ decode rest := by
  apply String.toList_inj.mp
  rw [String.toList_append, toList_decode, toList_decode, encode, decodeChars_flatMap]

theorem decode_nil : decode [] = "" :=
  rfl

theorem decode_encode (text : String) : decode (encode text) = text := by
  have whole := decode_encode_append text []
  rwa [List.append_nil, decode_nil, String.append_empty] at whole

theorem encode_decode_iff {octets : List UInt8} :
    encode (decode octets) = octets ↔ WellFormed octets := by
  constructor
  · intro same
    rw [← same]
    exact wellFormed_encode _
  · intro wellFormed
    obtain ⟨text, rfl⟩ := wellFormed.exists_encode
    rw [decode_encode]

/-- Without a replacement the policy finds sequences only. -/
theorem Decoding.wellFormed {octets : List UInt8} {pieces : List Piece}
    (decoding : Decoding octets pieces) (clean : replacement ∉ pieces.map Piece.char) :
    WellFormed octets := by
  induction decoding with
  | nil => exact .nil
  | @cons piece rest pieces foremost later ih =>
      rw [List.map_cons, List.mem_cons, not_or] at clean
      cases foremost with
      | char _ sequence _ => exact .append sequence (ih clean.2)
      | fault _ _ => exact absurd rfl clean.1

theorem replacement_mem_decode {octets : List UInt8} (malformed : ¬ WellFormed octets) :
    replacement ∈ (decode octets).toList := by
  obtain ⟨pieces, decoding⟩ := exists_decoding octets
  rw [toList_decode, decoding.decodeChars_eq]
  by_contra clean
  exact malformed (decoding.wellFormed clean)

/-! ## Strict decoding -/

section

variable {state next : State} {octet : UInt8} {c : Char}

theorem decodeStrictOnto_char (taken : state.step octet = .char c) (text : String) (index : Nat)
    (octets : List UInt8) :
    decodeStrictOnto text state index (octet :: octets) =
      decodeStrictOnto (text.push c) .start (index + 1) octets := by
  cases state <;> simp only [decodeStrictOnto, taken]

theorem decodeStrictOnto_more (taken : state.step octet = .more next) (text : String)
    (index : Nat) (octets : List UInt8) :
    decodeStrictOnto text state index (octet :: octets) =
      decodeStrictOnto text next (index + 1) octets := by
  cases state <;> simp only [decodeStrictOnto, taken]

theorem decodeStrictOnto_refuse (refused : state.step octet = .refuse) (text : String)
    (index : Nat) (octets : List UInt8) :
    ∃ fault, decodeStrictOnto text state index (octet :: octets) = .error fault := by
  cases state <;> simp only [decodeStrictOnto, refused]
  · exact ⟨_, rfl⟩
  · exact ⟨_, rfl⟩

end

/-- The strict decoder writes down a character as soon as it is complete. -/
theorem decodeStrictOnto_of_complete? {state : State} {front : List UInt8} {c : Char}
    (completed : state.complete? front = some c) (text : String) (index : Nat)
    (rest : List UInt8) :
    decodeStrictOnto text state index (front ++ rest) =
      decodeStrictOnto (text.push c) .start (index + front.length) rest := by
  induction front generalizing state index with
  | nil => simp [State.complete?] at completed
  | cons octet front ih =>
      rw [State.complete?] at completed
      rw [List.cons_append]
      cases taken : state.step octet with
      | char d =>
          rw [taken] at completed
          obtain ⟨rfl, rfl⟩ : front = [] ∧ d = c := by simpa using completed
          exact decodeStrictOnto_char taken text index rest
      | more next =>
          rw [taken] at completed
          rw [decodeStrictOnto_more taken, ih completed, List.length_cons, Nat.add_right_comm,
            Nat.add_assoc]
      | refuse =>
          rw [taken] at completed
          cases completed

theorem decodeStrictOnto_flatMap (chars : List Char) (text : String) (index : Nat) :
    decodeStrictOnto text .start index (chars.flatMap String.utf8EncodeChar) =
      .ok (chars.foldl String.push text) := by
  induction chars generalizing text index with
  | nil => rfl
  | cons c chars ih =>
      have completed := complete?_start_iff.mpr
        ⟨sequence_encodeChar c, (scalar_encodeChar c).symm⟩
      rw [List.flatMap_cons, decodeStrictOnto_of_complete? completed, ih, List.foldl_cons]

/-- The strict decoder takes encodings back to their texts. -/
theorem decodeStrict_encode (text : String) : decodeStrict (encode text) = .ok text := by
  rw [decodeStrict, encode, decodeStrictOnto_flatMap]
  congr 1
  apply String.toList_inj.mp
  rw [toList_foldl_push]
  rfl

/-- What the strict decoder takes is well-formed, together with the beginning of a sequence that
brought it to its state. -/
theorem wellFormed_of_decodeStrictOnto {part octets : List UInt8} {state : State}
    {text result : String} {index : Nat} (advanced : State.start.advance? part = some state)
    (taken : decodeStrictOnto text state index octets = .ok result) :
    WellFormed (part ++ octets) := by
  induction octets generalizing part state text index with
  | nil =>
      cases part with
      | nil => exact .nil
      | cons octet part =>
          have inside := State.inside_of_advance? (List.cons_ne_nil octet part) advanced
          cases state with
          | start => exact inside.elim
          | within => cases taken
  | cons octet octets ih =>
      cases reply : state.step octet with
      | char c =>
          rw [decodeStrictOnto_char reply] at taken
          have later : WellFormed ([] ++ octets) := ih rfl taken
          rw [List.append_cons]
          exact .append (sequence_of_step advanced reply) later
      | more next =>
          rw [decodeStrictOnto_more reply] at taken
          rw [List.append_cons]
          exact ih (State.advance?_concat advanced reply) taken
      | refuse =>
          obtain ⟨fault, refused⟩ := decodeStrictOnto_refuse reply text index octets
          cases refused.symm.trans taken

theorem decodeStrict_eq_ok_iff {octets : List UInt8} {text : String} :
    decodeStrict octets = .ok text ↔ WellFormed octets ∧ decode octets = text := by
  constructor
  · intro taken
    have wellFormed : WellFormed ([] ++ octets) := wellFormed_of_decodeStrictOnto rfl taken
    rw [List.nil_append] at wellFormed
    obtain ⟨whole, rfl⟩ := wellFormed.exists_encode
    rw [decodeStrict_encode] at taken
    exact ⟨wellFormed, (decode_encode whole).trans (Except.ok.inj taken)⟩
  · rintro ⟨wellFormed, rfl⟩
    obtain ⟨text, rfl⟩ := wellFormed.exists_encode
    rw [decodeStrict_encode, decode_encode]

/-- A dialogue takes the lines that the strict decoder takes, and reads their text. -/
theorem hear_eq_typed_iff {octets : List UInt8} {typed : Typed} :
    Dialogue.hear octets = .typed typed ↔
      WellFormed octets ∧
        typed = Command.parse (String.ofList (dropReturn (decode octets).toList)) := by
  rw [Dialogue.hear]
  cases strict : decodeStrict octets with
  | error fault =>
      have malformed : ¬ WellFormed octets := by
        intro wellFormed
        rw [decodeStrict_eq_ok_iff.mpr ⟨wellFormed, rfl⟩] at strict
        cases strict
      simp [malformed]
  | ok line =>
      obtain ⟨wellFormed, rfl⟩ := decodeStrict_eq_ok_iff.mp strict
      simp [wellFormed, eq_comm]

/-- **Encoding and decoding are inverse.**  Decoding gives back what was encoded.  The well-formed
octets are those that decoding and encoding gives back, those that the strict decoder takes, to the
same text, and those that a dialogue takes as a line, with that text; where octets are not
well-formed, a replacement stands in their text.  So the encoder keeps texts apart, and its values are
the lines that a dialogue takes. -/
theorem encode_decode_inverse :
    (∀ text, decode (encode text) = text) ∧
    (∀ octets, encode (decode octets) = octets ↔ WellFormed octets) ∧
    (∀ octets, WellFormed octets ↔ ∃ text, decodeStrict octets = .ok text) ∧
    (∀ octets text, decodeStrict octets = .ok text → decode octets = text) ∧
    (∀ octets, ¬ WellFormed octets → replacement ∈ (decode octets).toList) ∧
    (∀ octets typed, Dialogue.hear octets = .typed typed ↔
      WellFormed octets ∧
        typed = Command.parse (String.ofList (dropReturn (decode octets).toList))) ∧
    Function.Injective encode ∧
    Set.range encode = {octets | ∃ typed, Dialogue.hear octets = .typed typed} := by
  refine ⟨decode_encode, fun _ => encode_decode_iff, ?_, ?_, fun _ => replacement_mem_decode,
    fun _ _ => hear_eq_typed_iff, Function.LeftInverse.injective decode_encode, ?_⟩
  · intro octets
    simp only [decodeStrict_eq_ok_iff, exists_and_left, exists_eq', and_true]
  · exact fun octets text taken => (decodeStrict_eq_ok_iff.mp taken).2
  · apply Set.ext
    intro octets
    constructor
    · rintro ⟨text, rfl⟩
      exact ⟨_, hear_eq_typed_iff.mpr ⟨wellFormed_encode text, rfl⟩⟩
    · rintro ⟨typed, heard⟩
      exact (hear_eq_typed_iff.mp heard).1.exists_encode

/-- The two octets of an accented letter are taken; the three that would be a surrogate are not, and
show as replacements. -/
theorem encode_decode_inverse_surrogate :
    (decodeStrict [0xC3, 0xA9] = .ok "é" ∧ decode [0xC3, 0xA9] = "é") ∧
      ¬ WellFormed [0xED, 0xA0, 0x80] ∧ replacement ∈ (decode [0xED, 0xA0, 0x80]).toList := by
  obtain ⟨-, -, strict, same, faulty, -⟩ := encode_decode_inverse
  have taken : decodeStrict [0xC3, 0xA9] = .ok "é" := by rfl
  have malformed : ¬ WellFormed [0xED, 0xA0, 0x80] := by
    rw [strict]
    rintro ⟨text, impossible⟩
    have refused : decodeStrict [0xED, 0xA0, 0x80] = .error (.sequence 1 0) := by rfl
    cases refused.symm.trans impossible
  exact ⟨⟨taken, same _ _ taken⟩, malformed, faulty _ malformed⟩

end Utf8
end SandboxHost
