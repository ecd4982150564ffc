import Mathlib.Data.List.Basic
import SandboxHost.Proofs.Text.RoundTrip

/-!
# Decoding fragments

The encoding of a text is cut into fragments and each is decoded on its own.  If every cut falls
between characters the fragments decode to the text.  Otherwise they decode to more characters than it
has: octets that begin a sequence never give less than a character each, and a fragment that begins
inside a character gives one more.
-/

namespace SandboxHost
namespace Utf8

/-! ## Counting the octets that begin sequences -/

/-- The number of octets that do not continue a sequence. -/
def leads (octets : List UInt8) : Nat :=
  octets.countP fun octet => ¬ Within tail octet

/-- The characters that are sure to follow from a state: one, if it is inside a character. -/
def State.pending : State → Nat
  | .start => 0
  | .within .. => 1

theorem leads_append (front back : List UInt8) :
    leads (front ++ back) = leads front + leads back :=
  List.countP_append

namespace State

theorem length_finish (state : State) : state.finish.length = state.pending := by
  cases state <;> rfl

theorem Inside.pending_eq {state : State} (inside : state.Inside) : state.pending = 1 := by
  cases state with
  | start => exact inside.elim
  | within => rfl

section

variable {state : State}

/-- An octet that is taken settles the characters that were sure to follow and one more if it begins
one, or leaves them sure to follow. -/
theorem leads_le_settle_of_taken {octet : UInt8} (place : state = .start ∨ state.Inside)
    (taken : state.step octet ≠ .refuse) :
    state.pending + leads [octet] ≤
      (state.settle octet).1.length + (state.settle octet).2.pending := by
  have one : state.pending + leads [octet] ≤ 1 := by
    rcases place with rfl | inside
    · rw [pending, Nat.zero_add]
      exact List.countP_le_length
    · have continues : Within tail octet := by
        by_contra apart
        exact taken (inside.step_eq_refuse apart)
      rw [inside.pending_eq, leads, List.countP_singleton]
      simp [continues]
  cases reply : state.step octet with
  | char c => rwa [settle_char reply]
  | more next => rwa [settle_more reply, (inside_of_step reply).pending_eq]
  | refuse => exact absurd reply taken

theorem leads_le_settle_start (octet : UInt8) :
    leads [octet] ≤ (start.settle octet).1.length + (start.settle octet).2.pending := by
  by_cases refused : start.step octet = .refuse
  · rw [settle_start_refuse refused]
    exact List.countP_le_length
  · have paid := leads_le_settle_of_taken (.inl rfl) refused
    rwa [pending, Nat.zero_add] at paid

theorem leads_le_settle (place : state = .start ∨ state.Inside) (octet : UInt8) :
    state.pending + leads [octet] ≤
      (state.settle octet).1.length + (state.settle octet).2.pending := by
  by_cases refused : state.step octet = .refuse
  · have afresh := leads_le_settle_start octet
    rcases place with rfl | inside
    · rwa [pending, Nat.zero_add]
    · rw [inside.settle_refuse refused, inside.pending_eq]
      dsimp only
      rw [List.length_cons]
      omega
  · exact leads_le_settle_of_taken place refused

end

end State

/-- No octet that begins a sequence goes without a character. -/
theorem leads_le_length_decodeChars {state : State} (place : state = .start ∨ state.Inside)
    (octets : List UInt8) :
    state.pending + leads octets ≤ (decodeChars state octets).length := by
  induction octets generalizing state with
  | nil => exact Nat.le_of_eq state.length_finish.symm
  | cons octet octets ih =>
      have first := State.leads_le_settle place octet
      have later := ih (state.settle_state octet)
      have parts : leads (octet :: octets) = leads [octet] + leads octets :=
        leads_append [octet] octets
      rw [decodeChars, List.length_append]
      omega

theorem leads_le_length_decode (octets : List UInt8) :
    leads octets ≤ (decode octets).length := by
  have bound := leads_le_length_decodeChars (.inl rfl) octets
  rwa [State.pending, Nat.zero_add, ← toList_decode, String.length_toList] at bound

/-- Octets that begin inside a character give one character more. -/
theorem leads_lt_length_decode {octet : UInt8} (continues : Within tail octet)
    (octets : List UInt8) : leads (octet :: octets) < (decode (octet :: octets)).length := by
  have later := leads_le_length_decodeChars (.inl rfl) octets
  have same : leads (octet :: octets) = leads octets := by
    rw [leads, List.countP_cons_of_neg]
    · rfl
    · simp [continues]
  rw [State.pending, Nat.zero_add] at later
  rw [same, ← String.length_toList, toList_decode,
    decodeChars_start_refuse (first_of_within_tail continues), List.length_cons]
  omega

/-! ## Octets of characters -/

theorem Matches.within_tail {row : List (UInt8 × UInt8)} {octets : List UInt8}
    (matched : Matches row octets) (part : ∀ range ∈ row, 0x80 ≤ range.1 ∧ range.2 ≤ 0xBF) :
    ∀ octet ∈ octets, Within tail octet := by
  induction row generalizing octets with
  | nil =>
      cases octets with
      | nil => simp
      | cons octet octets => exact matched.elim
  | cons range row ih =>
      cases octets with
      | nil => exact matched.elim
      | cons octet octets =>
          obtain ⟨⟨above, below⟩, later⟩ := matched
          obtain ⟨first, others⟩ := List.forall_mem_cons.mp part
          exact List.forall_mem_cons.mpr
            ⟨⟨UInt8.le_trans first.1 above, UInt8.le_trans below first.2⟩, ih later others⟩

/-- Behind the first range of a row stand parts of the range of octets that continue a sequence. -/
theorem part_of_tail {range : UInt8 × UInt8} {row : List (UInt8 × UInt8)}
    (member : range :: row ∈ table) : ∀ other ∈ row, 0x80 ≤ other.1 ∧ other.2 ≤ 0xBF := by
  cases row with
  | nil => simp
  | cons second row =>
      obtain ⟨shape, -, above, -, below⟩ := shape_of_row member
      intro other inside
      rcases List.mem_cons.mp inside with rfl | inside
      · exact ⟨above, below⟩
      · rw [shape] at inside
        obtain rfl := List.eq_of_mem_replicate inside
        decide

/-- In a sequence the first octet begins a character and all others continue it. -/
theorem Sequence.exists_lead {octets : List UInt8} (sequence : Sequence octets) :
    ∃ octet rest, octets = octet :: rest ∧ ¬ Within tail octet ∧
      ∀ other ∈ rest, Within tail other := by
  have apart := sequence.begins.apart
  obtain ⟨row, member, matched⟩ := sequence
  cases row with
  | nil => exact absurd member (by decide)
  | cons range row =>
      cases octets with
      | nil => exact matched.elim
      | cons octet rest =>
          exact ⟨octet, rest, rfl, apart octet rfl, matched.2.within_tail (part_of_tail member)⟩

/-- A text has as many octets that begin a sequence as characters. -/
theorem leads_flatMap (chars : List Char) :
    leads (chars.flatMap String.utf8EncodeChar) = chars.length := by
  induction chars with
  | nil => rfl
  | cons c chars ih =>
      obtain ⟨octet, rest, spelled, apart, continues⟩ := (sequence_encodeChar c).exists_lead
      have none : leads rest = 0 := by
        rw [leads, List.countP_eq_zero]
        intro other member
        simp [continues other member]
      have one : leads (octet :: rest) = leads rest + 1 := by
        rw [leads, List.countP_cons_of_pos]
        · rfl
        · simp [apart]
      rw [List.flatMap_cons, leads_append, ih, spelled, one, none, List.length_cons]
      omega

/-! ## Cuts between characters and inside them -/

/-- A position in the encoding of characters falls strictly inside the encoding of one. -/
def InsideCharacter (chars : List Char) (position : Nat) : Prop :=
  ∃ before c after, chars = before ++ c :: after ∧
    (before.flatMap String.utf8EncodeChar).length < position ∧
    position < ((before ++ [c]).flatMap String.utf8EncodeChar).length

/-- Some cut between two fragments falls strictly inside the encoding of a character. -/
def Splits (chars : List Char) (fragments : List (List UInt8)) : Prop :=
  ∃ front back, fragments = front ++ back ∧ InsideCharacter chars front.flatten.length

theorem InsideCharacter.append_left {chars : List Char} {position : Nat}
    (inside : InsideCharacter chars position) (front : List Char) :
    InsideCharacter (front ++ chars)
      ((front.flatMap String.utf8EncodeChar).length + position) := by
  obtain ⟨before, c, after, rfl, above, below⟩ := inside
  refine ⟨front ++ before, c, after, (List.append_assoc ..).symm, ?_, ?_⟩
  · rw [List.flatMap_append, List.length_append]
    omega
  · rw [List.append_assoc, List.flatMap_append, List.length_append]
    omega

/-- A position that falls inside no character falls between two, or at an end. -/
theorem exists_boundary {chars : List Char} {position : Nat}
    (bound : position ≤ (chars.flatMap String.utf8EncodeChar).length)
    (between : ¬ InsideCharacter chars position) :
    ∃ front back, chars = front ++ back ∧
      (front.flatMap String.utf8EncodeChar).length = position := by
  induction chars generalizing position with
  | nil => exact ⟨[], [], rfl, (Nat.le_zero.mp bound).symm⟩
  | cons c chars ih =>
      rw [List.flatMap_cons, List.length_append] at bound
      by_cases none : position = 0
      · exact ⟨[], c :: chars, rfl, none.symm⟩
      by_cases early : position < (String.utf8EncodeChar c).length
      · refine (between ⟨[], c, chars, rfl, Nat.pos_of_ne_zero none, ?_⟩).elim
        simpa using early
      · have single : ([c].flatMap String.utf8EncodeChar).length =
            (String.utf8EncodeChar c).length := by simp
        obtain ⟨rest, rfl⟩ := Nat.exists_eq_add_of_le (Nat.not_lt.mp early)
        obtain ⟨front, back, rfl, length_eq⟩ := ih (by omega) fun inside =>
          between (single ▸ inside.append_left [c])
        exact ⟨c :: front, back, rfl, by rw [List.flatMap_cons, List.length_append, length_eq]⟩

/-- What stands behind a cut inside a character begins with an octet that continues it. -/
theorem InsideCharacter.exists_continues {chars : List Char} {front back : List UInt8}
    (inside : InsideCharacter chars front.length)
    (whole : front ++ back = chars.flatMap String.utf8EncodeChar) :
    ∃ octet rest, back = octet :: rest ∧ Within tail octet := by
  obtain ⟨before, c, after, rfl, above, below⟩ := inside
  obtain ⟨first, others, spelled, -, continues⟩ := (sequence_encodeChar c).exists_lead
  rw [List.flatMap_append, List.flatMap_singleton, spelled, List.length_append] at below
  rw [List.flatMap_append, List.flatMap_cons, spelled] at whole
  rcases List.append_eq_append_iff.mp whole with ⟨middle, parts, -⟩ | ⟨middle, rfl, remains⟩
  · rw [parts, List.length_append] at above
    omega
  rw [List.length_append] at above below
  rcases List.append_eq_append_iff.mp remains with ⟨rest, rfl, -⟩ | ⟨rest, parts, rfl⟩
  · rw [List.length_append] at below
    omega
  -- The cut parts the octets of the character into `middle` and `rest`, and neither is empty.
  cases middle with
  | nil => exact absurd above (by simp)
  | cons second middle =>
      cases rest with
      | nil =>
          rw [parts, List.append_nil] at below
          omega
      | cons octet rest =>
          obtain ⟨-, rfl⟩ := List.cons.inj parts
          exact ⟨octet, _, rfl, continues octet (by simp)⟩

/-- Fragments that are cut between characters decode to the characters. -/
theorem join_decode_of_not_splits {chars : List Char} {fragments : List (List UInt8)}
    (whole : fragments.flatten = chars.flatMap String.utf8EncodeChar)
    (between : ¬ Splits chars fragments) :
    String.join (fragments.map decode) = String.ofList chars := by
  induction fragments generalizing chars with
  | nil =>
      obtain rfl : chars = [] := by
        rw [← List.length_eq_zero_iff, ← leads_flatMap, ← whole]
        rfl
      rfl
  | cons fragment fragments ih =>
      rw [List.flatten_cons] at whole
      have bound : fragment.length ≤ (chars.flatMap String.utf8EncodeChar).length := by
        rw [← whole, List.length_append]
        omega
      have first : ¬ InsideCharacter chars fragment.length := fun inside =>
        between ⟨[fragment], fragments, rfl, by simpa using inside⟩
      obtain ⟨front, back, rfl, length_eq⟩ := exists_boundary bound first
      rw [List.flatMap_append] at whole
      obtain ⟨rfl, rest_eq⟩ := List.append_inj whole length_eq.symm
      have later : ¬ Splits back fragments := by
        rintro ⟨early, late, rfl, inside⟩
        refine between ⟨_ :: early, late, rfl, ?_⟩
        rw [List.flatten_cons, List.length_append]
        exact inside.append_left front
      rw [List.map_cons, String.join_cons, ih rest_eq later, ← encode_ofList, decode_encode,
        String.ofList_append]

theorem leads_le_length_join (fragments : List (List UInt8)) :
    leads fragments.flatten ≤ (String.join (fragments.map decode)).length := by
  induction fragments with
  | nil => exact Nat.le_refl 0
  | cons fragment fragments ih =>
      have first := leads_le_length_decode fragment
      rw [List.flatten_cons, leads_append, List.map_cons, String.join_cons, String.length_append]
      omega

theorem leads_lt_length_join {octet : UInt8} {rest : List UInt8}
    {fragments : List (List UInt8)} (whole : fragments.flatten = octet :: rest)
    (continues : Within tail octet) :
    leads fragments.flatten < (String.join (fragments.map decode)).length := by
  induction fragments with
  | nil => cases whole
  | cons fragment fragments ih =>
      rw [List.map_cons, String.join_cons, String.length_append]
      cases fragment with
      | nil =>
          have later := ih whole
          rw [decode_nil]
          exact Nat.lt_add_left _ later
      | cons first others =>
          obtain rfl : first = octet := (List.cons.inj whole).1
          have begun := leads_lt_length_decode continues others
          have later := leads_le_length_join fragments
          rw [List.flatten_cons, leads_append]
          omega

theorem length_lt_of_splits {chars : List Char} {fragments : List (List UInt8)}
    (whole : fragments.flatten = chars.flatMap String.utf8EncodeChar)
    (splits : Splits chars fragments) :
    chars.length < (String.join (fragments.map decode)).length := by
  obtain ⟨front, back, rfl, inside⟩ := splits
  rw [List.flatten_append] at whole
  obtain ⟨octet, rest, begun, continues⟩ := inside.exists_continues whole
  have early := leads_le_length_join front
  have late := leads_lt_length_join begun continues
  rw [← leads_flatMap, ← whole, leads_append, List.map_append, String.join_append,
    String.length_append]
  omega

theorem join_decode_eq_iff {text : String} {fragments : List (List UInt8)}
    (whole : fragments.flatten = encode text) :
    String.join (fragments.map decode) = text ↔ ¬ Splits text.toList fragments := by
  constructor
  · intro same splits
    have longer := length_lt_of_splits whole splits
    rw [same, String.length_toList] at longer
    exact Nat.lt_irrefl _ longer
  · intro between
    rw [join_decode_of_not_splits whole between, String.ofList_toList]

end Utf8
end SandboxHost
