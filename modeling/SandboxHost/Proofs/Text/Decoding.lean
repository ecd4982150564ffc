import Mathlib.Data.Nat.Find
import SandboxHost.Proofs.Text.Automaton

/-!
# Decoding with replacement

The reference policy reads the remaining octets by the table alone: a sequence gives its character,
and a maximal subpart of one gives U+FFFD.  Every list of octets falls into such pieces in exactly one
way, and the decoder writes down their characters.
-/

namespace SandboxHost
namespace Utf8

/-! ## The policy -/

/-- The octets that one replacement stands for: the longest beginning of the octets that begins a
sequence, or a single octet if there is none. -/
inductive MaximalSubpart : List UInt8 → List UInt8 → Prop
  | longest {octets part : List UInt8} (front : part <+: octets) (begins : Begins part)
      (most : ∀ other, other <+: octets → Begins other → other.length ≤ part.length) :
      MaximalSubpart octets part
  | single {octet : UInt8} {rest : List UInt8}
      (alone : ∀ other, other <+: octet :: rest → ¬ Begins other) :
      MaximalSubpart (octet :: rest) [octet]

/-- Some octets and the character they are read as. -/
structure Piece where
  octets : List UInt8
  char : Char

/-- The first piece that the policy cuts off octets. -/
inductive Foremost : List UInt8 → Piece → Prop
  | char {octets front : List UInt8} {c : Char} (start : front <+: octets)
      (sequence : Sequence front) (value : c.toNat = scalar front) : Foremost octets ⟨front, c⟩
  | fault {octets part : List UInt8} (broken : ∀ front, front <+: octets → ¬ Sequence front)
      (maximal : MaximalSubpart octets part) : Foremost octets ⟨part, replacement⟩

/-- The pieces into which the policy cuts octets, one after the other. -/
inductive Decoding : List UInt8 → List Piece → Prop
  | nil : Decoding [] []
  | cons {piece : Piece} {rest : List UInt8} {pieces : List Piece}
      (foremost : Foremost (piece.octets ++ rest) piece) (later : Decoding rest pieces) :
      Decoding (piece.octets ++ rest) (piece :: pieces)

theorem Sequence.begins {octets : List UInt8} (sequence : Sequence octets) : Begins octets :=
  begins_iff.mpr (.inl sequence)

theorem MaximalSubpart.nonempty {octets part : List UInt8} (maximal : MaximalSubpart octets part) :
    part ≠ [] := by
  cases maximal with
  | longest _ begins _ => exact begins.1
  | single _ => simp

theorem MaximalSubpart.start {octets part : List UInt8} (maximal : MaximalSubpart octets part) :
    part <+: octets := by
  cases maximal with
  | longest front _ _ => exact front
  | @single octet rest _ => exact ⟨rest, rfl⟩

theorem MaximalSubpart.unique {octets part other : List UInt8}
    (maximal : MaximalSubpart octets part) (again : MaximalSubpart octets other) :
    part = other := by
  cases maximal with
  | longest front begins most =>
      cases again with
      | longest second starts greatest =>
          have length_eq := Nat.le_antisymm (greatest _ front begins) (most _ second starts)
          have within := List.prefix_of_prefix_length_le front second (Nat.le_of_eq length_eq)
          exact within.eq_of_length length_eq
      | single alone => exact absurd begins (alone _ front)
  | single alone =>
      cases again with
      | longest second starts _ => exact absurd starts (alone _ second)
      | single => rfl

/-- Octets that are not empty have a maximal subpart. -/
theorem exists_maximalSubpart {octets : List UInt8} (nonempty : octets ≠ []) :
    ∃ part, MaximalSubpart octets part := by
  classical
  by_cases alone : ∀ other, other <+: octets → ¬ Begins other
  · obtain ⟨octet, rest, rfl⟩ := List.exists_cons_of_ne_nil nonempty
    exact ⟨[octet], .single alone⟩
  · push Not at alone
    obtain ⟨other, front, begins⟩ := alone
    let most := Nat.findGreatest (fun count => Begins (octets.take count)) octets.length
    have taken : ∀ {other : List UInt8}, other <+: octets → Begins other →
        Begins (octets.take other.length) := by
      intro other front begins
      rwa [← List.prefix_iff_eq_take.mp front]
    refine ⟨octets.take most, .longest (List.take_prefix ..) ?_ ?_⟩
    · exact Nat.findGreatest_spec (P := fun count => Begins (octets.take count)) front.length_le
        (taken front begins)
    · intro other front begins
      have bound : other.length ≤ most :=
        Nat.le_findGreatest front.length_le (taken front begins)
      have whole := front.length_le
      rw [List.length_take]
      omega

section

variable {octets : List UInt8} {piece : Piece}

theorem Foremost.nonempty (foremost : Foremost octets piece) : piece.octets ≠ [] := by
  cases foremost with
  | char _ sequence _ => exact sequence.begins.1
  | fault _ maximal => exact maximal.nonempty

theorem Foremost.start (foremost : Foremost octets piece) : piece.octets <+: octets := by
  cases foremost with
  | char start _ _ => exact start
  | fault _ maximal => exact maximal.start

theorem exists_foremost (nonempty : octets ≠ []) : ∃ piece, Foremost octets piece := by
  by_cases broken : ∀ front, front <+: octets → ¬ Sequence front
  · obtain ⟨part, maximal⟩ := exists_maximalSubpart nonempty
    exact ⟨_, .fault broken maximal⟩
  · push Not at broken
    obtain ⟨front, start, sequence⟩ := broken
    obtain ⟨c, value⟩ := sequence.exists_char
    exact ⟨_, .char start sequence value⟩

end

/-- The policy cuts up all octets. -/
theorem exists_decoding (octets : List UInt8) : ∃ pieces, Decoding octets pieces := by
  induction length_eq : octets.length using Nat.strong_induction_on generalizing octets with
  | h size ih =>
      cases octets with
      | nil => exact ⟨[], .nil⟩
      | cons octet octets =>
          obtain ⟨piece, foremost⟩ := exists_foremost (List.cons_ne_nil octet octets)
          obtain ⟨rest, whole⟩ := foremost.start
          have shorter : rest.length < size := by
            have positive := List.length_pos_iff.mpr foremost.nonempty
            rw [← length_eq, ← whole, List.length_append]
            omega
          obtain ⟨pieces, later⟩ := ih _ shorter rest rfl
          rw [← whole] at foremost ⊢
          exact ⟨piece :: pieces, .cons foremost later⟩

/-! ## The steps of the decoder -/

namespace State

section

variable {state next : State} {octet : UInt8} {c : Char}

theorem settle_char (taken : state.step octet = .char c) : state.settle octet = ([c], .start) := by
  simp only [settle, taken]

theorem settle_more (taken : state.step octet = .more next) : state.settle octet = ([], next) := by
  simp only [settle, taken]

theorem settle_start_refuse (refused : first octet = .refuse) :
    State.start.settle octet = ([replacement], .start) := by
  simp only [settle, step, refused]

/-- An octet refused inside a character settles a replacement and is read again. -/
theorem Inside.settle_refuse (inside : state.Inside) (refused : state.step octet = .refuse) :
    state.settle octet =
      (replacement :: (State.start.settle octet).1, (State.start.settle octet).2) := by
  cases state with
  | start => exact inside.elim
  | within owed low high value taken =>
      simp only [settle, refused]
      simp only [step]
      cases first octet <;> rfl

/-- Between octets the decoder is between characters or inside one. -/
theorem settle_state (state : State) (octet : UInt8) :
    (state.settle octet).2 = .start ∨ (state.settle octet).2.Inside := by
  cases taken : state.step octet with
  | char c => exact .inl (by rw [settle_char taken])
  | more next => exact .inr (by rw [settle_more taken]; exact inside_of_step taken)
  | refuse =>
      cases state with
      | start => exact .inl (by rw [settle_start_refuse taken])
      | within owed low high value read =>
          simp only [settle, taken]
          cases again : first octet with
          | char c => exact .inl rfl
          | more next => exact .inr (@inside_of_step .start _ _ again)
          | refuse => exact .inl rfl

end

/-- What completes a character is not inside one. -/
theorem advance?_of_complete? {state : State} {octets : List UInt8} {c : Char}
    (completed : state.complete? octets = some c) : state.advance? octets = none := by
  induction octets generalizing state with
  | nil => simp [complete?] at completed
  | cons octet octets ih =>
      rw [complete?] at completed
      rw [advance?]
      cases taken : state.step octet with
      | char d => rfl
      | more next =>
          rw [taken] at completed
          exact ih completed
      | refuse => rfl

end State

/-- No sequence is the beginning of another one. -/
theorem Sequence.eq_of_prefix {front other : List UInt8} (sequence : Sequence front)
    (longer : Sequence other) (start : front <+: other) : front = other := by
  obtain ⟨rest, rfl⟩ := start
  cases rest with
  | nil => rw [List.append_nil]
  | cons octet rest =>
      obtain ⟨c, value⟩ := sequence.exists_char
      obtain ⟨d, number⟩ := longer.exists_char
      have completed := complete?_start_iff.mpr ⟨longer, number⟩
      rw [State.complete?_append,
        State.advance?_of_complete? (complete?_start_iff.mpr ⟨sequence, value⟩)] at completed
      cases completed

/-- The decoder writes down a character as soon as it is complete. -/
theorem decodeChars_of_complete? {state : State} {front : List UInt8} {c : Char}
    (completed : state.complete? front = some c) (rest : List UInt8) :
    decodeChars state (front ++ rest) = c :: decodeChars .start rest := by
  induction front generalizing state with
  | nil => simp [State.complete?] at completed
  | cons octet front ih =>
      rw [State.complete?] at completed
      rw [List.cons_append, decodeChars]
      cases taken : state.step octet with
      | char d =>
          rw [taken] at completed
          obtain ⟨rfl, rfl⟩ : front = [] ∧ d = c := by simpa using completed
          rw [State.settle_char taken]
          rfl
      | more next =>
          rw [taken] at completed
          rw [State.settle_more taken]
          exact ih completed
      | refuse =>
          rw [taken] at completed
          cases completed

/-- The decoder writes nothing before a character is complete. -/
theorem decodeChars_of_advance? {state last : State} {part : List UInt8}
    (advanced : state.advance? part = some last) (rest : List UInt8) :
    decodeChars state (part ++ rest) = decodeChars last rest := by
  induction part generalizing state with
  | nil =>
      obtain rfl := Option.some.inj advanced
      rfl
  | cons octet part ih =>
      rw [State.advance?] at advanced
      rw [List.cons_append, decodeChars]
      cases taken : state.step octet with
      | char c =>
          rw [taken] at advanced
          cases advanced
      | more next =>
          rw [taken] at advanced
          rw [State.settle_more taken]
          exact ih advanced
      | refuse =>
          rw [taken] at advanced
          cases advanced

theorem decodeChars_start_refuse {octet : UInt8} (refused : first octet = .refuse)
    (rest : List UInt8) :
    decodeChars .start (octet :: rest) = replacement :: decodeChars .start rest := by
  rw [decodeChars, State.settle_start_refuse refused]
  rfl

theorem State.Inside.decodeChars_refuse {state : State} {octet : UInt8} (inside : state.Inside)
    (refused : state.step octet = .refuse) (rest : List UInt8) :
    decodeChars state (octet :: rest) = replacement :: decodeChars .start (octet :: rest) := by
  rw [decodeChars, inside.settle_refuse refused]
  rfl

theorem State.Inside.decodeChars_nil {state : State} (inside : state.Inside) :
    decodeChars state [] = [replacement] := by
  cases state with
  | start => exact inside.elim
  | within => rfl

/-! ## The decoder follows the policy -/

/-- A sequence gives its character. -/
theorem Sequence.decodeChars_append {front : List UInt8} {c : Char} (sequence : Sequence front)
    (value : c.toNat = scalar front) (rest : List UInt8) :
    decodeChars .start (front ++ rest) = c :: decodeChars .start rest :=
  decodeChars_of_complete? (complete?_start_iff.mpr ⟨sequence, value⟩) rest

/-- An octet that is taken after the beginning of a sequence makes it longer. -/
theorem begins_of_step {part : List UInt8} {last : State} {octet : UInt8}
    (advanced : State.start.advance? part = some last) (taken : last.step octet ≠ .refuse) :
    Begins (part ++ [octet]) := by
  cases reply : last.step octet with
  | char c => exact (sequence_of_step advanced reply).begins
  | more next =>
      exact begins_iff.mpr
        (.inr ⟨next, State.inside_of_step reply, State.advance?_concat advanced reply⟩)
  | refuse => exact absurd reply taken

/-- A maximal subpart gives one replacement, and what follows is read afresh. -/
theorem MaximalSubpart.decodeChars_append {part rest : List UInt8}
    (maximal : MaximalSubpart (part ++ rest) part)
    (broken : ∀ front, front <+: part ++ rest → ¬ Sequence front) :
    decodeChars .start (part ++ rest) = replacement :: decodeChars .start rest := by
  generalize whole : part ++ rest = octets at maximal broken
  cases maximal with
  | longest front begins most =>
      subst whole
      obtain ⟨last, inside, advanced⟩ := (begins_iff.mp begins).resolve_left (broken part front)
      rw [decodeChars_of_advance? advanced]
      cases rest with
      | nil => exact inside.decodeChars_nil
      | cons octet rest =>
          -- Were the next octet taken, the part would not be the longest.
          have refused : last.step octet = .refuse := by
            by_contra taken
            have longer : part ++ [octet] <+: part ++ octet :: rest :=
              ⟨rest, List.append_assoc ..⟩
            have bound := most _ longer (begins_of_step advanced taken)
            rw [List.length_append] at bound
            exact absurd bound (Nat.not_succ_le_self _)
          exact inside.decodeChars_refuse refused rest
  | @single octet other alone =>
      obtain rfl : rest = other := (List.cons.inj whole).2
      have refused : first octet = .refuse := by
        by_contra taken
        have begins : Begins ([] ++ [octet]) := begins_of_step rfl taken
        exact alone [octet] ⟨rest, rfl⟩ begins
      exact decodeChars_start_refuse refused rest

/-- The decoder writes down the character of the first piece and goes on after it. -/
theorem Foremost.decodeChars_append {piece : Piece} {rest : List UInt8}
    (foremost : Foremost (piece.octets ++ rest) piece) :
    decodeChars .start (piece.octets ++ rest) = piece.char :: decodeChars .start rest := by
  cases foremost with
  | char _ sequence value => exact sequence.decodeChars_append value rest
  | fault broken maximal => exact maximal.decodeChars_append broken

theorem Foremost.unique {octets : List UInt8} {piece other : Piece}
    (foremost : Foremost octets piece) (again : Foremost octets other) : piece = other := by
  cases foremost with
  | @char front c start sequence value =>
      cases again with
      | @char second d begins longer number =>
          have same : front = second := by
            rcases Nat.le_total front.length second.length with shorter | shorter
            · exact sequence.eq_of_prefix longer
                (List.prefix_of_prefix_length_le start begins shorter)
            · exact (longer.eq_of_prefix sequence
                (List.prefix_of_prefix_length_le begins start shorter)).symm
          subst same
          rw [Char.toNat_inj.mp (value.trans number.symm)]
      | fault broken _ => exact absurd sequence (broken _ start)
  | fault broken maximal =>
      cases again with
      | char begins longer _ => exact absurd longer (broken _ begins)
      | fault _ second => rw [maximal.unique second]

section

variable {octets : List UInt8} {pieces : List Piece}

/-- The policy cuts up octets in one way only. -/
theorem Decoding.unique {others : List Piece} (decoding : Decoding octets pieces)
    (again : Decoding octets others) : pieces = others := by
  induction decoding generalizing others with
  | nil =>
      generalize whole : [] = octets at again
      cases again with
      | nil => rfl
      | cons foremost _ => exact absurd (List.append_eq_nil_iff.mp whole.symm).1 foremost.nonempty
  | @cons piece rest pieces foremost later ih =>
      generalize whole : piece.octets ++ rest = octets at again
      cases again with
      | nil => exact absurd (List.append_eq_nil_iff.mp whole).1 foremost.nonempty
      | @cons other remains others second further =>
          obtain rfl : piece = other := by
            rw [whole] at foremost
            exact foremost.unique second
          obtain rfl := List.append_cancel_left whole
          rw [ih further]

/-- The decoder writes down the characters of the pieces. -/
theorem Decoding.decodeChars_eq (decoding : Decoding octets pieces) :
    decodeChars .start octets = pieces.map Piece.char := by
  induction decoding with
  | nil => rfl
  | cons foremost _ ih => rw [foremost.decodeChars_append, ih, List.map_cons]

/-- The pieces are what the octets fall into. -/
theorem Decoding.flatMap_octets (decoding : Decoding octets pieces) :
    pieces.flatMap Piece.octets = octets := by
  induction decoding with
  | nil => rfl
  | cons _ _ ih => rw [List.flatMap_cons, ih]

theorem Decoding.nonempty {piece : Piece} (decoding : Decoding octets pieces)
    (member : piece ∈ pieces) : piece.octets ≠ [] := by
  induction decoding with
  | nil => cases member
  | cons foremost _ ih =>
      rcases List.mem_cons.mp member with rfl | member
      · exact foremost.nonempty
      · exact ih member

end

/-! ## Cutting octets -/

/-- Octets that do not begin with one that continues a sequence. -/
def Apart (octets : List UInt8) : Prop :=
  ∀ octet ∈ octets.head?, ¬ Within tail octet

/-- Where a character can begin, the decoder starts afresh, whatever stands before. -/
theorem decodeChars_append {state : State} (place : state = .start ∨ state.Inside)
    (front : List UInt8) {back : List UInt8} (apart : Apart back) :
    decodeChars state (front ++ back) = decodeChars state front ++ decodeChars .start back := by
  induction front generalizing state with
  | nil =>
      rcases place with rfl | inside
      · rfl
      rw [List.nil_append, inside.decodeChars_nil]
      cases back with
      | nil => exact inside.decodeChars_nil
      | cons octet back => exact inside.decodeChars_refuse (inside.step_eq_refuse (apart _ rfl)) back
  | cons octet front ih =>
      rw [List.cons_append, decodeChars, decodeChars, ih (state.settle_state octet),
        List.append_assoc]

/-- What stands before octets that begin a character does not change how they are read. -/
theorem decode_append (front : List UInt8) {back : List UInt8} (apart : Apart back) :
    decode (front ++ back) = decode front ++ decode back := by
  apply String.toList_inj.mp
  rw [String.toList_append, toList_decode, toList_decode, toList_decode,
    decodeChars_append (.inl rfl) front apart]

/-- No sequence begins with an octet that continues one. -/
theorem Begins.apart {part : List UInt8} (begins : Begins part) : Apart part := by
  obtain ⟨nonempty, more, sequence⟩ := begins
  cases part with
  | nil => exact absurd rfl nonempty
  | cons octet part =>
      rintro _ ⟨⟩ inside
      exact not_sequence_of_refuse (first_of_within_tail inside) (part ++ more) sequence

/-- A sequence that the end of the octets cuts off gives one replacement. -/
theorem decodeChars_cut {part : List UInt8} (begins : Begins part) (unfinished : ¬ Sequence part) :
    decodeChars .start part = [replacement] := by
  obtain ⟨last, inside, advanced⟩ := (begins_iff.mp begins).resolve_left unfinished
  have read := decodeChars_of_advance? advanced []
  rw [List.append_nil] at read
  rw [read, inside.decodeChars_nil]

/-- **Decoding with replacement.**  The policy cuts any octets into pieces in exactly one way: each
piece is a well-formed sequence with the character it spells, or, where none starts, a maximal subpart
with U+FFFD.  The decoder gives the characters of the pieces, every octet lies in a piece, and no
piece is empty.  An octet 0 is a character like any other, and a sequence that the octets end inside
is one replacement. -/
theorem decode_follows_policy (octets : List UInt8) :
    (∃ pieces, Decoding octets pieces ∧ (∀ others, Decoding octets others → others = pieces) ∧
      decode octets = String.ofList (pieces.map Piece.char) ∧
      pieces.flatMap Piece.octets = octets ∧ ∀ piece ∈ pieces, piece.octets ≠ []) ∧
    (∀ front back, octets = front ++ 0 :: back →
      decode octets = decode front ++ "\x00" ++ decode back) ∧
    ∀ front part, octets = front ++ part → Begins part → ¬ Sequence part →
      decode octets = decode front ++ "\uFFFD" := by
  refine ⟨?_, ?_, ?_⟩
  · obtain ⟨pieces, decoding⟩ := exists_decoding octets
    refine ⟨pieces, decoding, fun _ other => other.unique decoding, ?_, decoding.flatMap_octets,
      fun _ => decoding.nonempty⟩
    apply String.toList_inj.mp
    rw [toList_decode, String.toList_ofList, decoding.decodeChars_eq]
  · rintro front back rfl
    have apart : Apart (0 :: back) := by
      rintro _ ⟨⟩
      decide
    rw [decode_append front apart, String.append_assoc]
    congr 1
    apply String.toList_inj.mp
    rw [String.toList_append, toList_decode, toList_decode]
    rfl
  · rintro front part rfl begins unfinished
    rw [decode_append front begins.apart]
    congr 1
    apply String.toList_inj.mp
    rw [toList_decode, decodeChars_cut begins unfinished]
    rfl

/-- A letter, an octet 0 and the first three octets of a character of four. -/
theorem decode_follows_policy_cut :
    decode ([0x41, 0x00] ++ [0xF0, 0x9F, 0x98]) = decode [0x41, 0x00] ++ "\uFFFD" ∧
      decode ([0x41, 0x00] ++ [0xF0, 0x9F, 0x98]) =
        decode [0x41] ++ "\x00" ++ decode [0xF0, 0x9F, 0x98] :=
  ⟨(decode_follows_policy _).2.2 _ _ rfl ⟨by decide, [0x80], by decide⟩ (by decide),
    (decode_follows_policy _).2.1 _ _ rfl⟩

end Utf8
end SandboxHost
