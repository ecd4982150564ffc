import SandboxHost.Proofs.Text.WellFormed

/-!
# How the automaton reads the table

The automaton of the decoders completes a character exactly on the sequences of the table, and stands
inside a character exactly on what begins one of them.
-/

namespace SandboxHost
namespace Utf8

/-! ## The first octet -/

/-- What a row asks of the automaton after a first octet, given the ranges that follow in the row. -/
def reply (octet : UInt8) : List (UInt8 × UInt8) → Reply
  | [] => .char (Char.ofNat octet.toNat)
  | (low, high) :: row =>
      .more (.within row.length low high (octet.toNat % (0x20 >>> row.length)) 1)

theorem first_of_row {range : UInt8 × UInt8} {row : List (UInt8 × UInt8)} {octet : UInt8}
    (member : range :: row ∈ table) (inside : Within range octet) :
    first octet = reply octet row := by
  obtain ⟨low, high⟩ := inside
  simp only [table, List.mem_cons, List.not_mem_nil, or_false, List.cons.injEq] at member
  rcases member with ⟨rfl, rfl⟩ | ⟨rfl, rfl⟩ | ⟨rfl, rfl⟩ | ⟨rfl, rfl⟩ | ⟨rfl, rfl⟩ | ⟨rfl, rfl⟩ |
    ⟨rfl, rfl⟩ | ⟨rfl, rfl⟩ | ⟨rfl, rfl⟩
  · grind [first, reply]
  · grind [first, reply, tail, UInt8.le_iff_toNat_le]
  · obtain rfl := UInt8.le_antisymm high low
    rfl
  · grind [first, reply, tail, UInt8.le_iff_toNat_le]
  · obtain rfl := UInt8.le_antisymm high low
    rfl
  · grind [first, reply, tail, UInt8.le_iff_toNat_le]
  · obtain rfl := UInt8.le_antisymm high low
    rfl
  · grind [first, reply, tail, UInt8.le_iff_toNat_le]
  · obtain rfl := UInt8.le_antisymm high low
    rfl

/-- What is in the first range of no row is refused. -/
theorem exists_row_of_first {octet : UInt8} (taken : first octet ≠ .refuse) :
    ∃ range row, range :: row ∈ table ∧ Within range octet := by
  by_cases one : octet < 0x80
  · exact ⟨(0x00, 0x7F), [], by decide, by grind [Within]⟩
  by_cases early : octet < 0xC2
  · simp [first, one, early] at taken
  by_cases two : octet < 0xE0
  · exact ⟨(0xC2, 0xDF), [tail], by decide, by grind [Within]⟩
  by_cases lowest : octet = 0xE0
  · exact ⟨(0xE0, 0xE0), [(0xA0, 0xBF), tail], by decide, by grind [Within]⟩
  by_cases three : octet < 0xED
  · exact ⟨(0xE1, 0xEC), [tail, tail], by decide, by grind [Within]⟩
  by_cases surrogate : octet = 0xED
  · exact ⟨(0xED, 0xED), [(0x80, 0x9F), tail], by decide, by grind [Within]⟩
  by_cases upper : octet < 0xF0
  · exact ⟨(0xEE, 0xEF), [tail, tail], by decide, by grind [Within]⟩
  by_cases astral : octet = 0xF0
  · exact ⟨(0xF0, 0xF0), [(0x90, 0xBF), tail, tail], by decide, by grind [Within]⟩
  by_cases four : octet < 0xF4
  · exact ⟨(0xF1, 0xF3), [tail, tail, tail], by decide, by grind [Within]⟩
  by_cases highest : octet = 0xF4
  · exact ⟨(0xF4, 0xF4), [(0x80, 0x8F), tail, tail], by decide, by grind [Within]⟩
  · simp [first, one, early, two, lowest, surrogate, upper, astral, four, highest] at taken

/-- In every row only the second range is of its own; it is a part of the range of the others. -/
theorem shape_of_row {range : UInt8 × UInt8} {low high : UInt8} {row : List (UInt8 × UInt8)}
    (member : range :: (low, high) :: row ∈ table) :
    row = List.replicate row.length tail ∧ row.length ≤ 2 ∧
      0x80 ≤ low ∧ low ≤ high ∧ high ≤ 0xBF := by
  simp only [table, tail, List.mem_cons, List.not_mem_nil, or_false, List.cons.injEq,
    reduceCtorEq, and_false, false_or, Prod.mk.injEq] at member
  rcases member with ⟨-, ⟨rfl, rfl⟩, rfl⟩ | ⟨-, ⟨rfl, rfl⟩, rfl⟩ | ⟨-, ⟨rfl, rfl⟩, rfl⟩ |
    ⟨-, ⟨rfl, rfl⟩, rfl⟩ | ⟨-, ⟨rfl, rfl⟩, rfl⟩ | ⟨-, ⟨rfl, rfl⟩, rfl⟩ | ⟨-, ⟨rfl, rfl⟩, rfl⟩ |
    ⟨-, ⟨rfl, rfl⟩, rfl⟩
  all_goals decide

/-- The first octet settles the row. -/
theorem row_unique {range other : UInt8 × UInt8} {row rest : List (UInt8 × UInt8)} {octet : UInt8}
    (member : range :: row ∈ table) (inside : Within range octet)
    (again : other :: rest ∈ table) (within : Within other octet) : row = rest := by
  have same : reply octet row = reply octet rest :=
    (first_of_row member inside).symm.trans (first_of_row again within)
  cases row with
  | nil =>
      cases rest with
      | nil => rfl
      | cons second rest => simp [reply] at same
  | cons second row =>
      cases rest with
      | nil => simp [reply] at same
      | cons third rest =>
          simp only [reply, Reply.more.injEq, State.within.injEq] at same
          obtain ⟨length_eq, low_eq, high_eq, -⟩ := same
          have shape := (shape_of_row member).1
          rw [length_eq, ← (shape_of_row again).1] at shape
          rw [shape, Prod.ext low_eq high_eq]

theorem sequence_cons_iff {range : UInt8 × UInt8} {row : List (UInt8 × UInt8)} {octet : UInt8}
    (member : range :: row ∈ table) (inside : Within range octet) {rest : List UInt8} :
    Sequence (octet :: rest) ↔ Matches row rest := by
  constructor
  · rintro ⟨matched, again, found⟩
    cases matched with
    | nil => exact found.elim
    | cons other others =>
        rw [row_unique member inside again found.1]
        exact found.2
  · exact fun matched => ⟨range :: row, member, inside, matched⟩

/-- Nothing that is refused begins a sequence. -/
theorem not_sequence_of_refuse {octet : UInt8} (refused : first octet = .refuse)
    (rest : List UInt8) : ¬ Sequence (octet :: rest) := by
  rintro ⟨row, member, matched⟩
  cases row with
  | nil => exact matched
  | cons range row =>
      rw [first_of_row member matched.1] at refused
      cases row <;> simp [reply] at refused

theorem first_of_within_tail {octet : UInt8} (continues : Within tail octet) :
    first octet = .refuse := by
  grind [first, Within, tail]

/-! ## Whole characters -/

namespace State

/-- The character that some octets complete from a state, if they complete one and no more. -/
def complete? : State → List UInt8 → Option Char
  | _, [] => none
  | state, octet :: octets =>
      match state.step octet with
      | .char c => if octets = [] then some c else none
      | .more next => next.complete? octets
      | .refuse => none

/-- The state after some octets, if they complete no character and none of them is refused. -/
def advance? : State → List UInt8 → Option State
  | state, [] => some state
  | state, octet :: octets =>
      match state.step octet with
      | .char _ => none
      | .more next => next.advance? octets
      | .refuse => none

theorem advance?_append (state : State) (part octets : List UInt8) :
    state.advance? (part ++ octets) = (state.advance? part).bind (·.advance? octets) := by
  induction part generalizing state with
  | nil => rfl
  | cons first part ih =>
      rw [List.cons_append, advance?, advance?]
      cases state.step first with
      | char c => rfl
      | more next => exact ih next
      | refuse => rfl

theorem complete?_append (state : State) (part : List UInt8) (octet : UInt8)
    (octets : List UInt8) :
    state.complete? (part ++ octet :: octets) =
      (state.advance? part).bind (·.complete? (octet :: octets)) := by
  induction part generalizing state with
  | nil => rfl
  | cons first part ih =>
      rw [List.cons_append, complete?, advance?]
      cases state.step first with
      | char c => simp
      | more next => exact ih next
      | refuse => rfl

theorem complete?_concat {state last : State} {part : List UInt8} {octet : UInt8} {c : Char}
    (advanced : state.advance? part = some last) (reply : last.step octet = .char c) :
    state.complete? (part ++ [octet]) = some c := by
  rw [complete?_append, advanced]
  simp [complete?, reply]

theorem advance?_concat {state last next : State} {part : List UInt8} {octet : UInt8}
    (advanced : state.advance? part = some last) (reply : last.step octet = .more next) :
    state.advance? (part ++ [octet]) = some next := by
  rw [advance?_append, advanced]
  simp [advance?, reply]

/-- An octet adds its bits to what was read. -/
def addBits (value : Nat) (octet : UInt8) : Nat :=
  value * 64 + octet.toNat % 64

/-- From inside a character, what completes it is what its row still asks for. -/
theorem complete?_within {owed value taken : Nat} {low high : UInt8} {octets : List UInt8}
    {c : Char} :
    (State.within owed low high value taken).complete? octets = some c ↔
      Matches ((low, high) :: List.replicate owed tail) octets ∧
        c = Char.ofNat (octets.foldl addBits value) := by
  induction owed generalizing low high value taken octets with
  | zero =>
      cases octets with
      | nil => simp [complete?, Matches]
      | cons octet octets =>
          by_cases inside : low ≤ octet ∧ octet ≤ high
          · cases octets with
            | nil => simp [complete?, step, Matches, Within, inside, addBits, eq_comm]
            | cons second octets => simp [complete?, step, Matches, inside]
          · simp [complete?, step, Matches, Within, inside]
  | succ owed ih =>
      cases octets with
      | nil => simp [complete?, Matches]
      | cons octet octets =>
          by_cases inside : low ≤ octet ∧ octet ≤ high
          · have more : (State.within (owed + 1) low high value taken).complete? (octet :: octets) =
                (State.within owed 0x80 0xBF (addBits value octet) (taken + 1)).complete?
                  octets := by
              simp [complete?, step, inside, addBits]
            rw [more, ih, List.replicate_succ, List.foldl_cons]
            simp only [Matches, Within, inside, and_self, true_and, tail]
          · simp [complete?, step, Matches, Within, inside]

end State

theorem Matches.length_eq {row : List (UInt8 × UInt8)} {octets : List UInt8}
    (matched : Matches row octets) : octets.length = row.length := by
  induction row generalizing octets with
  | nil =>
      cases octets with
      | nil => rfl
      | cons octet octets => exact matched.elim
  | cons range row ih =>
      cases octets with
      | nil => exact matched.elim
      | cons octet octets => exact congrArg (· + 1) (ih matched.2)

/-- The number of a sequence, octet by octet. -/
theorem scalar_cons {octet : UInt8} {rest : List UInt8} {owed : Nat} (few : owed ≤ 2)
    (length_eq : rest.length = owed + 1) :
    scalar (octet :: rest) = rest.foldl State.addBits (octet.toNat % (0x20 >>> owed)) := by
  rcases rest with _ | ⟨two, _ | ⟨three, _ | ⟨four, _ | ⟨five, rest⟩⟩⟩⟩
  · simp at length_eq
  · obtain rfl : owed = 0 := by simpa using length_eq.symm
    rfl
  · obtain rfl : owed = 1 := by simpa using length_eq.symm
    rfl
  · obtain rfl : owed = 2 := by simpa using length_eq.symm
    rfl
  · simp at length_eq
    omega

/-- From its start the automaton completes exactly the sequences of the table, each with the
character whose number it spells. -/
theorem complete?_start_iff {octets : List UInt8} {c : Char} :
    State.start.complete? octets = some c ↔ Sequence octets ∧ c.toNat = scalar octets := by
  -- Both sides speak of the same character, since the number of a sequence is that of one.
  have same : ∀ {octets}, Sequence octets →
      (c = Char.ofNat (scalar octets) ↔ c.toNat = scalar octets) := by
    intro octets sequence
    obtain ⟨d, value⟩ := sequence.exists_char
    rw [← value, Char.ofNat_toNat]
    exact ⟨congrArg Char.toNat, Char.toNat_inj.mp⟩
  cases octets with
  | nil => simp [State.complete?, sequence_iff]
  | cons octet rest =>
      by_cases refused : first octet = .refuse
      · have none := not_sequence_of_refuse refused rest
        simp [State.complete?, State.step, refused, none]
      obtain ⟨range, row, member, inside⟩ := exists_row_of_first refused
      rw [and_congr_right fun sequence => (same sequence).symm]
      rw [sequence_cons_iff member inside]
      simp only [State.complete?, State.step, first_of_row member inside]
      cases row with
      | nil => cases rest <;> simp [reply, Matches, scalar, eq_comm]
      | cons second row =>
          obtain ⟨shape, few, -⟩ := shape_of_row member
          simp only [reply, State.complete?_within, ← shape]
          apply and_congr_right
          intro matched
          rw [scalar_cons few matched.length_eq]

/-- An octet that completes a character completes a sequence. -/
theorem sequence_of_step {part : List UInt8} {last : State} {octet : UInt8} {c : Char}
    (advanced : State.start.advance? part = some last) (reply : last.step octet = .char c) :
    Sequence (part ++ [octet]) :=
  (complete?_start_iff.mp (State.complete?_concat advanced reply)).1

/-! ## Parts of characters -/

/-- A state inside a character, where only octets that continue a sequence are taken. -/
def State.Inside : State → Prop
  | .start => False
  | .within _ low high _ _ => 0x80 ≤ low ∧ low ≤ high ∧ high ≤ 0xBF

theorem State.inside_of_step {state next : State} {octet : UInt8}
    (goesOn : state.step octet = .more next) : next.Inside := by
  cases state with
  | start =>
      have taken : first octet ≠ .refuse := by
        rw [show first octet = .more next from goesOn]
        simp
      obtain ⟨range, row, member, inside⟩ := exists_row_of_first taken
      rw [step, first_of_row member inside] at goesOn
      cases row with
      | nil => simp [reply] at goesOn
      | cons second row =>
          obtain rfl := Reply.more.inj goesOn
          exact (shape_of_row member).2.2
  | within owed low high value taken =>
      simp only [step] at goesOn
      split at goesOn
      · cases owed with
        | zero => simp at goesOn
        | succ owed =>
            obtain rfl := Reply.more.inj goesOn
            exact ⟨by decide, by decide, by decide⟩
      · simp at goesOn

/-- An octet that does not continue a sequence is refused inside a character. -/
theorem State.Inside.step_eq_refuse {state : State} {octet : UInt8} (inside : state.Inside)
    (apart : ¬ Within tail octet) : state.step octet = .refuse := by
  cases state with
  | start => exact inside.elim
  | within owed low high value taken =>
      have outside : ¬ (low ≤ octet ∧ octet ≤ high) := fun ⟨above, below⟩ =>
        apart ⟨UInt8.le_trans inside.1 above, UInt8.le_trans below inside.2.2⟩
      simp [step, outside]

theorem State.inside_of_advance? {state last : State} {part : List UInt8} (nonempty : part ≠ [])
    (advanced : state.advance? part = some last) : last.Inside := by
  induction part generalizing state with
  | nil => exact absurd rfl nonempty
  | cons octet part ih =>
      rw [advance?] at advanced
      cases goesOn : state.step octet with
      | char c => simp [goesOn] at advanced
      | refuse => simp [goesOn] at advanced
      | more next =>
          rw [goesOn] at advanced
          cases part with
          | nil =>
              obtain rfl := Option.some.inj advanced
              exact inside_of_step goesOn
          | cons second part => exact ih (by simp) advanced

theorem matches_replicate (range : UInt8 × UInt8) (count : Nat) (nonempty : range.1 ≤ range.2) :
    Matches (List.replicate count range) (List.replicate count range.1) := by
  induction count with
  | zero => trivial
  | succ count ih => exact ⟨⟨UInt8.le_refl _, nonempty⟩, ih⟩

/-- What begins inside a character can be completed. -/
theorem State.Inside.exists_completion {state : State} (inside : state.Inside) :
    ∃ octet octets c, state.complete? (octet :: octets) = some c := by
  cases state with
  | start => exact inside.elim
  | within owed low high value taken =>
      refine ⟨low, List.replicate owed 0x80, _, complete?_within.mpr ⟨?_, rfl⟩⟩
      exact ⟨⟨UInt8.le_refl low, inside.2.1⟩, matches_replicate tail owed (by decide)⟩

/-- Some octets are the beginning of a sequence, or all of one. -/
def Begins (part : List UInt8) : Prop :=
  part ≠ [] ∧ ∃ more, Sequence (part ++ more)

/-- The automaton completes a character on a sequence and is inside one on any other beginning. -/
theorem begins_iff {part : List UInt8} :
    Begins part ↔
      Sequence part ∨ ∃ last : State, last.Inside ∧ State.start.advance? part = some last := by
  constructor
  · rintro ⟨nonempty, more, sequence⟩
    cases more with
    | nil =>
        rw [List.append_nil] at sequence
        exact .inl sequence
    | cons octet more =>
        obtain ⟨c, value⟩ := sequence.exists_char
        have completed := complete?_start_iff.mpr ⟨sequence, value⟩
        rw [State.complete?_append] at completed
        obtain ⟨last, advanced, -⟩ := Option.bind_eq_some_iff.mp completed
        exact .inr ⟨last, State.inside_of_advance? nonempty advanced, advanced⟩
  · rintro (sequence | ⟨last, inside, advanced⟩)
    · refine ⟨?_, [], by rwa [List.append_nil]⟩
      rintro rfl
      simp [sequence_iff] at sequence
    · obtain ⟨octet, octets, c, completed⟩ := inside.exists_completion
      have whole : State.start.complete? (part ++ octet :: octets) = some c := by
        rw [State.complete?_append, advanced]
        exact completed
      refine ⟨?_, octet :: octets, (complete?_start_iff.mp whole).1⟩
      rintro rfl
      obtain rfl := Option.some.inj advanced
      exact inside.elim

end Utf8
end SandboxHost
