import SandboxHost.Command
import SandboxHost.Proofs.Text.Blank

/-!
# What a line asks for

A line asks for a text if it is blanks, a colon, and the text between more blanks.  A line asks for
a text exactly if its first character that is no blank is a colon, and then for one text only.  That
text alone decides what the line means: it is a spelling of one of the commands, or it is unknown.
All other lines are source.
-/

namespace SandboxHost
namespace Command

/-! ## Spellings -/

/-- What can be typed for a command, its full name first. -/
def spellings : Command → List String
  | .run => ["run", "r"]
  | .clear => ["clear", "c"]
  | .list => ["show", "s"]
  | .sample => ["sample"]
  | .help => ["help", "h", "?"]
  | .quit => ["quit", "q", "exit"]

theorem lookup_names_eq_some_iff {name : String} {command : Command} :
    names.lookup name = some command ↔ name ∈ command.spellings := by
  constructor
  · intro found
    obtain ⟨earlier, later, names_eq, -⟩ := List.lookup_eq_some_iff.mp found
    have member : (name, command) ∈ names := by simp [names_eq]
    revert member
    cases command <;> simp [names, spellings]
  · intro spelled
    cases command <;> revert name <;> decide

/-- A spelling is nothing that cutting off blanks and one colon would change. -/
theorem bare_of_mem_spellings {command : Command} :
    ∀ name ∈ command.spellings, Bare name.toList ∧ name ≠ "" ∧ name.toList.head? ≠ some ':' := by
  cases command <;> decide

theorem named_eq_command_iff {text : String} {command : Command} :
    named text = .command command ↔ text ∈ command.spellings := by
  rw [← lookup_names_eq_some_iff, named]
  cases names.lookup text <;> simp

theorem named_eq_unknown_iff {text name : String} :
    named text = .unknown name ↔ text = name ∧ ∀ command : Command, name ∉ command.spellings := by
  simp only [← lookup_names_eq_some_iff, named]
  cases found : names.lookup text with
  | none =>
      constructor
      · rintro ⟨⟩
        exact ⟨rfl, by simp [found]⟩
      · rintro ⟨rfl, -⟩
        rfl
  | some command =>
      constructor
      · nofun
      · rintro ⟨rfl, unspelled⟩
        exact absurd found (unspelled command)

theorem named_ne_source {text line : String} : named text ≠ .source line := by
  rw [named]
  split <;> nofun

/-! ## Asking -/

/-- A line has a colon behind blanks, and behind the colon a text between blanks. -/
def Asks (line text : String) : Prop :=
  Bare text.toList ∧ ∃ before between after : String,
    Blanks before.toList ∧ Blanks between.toList ∧ Blanks after.toList ∧
      line = before ++ ":" ++ between ++ text ++ after

/-- The first character of a line that is no blank. -/
def lead? (line : String) : Option Char :=
  line.toList.find? (!isBlank ·)

section Asking

variable {line text other : String} {before between after : String}

/-- After the first cut a line begins with its colon, and the second cut leaves of the rest what
cutting leaves of the text. -/
theorem exists_trimChars_framed (text : String) (blank : Blanks before.toList)
    (inner : Blanks between.toList) (ends : Blanks after.toList) :
    ∃ rest, trimChars (before ++ ":" ++ between ++ text ++ after).toList = ':' :: rest ∧
      trimChars rest = trimChars text.toList := by
  have framed : (before ++ ":" ++ between ++ text ++ after).toList =
      before.toList ++ ':' :: (between.toList ++ text.toList ++ after.toList) := by simp
  refine ⟨_, (congrArg trimChars framed).trans (trimChars_append_cons blank rfl _), ?_⟩
  -- The blanks at the end are gone already; the second cut would have taken them too.
  rw [trimChars_rdropWhile, trimChars_between inner ends]

/-- What a line asks for is what is left after both cuts, with the colon taken away between them. -/
theorem asks_iff :
    Asks line text ↔
      ∃ rest, trimChars line.toList = ':' :: rest ∧ trimChars rest = text.toList := by
  constructor
  · rintro ⟨bare, before, between, after, blank, inner, ends, rfl⟩
    obtain ⟨rest, kept, asked⟩ := exists_trimChars_framed text blank inner ends
    exact ⟨rest, kept, asked.trans (trimChars_of_bare bare)⟩
  · rintro ⟨rest, kept, asked⟩
    obtain ⟨before, after, blank, ends, line_eq⟩ := exists_eq_append_trimChars line.toList
    obtain ⟨bare, between, last, inner, closing, rest_eq⟩ := trimChars_eq_iff.mp asked
    refine ⟨bare, .ofList before, .ofList between, .ofList (last ++ after), ?_⟩
    simp only [String.toList_ofList]
    refine ⟨blank, inner, closing.append ends, ?_⟩
    rw [← String.toList_inj, line_eq, kept, rest_eq]
    simp

theorem asks_of_trimChars_eq {rest : List Char} (kept : trimChars line.toList = ':' :: rest) :
    Asks line (String.ofList (trimChars rest)) :=
  asks_iff.mpr ⟨rest, kept, String.toList_ofList.symm⟩

theorem Asks.unique (asks : Asks line text) (again : Asks line other) : text = other := by
  obtain ⟨rest, kept, asked⟩ := asks_iff.mp asks
  obtain ⟨same, kept_again, asked_again⟩ := asks_iff.mp again
  obtain ⟨-, rfl⟩ := List.cons.inj (kept.symm.trans kept_again)
  exact String.toList_inj.mp (asked.symm.trans asked_again)

theorem lead?_eq_colon_iff : lead? line = some ':' ↔ ∃ text, Asks line text := by
  rw [lead?, List.find?_eq_some_iff_append]
  constructor
  · rintro ⟨-, before, later, line_eq, front⟩
    have blank : Blanks before := fun c member => by simpa using front c member
    have kept : trimChars line.toList = ':' :: later.rdropWhile isBlank := by
      rw [line_eq, trimChars_append_cons blank rfl]
    exact ⟨_, asks_of_trimChars_eq kept⟩
  · rintro ⟨text, -, before, between, after, blank, -, -, rfl⟩
    refine ⟨rfl, before.toList, between.toList ++ text.toList ++ after.toList, by simp, ?_⟩
    intro c member
    simp [blank c member]

/-! ## Meaning -/

theorem Asks.parse_eq (asks : Asks line text) : parse line = named text := by
  obtain ⟨rest, kept, asked⟩ := asks_iff.mp asks
  rw [parse, kept]
  simp only [asked, String.ofList_toList]

theorem parse_of_lead?_ne (plain : lead? line ≠ some ':') : parse line = .source line := by
  rw [parse]
  split
  · rename_i rest kept
    exact absurd (lead?_eq_colon_iff.mpr ⟨_, asks_of_trimChars_eq kept⟩) plain
  · rfl

/-- A line asks for a text, which tells what it means, or asks for none and is source. -/
theorem asks_or_parse_eq (line : String) :
    (∃ text, Asks line text ∧ parse line = named text) ∨
      (∀ text, ¬ Asks line text) ∧ parse line = .source line := by
  by_cases colon : lead? line = some ':'
  · obtain ⟨text, asks⟩ := lead?_eq_colon_iff.mp colon
    exact .inl ⟨text, asks, asks.parse_eq⟩
  · exact .inr ⟨not_exists.mp (mt lead?_eq_colon_iff.mpr colon), parse_of_lead?_ne colon⟩

theorem parse_framed (text : String) (blank : Blanks before.toList)
    (inner : Blanks between.toList) (ends : Blanks after.toList) :
    parse (before ++ ":" ++ between ++ text ++ after) =
      named (String.ofList (trimChars text.toList)) := by
  obtain ⟨rest, kept, asked⟩ := exists_trimChars_framed text blank inner ends
  rw [← asked]
  exact (asks_of_trimChars_eq kept).parse_eq

theorem parse_eq_source_iff :
    parse line = .source text ↔ text = line ∧ lead? line ≠ some ':' := by
  rw [Ne, lead?_eq_colon_iff, not_exists]
  rcases asks_or_parse_eq line with ⟨asked, asks, meaning⟩ | ⟨silent, meaning⟩
  · rw [meaning]
    constructor
    · exact fun source => absurd source named_ne_source
    · exact fun source => absurd asks (source.2 asked)
  · rw [meaning, Typed.source.injEq, eq_comm]
    exact (and_iff_left silent).symm

theorem parse_eq_command_iff {command : Command} :
    parse line = .command command ↔ ∃ name ∈ command.spellings, Asks line name := by
  rcases asks_or_parse_eq line with ⟨asked, asks, meaning⟩ | ⟨silent, meaning⟩
  · rw [meaning, named_eq_command_iff]
    constructor
    · exact fun spelled => ⟨asked, spelled, asks⟩
    · rintro ⟨name, spelled, again⟩
      exact asks.unique again ▸ spelled
  · rw [meaning]
    constructor
    · nofun
    · rintro ⟨name, -, asks⟩
      exact absurd asks (silent name)

theorem parse_eq_unknown_iff :
    parse line = .unknown text ↔
      Asks line text ∧ ∀ command : Command, text ∉ command.spellings := by
  rcases asks_or_parse_eq line with ⟨asked, asks, meaning⟩ | ⟨silent, meaning⟩
  · rw [meaning, named_eq_unknown_iff]
    constructor
    · rintro ⟨rfl, unspelled⟩
      exact ⟨asks, unspelled⟩
    · exact fun ⟨again, unspelled⟩ => ⟨asks.unique again, unspelled⟩
  · rw [meaning]
    constructor
    · nofun
    · exact fun ⟨asks, _⟩ => absurd asks (silent text)

end Asking

/-- **A colon tells commands from source.**  The blanks are all characters that are white space.  A
line is source, and stays as it is, unless its first character that is no blank is a colon.  Then it
asks for exactly one text, and blanks before the colon and around that text make no difference.  If
the text is a spelling of a command, the line means that command, and else it means the text as
unknown; an empty text and one that begins with another colon are always unknown. -/
theorem colon_tells_commands :
    (∀ c, isBlank c ↔ c.toNat ∈ whiteSpace) ∧
    (∀ line text, parse line = .source text ↔ text = line ∧ lead? line ≠ some ':') ∧
    (∀ line, lead? line = some ':' ↔ ∃! text, Asks line text) ∧
    (∀ before between text after : String,
      Blanks before.toList → Blanks between.toList → Blanks after.toList →
        parse (before ++ ":" ++ between ++ text ++ after) = parse (":" ++ text)) ∧
    (∀ line command, parse line = .command command ↔
      ∃ name ∈ command.spellings, Asks line name) ∧
    (∀ line text, parse line = .unknown text ↔
      Asks line text ∧ ∀ command : Command, text ∉ command.spellings) ∧
    ∀ text : String, Bare text.toList → text = "" ∨ text.toList.head? = some ':' →
      parse (":" ++ text) = .unknown text := by
  have none : Blanks "".toList := nofun
  refine ⟨fun _ => isBlank_iff, fun _ _ => parse_eq_source_iff, ?_, ?_,
    fun _ _ => parse_eq_command_iff, fun _ _ => parse_eq_unknown_iff, ?_⟩
  · intro line
    rw [lead?_eq_colon_iff]
    constructor
    · rintro ⟨text, asks⟩
      exact ⟨text, asks, fun other again => again.unique asks⟩
    · exact ExistsUnique.exists
  · intro before between text after blank inner ends
    have plain := parse_framed text none none none
    simp only [String.empty_append, String.append_empty] at plain
    rw [parse_framed text blank inner ends, plain]
  · intro text bare odd
    refine parse_eq_unknown_iff.mpr ⟨⟨bare, "", "", "", none, none, none, by simp⟩, ?_⟩
    intro command spelled
    obtain ⟨-, nonempty, plain⟩ := bare_of_mem_spellings text spelled
    exact odd.elim nonempty plain

/-- Blanks of four kinds do not hide a command, and another colon does. -/
theorem colon_tells_commands_spacedLine :
    (Blanks "\u3000\t".toList ∧ Blanks "\u00A0".toList ∧ Blanks "\u2028".toList) ∧
    parse ("\u3000\t" ++ ":" ++ "\u00A0" ++ "exit" ++ "\u2028") = .command .quit ∧
    Bare ": exit".toList ∧ parse (":" ++ ": exit") = .unknown ": exit" := by
  obtain ⟨-, -, -, framed, command, -, unknown⟩ := colon_tells_commands
  have blank : Blanks "\u3000\t".toList ∧ Blanks "\u00A0".toList ∧ Blanks "\u2028".toList := by
    decide
  have bare : Bare ": exit".toList := by decide
  have none : Blanks "".toList := nofun
  have asks : Asks (":" ++ "exit") "exit" := ⟨by decide, "", "", "", none, none, none, rfl⟩
  have leaves : parse (":" ++ "exit") = .command .quit :=
    (command _ _).mpr ⟨"exit", by simp [spellings], asks⟩
  exact ⟨blank, (framed _ _ _ _ blank.1 blank.2.1 blank.2.2).trans leaves, bare,
    unknown _ bare (.inr rfl)⟩

end Command
end SandboxHost
