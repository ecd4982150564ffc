import Mathlib.Data.List.Infix
import SandboxHost.Text.Quoted

/-!
# Reading JSON strings

A reader of JSON strings takes what is written as a JSON string back to the text, wherever it
stands.  It knows all escapes of JSON but for pairs of surrogates, and refuses control characters
that are not escaped.
-/

namespace SandboxHost
namespace Text

/-- The value of a hexadecimal digit. -/
def hexValue? (digit : Char) : Option Nat :=
  if '0' ≤ digit ∧ digit ≤ '9' then some (digit.toNat - '0'.toNat)
  else if 'a' ≤ digit ∧ digit ≤ 'f' then some (digit.toNat - 'a'.toNat + 10)
  else if 'A' ≤ digit ∧ digit ≤ 'F' then some (digit.toNat - 'A'.toNat + 10)
  else none

/-- The character whose code point is written in hexadecimal digits, unless it is a surrogate. -/
def charOfHex? (digits : List Char) : Option Char := do
  let code ← digits.foldlM (fun code digit => (hexValue? digit).map (16 * code + ·)) 0
  if code.isValidChar then some (Char.ofNat code) else none

/-- The letters of escapes with the characters they stand for. -/
def escapes : List (Char × Char) :=
  [('"', '"'), ('\\', '\\'), ('/', '/'), ('b', '\x08'), ('f', '\x0C'), ('n', '\n'), ('r', '\r'),
    ('t', '\t')]

/-- Read a JSON string from behind its opening quotation mark: its characters, and what follows the
closing quotation mark. -/
def readString? : List Char → Option (List Char × List Char)
  | [] => none
  | '"' :: rest => some ([], rest)
  | '\\' :: 'u' :: first :: second :: third :: fourth :: rest => do
      let c ← charOfHex? [first, second, third, fourth]
      (readString? rest).map (Prod.map (c :: ·) id)
  | '\\' :: letter :: rest => do
      let c ← escapes.lookup letter
      (readString? rest).map (Prod.map (c :: ·) id)
  | c :: rest => if c < ' ' then none else (readString? rest).map (Prod.map (c :: ·) id)

/-- Control characters are read from their four digits. -/
theorem charOfHex?_leftpad {code : Nat} (control : code < 32) :
    (hexDigits code).leftpad 4 '0' =
      ['0', '0', Nat.digitChar (code / 16), Nat.digitChar (code % 16)] ∧
    charOfHex? ['0', '0', Nat.digitChar (code / 16), Nat.digitChar (code % 16)] =
      some (Char.ofNat code) := by
  revert code
  decide

theorem readString?_escape {letter c : Char} (known : escapes.lookup letter = some c)
    (rest : List Char) :
    readString? ('\\' :: letter :: rest) = (readString? rest).map (Prod.map (c :: ·) id) := by
  rw [readString?, known]
  · rfl
  · rintro _ _ _ _ _ rfl
    cases known

/-- Each character is read from how it is written. -/
theorem readString?_jsonChar (c : Char) (rest : List Char) :
    readString? (jsonChar c ++ rest) = (readString? rest).map (Prod.map (c :: ·) id) := by
  fun_cases jsonChar c with
  | case8 c _ _ _ _ _ _ _ control =>
      have code : c.toNat < 32 := by simpa [Char.lt_def, UInt32.lt_iff_toNat_lt] using control
      obtain ⟨digits, read⟩ := charOfHex?_leftpad code
      rw [Char.ofNat_toNat] at read
      rw [digits]
      simp only [List.cons_append, List.nil_append, readString?, read]
      rfl
  | case9 c quotation backslash _ _ _ _ _ printed =>
      rw [List.singleton_append, readString?, if_neg printed]
      · exact quotation
      · exact fun _ _ _ _ _ same _ => backslash same
      · exact fun _ _ same _ => backslash same
  | _ => exact readString?_escape rfl rest

theorem readString?_flatMap (chars rest : List Char) :
    readString? (chars.flatMap jsonChar ++ '"' :: rest) = some (chars, rest) := by
  induction chars with
  | nil => rfl
  | cons c chars ih =>
      rw [List.flatMap_cons, List.append_assoc, readString?_jsonChar, ih]
      rfl

/-! ## Tokens -/

/-- What may stand between the tokens of JSON. -/
def isJsonBlank (c : Char) : Bool :=
  c == ' ' || c == '\n' || c == '\r' || c == '\t'

/-- What follows a token, if it stands behind some blanks. -/
def after? (token : String) (input : List Char) : Option (List Char) :=
  (input.dropWhile isJsonBlank).dropPrefix? token.toList

/-- Read a JSON string: its text, and what follows it. -/
def readText? (input : List Char) : Option (String × List Char) := do
  let inside ← after? "\"" input
  (readString? inside).map (Prod.map String.ofList id)

theorem after?_append {token : String} (begins : token.toList.head?.any (!isJsonBlank ·))
    (rest : List Char) : after? token (token.toList ++ rest) = some rest := by
  have stops : (token.toList ++ rest).dropWhile isJsonBlank = token.toList ++ rest := by
    cases spelled : token.toList with
    | nil => simp [spelled] at begins
    | cons c others => exact List.dropWhile_cons_of_neg (by simpa [spelled] using begins)
  rw [after?, stops, List.dropPrefix?_append_of_beq rest BEq.rfl]

/-- A text is read back from how it is written, whatever follows it. -/
theorem readText?_json (text : String) (rest : List Char) :
    readText? ((json text).toList ++ rest) = some (text, rest) := by
  have written : (json text).toList ++ rest =
      "\"".toList ++ (text.toList.flatMap jsonChar ++ '"' :: rest) := by
    simp [json]
  rw [written, readText?, after?_append (by simp [isJsonBlank])]
  simp [readString?_flatMap]

section

variable {blanks : List Char} (blank : ∀ c ∈ blanks, isJsonBlank c) (input : List Char)

include blank

/-- Blanks before a token are passed over. -/
theorem after?_blanks_append (token : String) :
    after? token (blanks ++ input) = after? token input := by
  rw [after?, after?, List.dropWhile_append_of_pos blank]

theorem readText?_blanks_append : readText? (blanks ++ input) = readText? input := by
  rw [readText?, readText?, after?_blanks_append blank]

end

end Text
end SandboxHost
