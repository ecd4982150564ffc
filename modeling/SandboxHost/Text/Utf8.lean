/-!
# UTF-8

Texts cross the boundary of the sandbox as octets.  This file holds the encoder, the decoder that
replaces what is malformed, and the strict decoder that says where the first fault lies.  Both
decoders are one automaton, `Utf8.State.step`, whose states are the places inside a row of the table
of well-formed sequences: shortest form, no surrogates, nothing above U+10FFFF.  A fault is found at
the first octet that no well-formed sequence can have there, so the octets given up are always a
maximal subpart.
-/

namespace SandboxHost
namespace Utf8

/-- The character that stands for malformed octets. -/
def replacement : Char := '\uFFFD'

/-- The octets of a text. -/
def encode (text : String) : List UInt8 :=
  text.toList.flatMap String.utf8EncodeChar

/-- Where a decoder stands between two octets. -/
inductive State
  /-- Between two characters. -/
  | start
  /-- Inside a sequence of which `taken` octets were read and `owed + 1` are missing.  The next one
  has to lie between `low` and `high`; `value` holds the bits read. -/
  | within (owed : Nat) (low high : UInt8) (value taken : Nat)
  deriving DecidableEq

/-- What one octet brings. -/
inductive Reply
  /-- A character is complete. -/
  | char (c : Char)
  /-- The sequence goes on. -/
  | more (state : State)
  /-- No well-formed sequence has the octet at this place. -/
  | refuse
  deriving DecidableEq

/-- The first octet of a sequence fixes its length and the range of the second octet. -/
def first (octet : UInt8) : Reply :=
  if octet < 0x80 then .char (Char.ofNat octet.toNat)
  else if octet < 0xC2 then .refuse
  else if octet < 0xE0 then .more (.within 0 0x80 0xBF (octet.toNat - 0xC0) 1)
  else if octet = 0xE0 then .more (.within 1 0xA0 0xBF 0 1)
  else if octet = 0xED then .more (.within 1 0x80 0x9F 0xD 1)
  else if octet < 0xF0 then .more (.within 1 0x80 0xBF (octet.toNat - 0xE0) 1)
  else if octet = 0xF0 then .more (.within 2 0x90 0xBF 0 1)
  else if octet < 0xF4 then .more (.within 2 0x80 0xBF (octet.toNat - 0xF0) 1)
  else if octet = 0xF4 then .more (.within 2 0x80 0x8F 4 1)
  else .refuse

/-- One step of the automaton. -/
def State.step : State → UInt8 → Reply
  | .start, octet => first octet
  | .within owed low high value taken, octet =>
      if low ≤ octet ∧ octet ≤ high then
        let value := value * 64 + octet.toNat % 64
        match owed with
        | 0 => .char (Char.ofNat value)
        | owed + 1 => .more (.within owed 0x80 0xBF value (taken + 1))
      else .refuse

/-- The characters that an octet settles when faults are replaced, and the state after it.  An octet
refused inside a sequence ends the sequence and is read again as a first octet. -/
def State.settle (state : State) (octet : UInt8) : List Char × State :=
  match state.step octet with
  | .char c => ([c], .start)
  | .more next => ([], next)
  | .refuse =>
      match state with
      | .start => ([replacement], .start)
      | .within .. =>
          match first octet with
          | .char c => ([replacement, c], .start)
          | .more next => ([replacement], next)
          | .refuse => ([replacement, replacement], .start)

/-- The characters that the end of the octets settles. -/
def State.finish : State → List Char
  | .start => []
  | .within .. => [replacement]

/-- The characters of octets read from a state, faults replaced. -/
def decodeChars : State → List UInt8 → List Char
  | state, [] => state.finish
  | state, octet :: octets =>
      (state.settle octet).1 ++ decodeChars (state.settle octet).2 octets

/-- `decodeChars` appended to a text. -/
def decodeOnto (text : String) : State → List UInt8 → String
  | state, [] => state.finish.foldl String.push text
  | state, octet :: octets =>
      match state.settle octet with
      | (chars, next) => decodeOnto (chars.foldl String.push text) next octets

/-- The text of some octets, with one U+FFFD for each maximal subpart that is malformed. -/
def decode (octets : List UInt8) : String :=
  decodeOnto "" .start octets

theorem toList_foldl_push (chars : List Char) (text : String) :
    (chars.foldl String.push text).toList = text.toList ++ chars := by
  induction chars generalizing text with
  | nil => simp
  | cons c chars ih => simp [ih, String.toList_push]

theorem toList_decodeOnto (text : String) (state : State) (octets : List UInt8) :
    (decodeOnto text state octets).toList = text.toList ++ decodeChars state octets := by
  induction octets generalizing text state with
  | nil => simp [decodeOnto, decodeChars, toList_foldl_push]
  | cons octet octets ih =>
      simp [decodeOnto, decodeChars, ih, toList_foldl_push]

@[simp]
theorem toList_decode (octets : List UInt8) :
    (decode octets).toList = decodeChars .start octets := by
  simp [decode, toList_decodeOnto]

/-- The first fault of octets that are not well-formed. -/
inductive Malformed
  /-- `length` octets from `index` on begin no character. -/
  | sequence (length index : Nat)
  /-- The octets end inside the character that begins at `index`. -/
  | incomplete (index : Nat)
  deriving DecidableEq

/-- The wording of a fault. -/
def Malformed.message : Malformed → String
  | .sequence length index => s!"invalid utf-8 sequence of {length} bytes from index {index}"
  | .incomplete index => s!"incomplete utf-8 byte sequence from index {index}"

/-- Strict decoding from a state, `index` octets into the whole, appended to a text. -/
def decodeStrictOnto (text : String) : State → Nat → List UInt8 → Except Malformed String
  | .start, _, [] => .ok text
  | .within _ _ _ _ taken, index, [] => .error (.incomplete (index - taken))
  | state, index, octet :: octets =>
      match state.step octet with
      | .char c => decodeStrictOnto (text.push c) .start (index + 1) octets
      | .more next => decodeStrictOnto text next (index + 1) octets
      | .refuse =>
          match state with
          | .start => .error (.sequence 1 index)
          | .within _ _ _ _ taken => .error (.sequence taken (index - taken))

/-- The text of well-formed octets, or the first fault. -/
def decodeStrict (octets : List UInt8) : Except Malformed String :=
  decodeStrictOnto "" .start 0 octets

end Utf8
end SandboxHost
