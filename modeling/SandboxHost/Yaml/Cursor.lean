/-!
# Positions in a YAML text

A cursor is the rest of a text together with the place where it begins.  Line ends of all kinds are
crossed by one function, which also says how each is kept in a scalar.
-/

namespace SandboxHost
namespace Yaml

def isWhite (c : Char) : Bool :=
  c == ' ' || c == '\t'

/-- Characters that end a line. -/
def isBreak (c : Char) : Bool :=
  c == '\n' || c == '\r' || c == '\u0085' || c == '\u2028' || c == '\u2029'

/-- Characters of names: ASCII letters and digits, the underscore and the hyphen. -/
def isWord (c : Char) : Bool :=
  c.isAlphanum || c == '_' || c == '-'

/-- Characters that may stand in a YAML text at all. -/
def isAllowed (c : Char) : Bool :=
  c == '\t' || c == '\n' || c == '\r' || (' ' ≤ c && c ≤ '~') || c == '\u0085' ||
    ('\u00A0' ≤ c && c ≤ '\uD7FF') || ('\uE000' ≤ c && c ≤ '\uFFFD') || 0x10000 ≤ c.val

/-- Whether some characters begin with white space or a line end, or are at their end. -/
def atGap : List Char → Bool
  | [] => true
  | c :: _ => isWhite c || isBreak c

/-- A place in a text and what follows it. -/
structure Cursor where
  rest : List Char
  index : Nat := 0
  line : Nat := 0
  column : Nat := 0

namespace Cursor

def skip (cursor : Cursor) (count : Nat) : Cursor :=
  { cursor with
    rest := cursor.rest.drop count
    index := cursor.index + count
    column := cursor.column + count }

/-- Move over all characters of a class, none of which ends a line. -/
def skipWhile (cursor : Cursor) (among : Char → Bool) : Cursor :=
  cursor.skip (cursor.rest.takeWhile among).length

def next? (cursor : Cursor) : Option Char :=
  cursor.rest.head?

def isAt (cursor : Cursor) (c : Char) : Bool :=
  cursor.next? == some c

/-- Move over a line end.  It is kept in scalars as a line feed, unless it separates lines or
paragraphs by its own character. -/
def takeBreak? (cursor : Cursor) : Option (String × Cursor) :=
  match cursor.rest with
  | '\r' :: '\n' :: rest => some ("\n", ⟨rest, cursor.index + 2, cursor.line + 1, 0⟩)
  | c :: rest =>
      if isBreak c then
        let kept := if c == '\u2028' || c == '\u2029' then c else '\n'
        some (kept.toString, ⟨rest, cursor.index + 1, cursor.line + 1, 0⟩)
      else none
  | [] => none

/-- Move over a line end, if there is one. -/
def skipBreak (cursor : Cursor) : Cursor :=
  match cursor.takeBreak? with
  | some (_, cursor) => cursor
  | none => cursor

/-- Whether a line begins here with three given characters and a gap. -/
def atMark (cursor : Cursor) (mark : Char) : Bool :=
  cursor.column == 0 && cursor.rest.take 3 == [mark, mark, mark] && atGap (cursor.rest.drop 3)

/-- Whether a document begins or ends here by a mark. -/
def atDocumentMark (cursor : Cursor) : Bool :=
  cursor.atMark '-' || cursor.atMark '.'

end Cursor
end Yaml
end SandboxHost
