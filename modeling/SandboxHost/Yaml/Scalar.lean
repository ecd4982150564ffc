import SandboxHost.Yaml.Cursor

/-!
# Scalars

Reading plain, quoted and block scalars.  A gap between two words of a plain or quoted scalar folds:
white space on one line stays, a single line end becomes a space, and of several line ends all but
the first stay.  Reading fails with `none` where the text is malformed.
-/

namespace SandboxHost
namespace Yaml

inductive Style
  | plain
  | single
  | double
  | literal
  | folded
  deriving DecidableEq, Repr

/-- A bound on the steps of a reader from a place. -/
def Cursor.bound (cursor : Cursor) : Nat :=
  cursor.rest.length + 1

/-! ## Gaps -/

/-- White space and line ends between two words. -/
structure Gap where
  broken : Bool := false
  /-- The white space before the first line end. -/
  blanks : String := ""
  /-- The first line end that is kept. -/
  firstBreak : String := ""
  /-- The line ends after it. -/
  laterBreaks : String := ""

namespace Gap

/-- What a gap leaves in a scalar. -/
def fold (gap : Gap) : String :=
  if gap.broken then
    if gap.firstBreak == "\n" then
      if gap.laterBreaks.isEmpty then " " else gap.laterBreaks
    else gap.firstBreak ++ gap.laterBreaks
  else gap.blanks

/-- Read on in a gap.  A tab on a later line left of column `margin` is malformed. -/
def read (margin : Nat) : Nat → Cursor → Gap → Option (Cursor × Gap)
  | 0, cursor, gap => some (cursor, gap)
  | steps + 1, cursor, gap =>
      match cursor.takeBreak? with
      | some (ending, after) =>
          if gap.broken then
            read margin steps after { gap with laterBreaks := gap.laterBreaks ++ ending }
          else read margin steps after { gap with broken := true, firstBreak := ending }
      | none =>
          match cursor.next? with
          | none => some (cursor, gap)
          | some c =>
              if isWhite c then
                if gap.broken && cursor.column < margin && c == '\t' then none
                else
                  let gap := if gap.broken then gap else { gap with blanks := gap.blanks.push c }
                  read margin steps (cursor.skip 1) gap
              else some (cursor, gap)

end Gap

/-! ## Plain scalars -/

/-- The indicators that end a plain scalar inside brackets. -/
def isFlowIndicator (c : Char) : Bool :=
  c == ',' || c == '[' || c == ']' || c == '{' || c == '}'

/-- A word of a plain scalar added to a text, and its length.  Inside brackets a colon must not
stand before an indicator. -/
def plainWord (flow : Bool) : List Char → String → Nat → Option (String × Nat)
  | [], text, length => some (text, length)
  | c :: rest, text, length =>
      if isWhite c || isBreak c then some (text, length)
      else if flow && c == ':' && rest.head?.any (fun d => isFlowIndicator d || d == '?') then none
      else if (c == ':' && atGap rest) || (flow && isFlowIndicator c) then some (text, length)
      else plainWord flow rest (text.push c) (length + 1)

/-- A plain scalar, the place after it, and whether lines were crossed after its last word. -/
def readPlain (flow : Bool) (margin : Nat) :
    Nat → Cursor → String → Gap → Option (String × Cursor × Bool)
  | 0, _, _, _ => none
  | steps + 1, cursor, text, gap =>
      if cursor.atDocumentMark || cursor.isAt '#' then some (text, cursor, gap.broken)
      else do
        let (joined, length) ← plainWord flow cursor.rest (text ++ gap.fold) 0
        let (text, gap) := if length = 0 then (text, gap) else (joined, {})
        let cursor := cursor.skip length
        if !cursor.rest.isEmpty && atGap cursor.rest then
          let (cursor, gap) ← gap.read margin cursor.bound cursor
          if !flow && cursor.column < margin then some (text, cursor, gap.broken)
          else readPlain flow margin steps cursor text gap
        else some (text, cursor, gap.broken)

/-! ## Quoted scalars -/

/-- Escapes of one character. -/
def escapes : List (Char × Char) :=
  [('0', '\x00'), ('a', '\x07'), ('b', '\x08'), ('t', '\t'), ('\t', '\t'), ('n', '\n'),
    ('v', '\x0B'), ('f', '\x0C'), ('r', '\r'), ('e', '\x1B'), (' ', ' '), ('"', '"'), ('/', '/'),
    ('\\', '\\'), ('N', '\u0085'), ('_', '\u00A0'), ('L', '\u2028'), ('P', '\u2029')]

/-- Escapes that name a code point, with the number of their digits. -/
def codeEscapes : List (Char × Nat) :=
  [('x', 2), ('u', 4), ('U', 8)]

def hexDigit? (c : Char) : Option Nat :=
  if '0' ≤ c ∧ c ≤ '9' then some (c.toNat - '0'.toNat)
  else if 'a' ≤ c ∧ c ≤ 'f' then some (c.toNat - 'a'.toNat + 10)
  else if 'A' ≤ c ∧ c ≤ 'F' then some (c.toNat - 'A'.toNat + 10)
  else none

def hexNumber? (digits : List Char) : Option Nat :=
  digits.foldlM (fun value c => (hexDigit? c).map (value * 16 + ·)) 0

/-- The character of a code point in exactly `width` hexadecimal digits. -/
def codePoint? (digits : List Char) (width : Nat) : Option Char := do
  if digits.length ≠ width then none
  let value ← hexNumber? digits
  if value.isValidChar then some (Char.ofNat value) else none

/-- A word of a quoted scalar added to a text, and whether it ends with an escaped line end. -/
def quotedWord (quote : Char) : Nat → Cursor → String → Option (String × Cursor × Bool)
  | 0, _, _ => none
  | steps + 1, cursor, text =>
      match cursor.rest with
      | [] => some (text, cursor, false)
      | c :: rest =>
          if isWhite c || isBreak c then some (text, cursor, false)
          else if c == quote then
            if quote == '\'' && rest.head? == some quote then
              quotedWord quote steps (cursor.skip 2) (text.push quote)
            else some (text, cursor, false)
          else if quote == '"' && c == '\\' then
            match rest with
            | [] => none
            | escape :: digits =>
                if isBreak escape then some (text, (cursor.skip 1).skipBreak, true)
                else
                  match escapes.lookup escape, codeEscapes.lookup escape with
                  | some meant, _ => quotedWord quote steps (cursor.skip 2) (text.push meant)
                  | none, some width => do
                      let meant ← codePoint? (digits.take width) width
                      quotedWord quote steps (cursor.skip (2 + width)) (text.push meant)
                  | none, none => none
          else quotedWord quote steps (cursor.skip 1) (text.push c)

/-- A quoted scalar from inside its opening quote, and the place after its closing quote. -/
def readQuoted (quote : Char) : Nat → Cursor → String → Option (String × Cursor)
  | 0, _, _ => none
  | steps + 1, cursor, text =>
      if cursor.atDocumentMark || cursor.rest.isEmpty then none
      else do
        let (text, cursor, escaped) ← quotedWord quote cursor.bound cursor text
        if cursor.isAt quote then some (text, cursor.skip 1)
        else
          let (cursor, gap) ← Gap.read 0 cursor.bound cursor { broken := escaped }
          readQuoted quote steps cursor (text ++ gap.fold)

/-! ## Block scalars -/

/-- What happens to the line ends at the end of a block scalar. -/
inductive Chomping
  | strip
  | clip
  | keep
  deriving DecidableEq, Repr

/-- Empty lines and indentation before a line of a block scalar.  `indent` is the indentation, zero
while it is not known; the widest indentation met is counted along. -/
def readIndentation (indent : Nat) : Nat → Cursor → Nat → String → Option (Cursor × Nat × String)
  | 0, cursor, widest, breaks => some (cursor, widest, breaks)
  | steps + 1, cursor, widest, breaks =>
      let spaces := (cursor.rest.takeWhile (· == ' ')).length
      let cursor :=
        cursor.skip (if indent = 0 then spaces else min spaces (indent - cursor.column))
      let widest := max widest cursor.column
      if (indent = 0 || cursor.column < indent) && cursor.isAt '\t' then none
      else
        match cursor.takeBreak? with
        | some (ending, after) => readIndentation indent steps after widest (breaks ++ ending)
        | none => some (cursor, widest, breaks)

/-- The lines of a block scalar.  `lineEnd` is the end of the line before, `breaks` are the empty
lines after it, and `white` says whether it began with white space. -/
def readLines (folds : Bool) (indent : Nat) :
    Nat → Cursor → String → String → String → Bool → Option (String × String × String × Cursor)
  | 0, _, _, _, _, _ => none
  | steps + 1, cursor, text, lineEnd, breaks, white =>
      if cursor.column = indent && !cursor.rest.isEmpty then do
        let whiteNow := cursor.next?.any isWhite
        let joined :=
          if folds && lineEnd == "\n" && !white && !whiteNow then
            if breaks.isEmpty then " " else breaks
          else lineEnd ++ breaks
        let line := cursor.rest.takeWhile (!isBreak ·)
        let text := line.foldl String.push (text ++ joined)
        let cursor := cursor.skip line.length
        let (lineEnd, cursor) := cursor.takeBreak?.getD ("", cursor)
        let (cursor, _, breaks) ← readIndentation indent cursor.bound cursor 0 ""
        readLines folds indent steps cursor text lineEnd breaks whiteNow
      else some (text, lineEnd, breaks, cursor)

/-- The header of a block scalar: chomping and indentation, in either order.  An indentation of zero
is malformed. -/
def readHeader (cursor : Cursor) : Option (Chomping × Nat × Cursor) :=
  let chomping? (c : Char) : Option Chomping :=
    if c == '+' then some .keep else if c == '-' then some .strip else none
  let digit? (c : Char) : Option Nat :=
    if c.isDigit then some (c.toNat - '0'.toNat) else none
  let first := cursor.next?
  let second := (cursor.skip 1).next?
  match first.bind chomping?, first.bind digit? with
  | some chomping, _ =>
      match second.bind digit? with
      | some 0 => none
      | some digit => some (chomping, digit, cursor.skip 2)
      | none => some (chomping, 0, cursor.skip 1)
  | none, some 0 => none
  | none, some digit =>
      match second.bind chomping? with
      | some chomping => some (chomping, digit, cursor.skip 2)
      | none => some (.clip, digit, cursor.skip 1)
  | none, none => some (.clip, 0, cursor)

/-- Move over white space and a comment to the end of the line, which must come then. -/
def skipToLineEnd? (cursor : Cursor) : Option Cursor :=
  let cursor := cursor.skipWhile isWhite
  let cursor := if cursor.isAt '#' then cursor.skipWhile (!isBreak ·) else cursor
  if cursor.rest.isEmpty || cursor.next?.any isBreak then some cursor.skipBreak else none

/-- A block scalar from behind its indicator.  `parent` is the indentation of the block it stands
in, if it stands in one. -/
def readBlock (folds : Bool) (parent : Option Nat) (cursor : Cursor) :
    Option (String × Cursor) := do
  let (chomping, digit, cursor) ← readHeader cursor
  let cursor ← skipToLineEnd? cursor
  let given := if digit = 0 then 0 else parent.getD 0 + digit
  let (cursor, widest, breaks) ← readIndentation given cursor.bound cursor 0 ""
  let least := match parent with
    | some column => column + 1
    | none => 1
  let indent := if given = 0 then max widest least else given
  let (text, lineEnd, breaks, cursor) ←
    readLines folds indent cursor.bound cursor "" "" breaks false
  let text := match chomping with
    | .strip => text
    | .clip => text ++ lineEnd
    | .keep => text ++ lineEnd ++ breaks
  return (text, cursor)

end Yaml
end SandboxHost
