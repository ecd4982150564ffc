import SandboxHost.Text.Utf8
import SandboxHost.Yaml.Scalar

/-!
# Tokens

A YAML text as a list of tokens.  Indentation becomes tokens that open and close blocks.  A key is
recognised only at its colon, so its token is put in afterwards, at the place where the key began.
-/

namespace SandboxHost
namespace Yaml

/-- The pieces that a YAML text is made of. -/
inductive Token
  | version (major minor : Nat)
  /-- A tag directive: the short form and what it stands for. -/
  | tagRule (handle stem : String)
  | documentStart
  | documentEnd
  | blockSequenceStart
  | blockMappingStart
  | blockEnd
  | flowSequenceStart
  | flowSequenceEnd
  | flowMappingStart
  | flowMappingEnd
  | blockEntry
  | flowEntry
  | key
  | value
  | alias (name : String)
  | anchor (name : String)
  | tag (handle suffix : String)
  | scalar (text : String) (style : Style)
  | streamEnd
  deriving DecidableEq, Repr

/-! ## Directives, anchors and tags -/

/-- A name, which ends at a character of another class. -/
def takeName (cursor : Cursor) : String × Cursor :=
  let name := cursor.rest.takeWhile isWord
  (String.ofList name, cursor.skip name.length)

/-- A number of at most nine digits. -/
def takeNumber? (cursor : Cursor) : Option (Nat × Cursor) :=
  let digits := cursor.rest.takeWhile Char.isDigit
  if digits.isEmpty || 9 < digits.length then none
  else
    some (digits.foldl (fun value c => value * 10 + (c.toNat - '0'.toNat)) 0,
      cursor.skip digits.length)

/-- Characters of tags that stand for themselves. -/
def isTagCharacter (verbatim : Bool) (c : Char) : Bool :=
  isWord c || ";/?:@&=+$.!~*'()".toList.contains c || (verbatim && ",[]".toList.contains c)

/-- The octet of an escape in a tag. -/
def tagOctet? : List Char → Option UInt8
  | '%' :: a :: b :: _ => do return ((← hexDigit? a) * 16 + (← hexDigit? b)).toUInt8
  | _ => none

/-- The octets that follow the first octet of a character. -/
def tagWidth? (octet : UInt8) : Option Nat :=
  if octet < 0x80 then some 0
  else if octet &&& 0xE0 == 0xC0 then some 1
  else if octet &&& 0xF0 == 0xE0 then some 2
  else if octet &&& 0xF8 == 0xF0 then some 3
  else none

/-- A character of a tag in escaped octets. -/
def takeEscaped? (cursor : Cursor) : Option (Char × Cursor) := do
  let first ← tagOctet? cursor.rest
  let width ← tagWidth? first
  let later ← (List.range width).mapM fun i => tagOctet? (cursor.rest.drop (3 * (i + 1)))
  match Utf8.decodeStrict (first :: later) with
  | .ok text =>
      let c ← text.toList.head?
      return (c, cursor.skip (3 * (width + 1)))
  | .error _ => none

/-- The characters of a tag added to a text. -/
def takeTagText (verbatim : Bool) : Nat → Cursor → String → Option (String × Cursor)
  | 0, _, _ => none
  | steps + 1, cursor, text =>
      match cursor.next? with
      | some '%' => do
          let (c, cursor) ← takeEscaped? cursor
          takeTagText verbatim steps cursor (text.push c)
      | some c =>
          if isTagCharacter verbatim c then
            takeTagText verbatim steps (cursor.skip 1) (text.push c)
          else some (text, cursor)
      | none => some (text, cursor)

/-- A tag text that is not empty. -/
def readTagText (verbatim : Bool) (cursor : Cursor) : Option (String × Cursor) := do
  let (text, cursor) ← takeTagText verbatim cursor.bound cursor ""
  if text.isEmpty then none else some (text, cursor)

/-- A short form of tags: a name between exclamation marks, or what may be the beginning of a local
tag. -/
def readHandle (cursor : Cursor) : Option (String × Cursor) :=
  if !cursor.isAt '!' then none
  else
    let (name, cursor) := takeName (cursor.skip 1)
    if cursor.isAt '!' then some ("!" ++ name ++ "!", cursor.skip 1) else some ("!" ++ name, cursor)

/-- Whether a handle is a short form and not the beginning of a local tag. -/
def isHandle (handle : String) : Bool :=
  handle.length > 1 && handle.toList.getLast? == some '!'

/-- A tag from its exclamation mark. -/
def readTag (inFlow : Bool) (cursor : Cursor) : Option (Token × Cursor) := do
  let (token, cursor) ←
    if (cursor.skip 1).isAt '<' then do
      let (text, cursor) ← readTagText true (cursor.skip 2)
      if cursor.isAt '>' then some (Token.tag "" text, cursor.skip 1) else none
    else do
      let (handle, cursor) ← readHandle cursor
      if isHandle handle then
        let (suffix, cursor) ← readTagText false cursor
        some (Token.tag handle suffix, cursor)
      else
        let (suffix, cursor) ←
          takeTagText false cursor.bound cursor (handle.drop 1).toString
        some (if suffix.isEmpty then Token.tag "" "!" else Token.tag "!" suffix, cursor)
  if atGap cursor.rest || (inFlow && cursor.isAt ',') then some (token, cursor) else none

/-- An anchor or alias name from behind its indicator. -/
def readAnchor (cursor : Cursor) : Option (String × Cursor) :=
  let (name, cursor) := takeName cursor
  let ends := atGap cursor.rest || cursor.next?.any ("?:,]\x7d%@\x60".toList.contains ·)
  if name.isEmpty || !ends then none else some (name, cursor)

/-- A directive from its percent sign, to the end of its line. -/
def readDirective (cursor : Cursor) : Option (Token × Cursor) := do
  let (name, cursor) := takeName (cursor.skip 1)
  if !atGap cursor.rest then none
  let cursor := cursor.skipWhile isWhite
  let (token, cursor) ← match name with
    | "YAML" => do
        let (major, cursor) ← takeNumber? cursor
        if !cursor.isAt '.' then none
        let (minor, cursor) ← takeNumber? (cursor.skip 1)
        some (Token.version major minor, cursor)
    | "TAG" => do
        let (handle, cursor) ← readHandle cursor
        if handle != "!" && !isHandle handle then none
        if !cursor.next?.any isWhite then none
        let (stem, cursor) ← readTagText true (cursor.skipWhile isWhite)
        if !atGap cursor.rest then none
        some (Token.tagRule handle stem, cursor)
    | _ => none
  return (token, ← skipToLineEnd? cursor)

/-! ## The reader -/

/-- A place where a key may have begun. -/
structure Candidate where
  /-- The text is malformed unless a colon follows. -/
  required : Bool
  place : Nat
  start : Cursor

/-- A candidate ends with its line, and after 1024 characters. -/
def Candidate.isStale (candidate : Candidate) (cursor : Cursor) : Bool :=
  candidate.start.line < cursor.line || candidate.start.index + 1024 < cursor.index

/-- A text being cut into tokens. -/
structure Reader where
  cursor : Cursor
  tokens : List Token := []
  count : Nat := 0
  /-- The columns of the open blocks, the innermost first. -/
  indents : List Nat := []
  /-- The candidate at the present level of brackets. -/
  candidate : Option Candidate := none
  /-- The candidates at the levels outside. -/
  outer : List (Option Candidate) := []
  keyAllowed : Bool := true

namespace Reader

def inFlow (reader : Reader) : Bool :=
  !reader.outer.isEmpty

def push (reader : Reader) (token : Token) : Reader :=
  { reader with tokens := token :: reader.tokens, count := reader.count + 1 }

/-- Add a token at the place that has `place` tokens before it. -/
def insert (reader : Reader) (place : Nat) (token : Token) : Reader :=
  let after := reader.count - place
  { reader with
    tokens := reader.tokens.take after ++ token :: reader.tokens.drop after
    count := reader.count + 1 }

def skip (reader : Reader) (count : Nat) : Reader :=
  { reader with cursor := reader.cursor.skip count }

/-- Let go of a candidate, which must not be required. -/
def release (candidate : Option Candidate) : Option (Option Candidate) :=
  if candidate.any (·.required) then none else some none

/-- Let go of the candidates that are stale. -/
def dropStale (reader : Reader) : Option Reader := do
  let keep (candidate : Option Candidate) : Option (Option Candidate) :=
    if candidate.any (·.isStale reader.cursor) then release candidate else some candidate
  return { reader with
    candidate := ← keep reader.candidate
    outer := ← reader.outer.mapM keep }

/-- Let go of the candidate at the present level. -/
def dropCandidate (reader : Reader) : Option Reader := do
  return { reader with candidate := ← release reader.candidate }

/-- Note that a key may begin here. -/
def noteCandidate (reader : Reader) : Option Reader :=
  if reader.keyAllowed then do
    let reader ← reader.dropCandidate
    let required := !reader.inFlow && reader.indents.head? == some reader.cursor.column
    return { reader with candidate := some ⟨required, reader.count, reader.cursor⟩ }
  else some reader

/-- Close the innermost blocks as long as their columns pass a test. -/
def unwind (reader : Reader) (closes : Nat → Bool) : Reader :=
  if reader.inFlow then reader
  else
    let closed := reader.indents.takeWhile closes
    { closed.foldl (fun reader _ => reader.push .blockEnd) reader with
      indents := reader.indents.drop closed.length }

/-- Open a block at a column right of the present one; its token goes to a place. -/
def indent (reader : Reader) (column place : Nat) (token : Token) : Reader :=
  if reader.inFlow || reader.indents.head?.any (column ≤ ·) then reader
  else { reader.insert place token with indents := column :: reader.indents }

def openFlow (reader : Reader) (token : Token) : Option Reader := do
  let reader ← reader.noteCandidate
  return { reader.push token with
    candidate := none, outer := reader.candidate :: reader.outer, keyAllowed := true }.skip 1

def closeFlow (reader : Reader) (token : Token) : Option Reader := do
  let reader ← reader.dropCandidate
  let reader := match reader.outer with
    | [] => reader
    | candidate :: outer => { reader with candidate, outer }
  return { reader.push token with keyAllowed := false }.skip 1

def flowEntry (reader : Reader) : Option Reader := do
  let reader ← reader.dropCandidate
  return { reader.push .flowEntry with keyAllowed := true }.skip 1

/-- A hyphen before an entry of a block sequence. -/
def blockEntry (reader : Reader) : Option Reader := do
  if !reader.inFlow && !reader.keyAllowed then none
  let reader := reader.indent reader.cursor.column reader.count .blockSequenceStart
  let reader ← reader.dropCandidate
  return { reader.push .blockEntry with keyAllowed := true }.skip 1

/-- A question mark before a key. -/
def explicitKey (reader : Reader) : Option Reader := do
  if !reader.inFlow && !reader.keyAllowed then none
  let reader := reader.indent reader.cursor.column reader.count .blockMappingStart
  let reader ← reader.dropCandidate
  return { reader.push .key with keyAllowed := !reader.inFlow }.skip 1

/-- A colon.  If a key may have begun on the line, this was it. -/
def value (reader : Reader) : Option Reader :=
  match reader.candidate with
  | some candidate =>
      let reader := reader.insert candidate.place .key
      let reader := reader.indent candidate.start.column candidate.place .blockMappingStart
      some ({ reader.push .value with candidate := none, keyAllowed := false }.skip 1)
  | none =>
      if !reader.inFlow && !reader.keyAllowed then none
      else
        let reader := reader.indent reader.cursor.column reader.count .blockMappingStart
        some ({ reader.push .value with keyAllowed := !reader.inFlow }.skip 1)

/-- Go on behind a token that was read. -/
def accept (reader : Reader) (token : Token) (cursor : Cursor) (keyAllowed : Bool) : Reader :=
  { reader.push token with cursor, keyAllowed }

/-- Directives and document marks close all blocks. -/
def atTop (reader : Reader) : Option Reader :=
  (reader.unwind fun _ => true).dropCandidate

/-- A node property or scalar, where a key may begin. -/
def leaf (reader : Reader) (read : Cursor → Option (Token × Cursor)) : Option Reader := do
  let reader ← reader.noteCandidate
  let (token, cursor) ← read reader.cursor
  return reader.accept token cursor false

def blockScalar (reader : Reader) (folds : Bool) : Option Reader := do
  let reader ← reader.dropCandidate
  let (text, cursor) ← readBlock folds reader.indents.head? (reader.cursor.skip 1)
  return reader.accept (.scalar text (if folds then .folded else .literal)) cursor true

def plainScalar (reader : Reader) : Option Reader := do
  let reader ← reader.noteCandidate
  let margin := match reader.indents.head? with
    | some column => column + 1
    | none => 0
  let (text, cursor, crossed) ←
    readPlain reader.inFlow margin reader.cursor.bound reader.cursor "" {}
  return reader.accept (.scalar text .plain) cursor crossed

def quotedScalar (reader : Reader) (quote : Char) (style : Style) : Option Reader :=
  reader.leaf fun cursor => do
    let (text, cursor) ← readQuoted quote cursor.bound (cursor.skip 1) ""
    return (.scalar text style, cursor)

/-- Characters that cannot begin a plain scalar, but for some that can before others. -/
def isIndicator (c : Char) : Bool :=
  isWhite c || isBreak c || "-?:,[]\x7b\x7d#&*!|>'\"%@\x60".toList.contains c

/-- Whether a plain scalar begins here. -/
def atPlain (reader : Reader) (c : Char) (rest : List Char) : Bool :=
  !isIndicator c || (c == '-' && !rest.head?.any isWhite) ||
    (!reader.inFlow && (c == '?' || c == ':') && !atGap rest)

/-- Move to the next token: over white space, comments and line ends.  Tabs count as white space
where no key may begin. -/
def approach : Nat → Reader → Reader
  | 0, reader => reader
  | steps + 1, reader =>
      let cursor := reader.cursor
      let cursor :=
        if cursor.index = 0 && cursor.isAt '\uFEFF' then cursor.skip 1 else cursor
      let tabs := reader.inFlow || !reader.keyAllowed
      let cursor := cursor.skipWhile fun c => c == ' ' || (tabs && c == '\t')
      let cursor := if cursor.isAt '#' then cursor.skipWhile (!isBreak ·) else cursor
      match cursor.takeBreak? with
      | some (_, cursor) =>
          approach steps
            { reader with cursor, keyAllowed := reader.keyAllowed || !reader.inFlow }
      | none => { reader with cursor }

/-- Read the token that begins here. -/
def readToken (reader : Reader) (c : Char) (rest : List Char) : Option Reader :=
  let cursor := reader.cursor
  if cursor.column == 0 && c == '%' then do
    let reader ← reader.atTop
    let (token, cursor) ← readDirective reader.cursor
    return reader.accept token cursor false
  else if cursor.atMark '-' then do
    return (← reader.atTop).accept .documentStart (cursor.skip 3) false
  else if cursor.atMark '.' then do
    return (← reader.atTop).accept .documentEnd (cursor.skip 3) false
  else if c == '[' then reader.openFlow .flowSequenceStart
  else if c == '{' then reader.openFlow .flowMappingStart
  else if c == ']' then reader.closeFlow .flowSequenceEnd
  else if c == '}' then reader.closeFlow .flowMappingEnd
  else if c == ',' then reader.flowEntry
  else if c == '-' && atGap rest then reader.blockEntry
  else if c == '?' && (reader.inFlow || atGap rest) then reader.explicitKey
  else if c == ':' && (reader.inFlow || atGap rest) then reader.value
  else if c == '*' then
    reader.leaf fun cursor => (readAnchor (cursor.skip 1)).map fun (n, c) => (.alias n, c)
  else if c == '&' then
    reader.leaf fun cursor => (readAnchor (cursor.skip 1)).map fun (n, c) => (.anchor n, c)
  else if c == '!' then reader.leaf (readTag reader.inFlow)
  else if c == '|' && !reader.inFlow then reader.blockScalar false
  else if c == '>' && !reader.inFlow then reader.blockScalar true
  else if c == '\'' then reader.quotedScalar '\'' .single
  else if c == '"' then reader.quotedScalar '"' .double
  else if reader.atPlain c rest then reader.plainScalar
  else none

def finish (reader : Reader) : Option (List Token) := do
  let reader ← reader.atTop
  return (reader.push .streamEnd).tokens.reverse

def readAll : Nat → Reader → Option (List Token)
  | 0, _ => none
  | steps + 1, reader => do
      let reader ← (approach reader.cursor.bound reader).dropStale
      let reader := reader.unwind (reader.cursor.column < ·)
      match reader.cursor.rest with
      | [] => reader.finish
      | c :: rest => readAll steps (← reader.readToken c rest)

end Reader

/-- The tokens of a text, unless it is malformed.  A byte order mark at the beginning does not
count. -/
def Token.ofText? (text : String) : Option (List Token) :=
  let chars := match text.toList with
    | '\uFEFF' :: rest => rest
    | chars => chars
  if chars.all isAllowed then
    let cursor : Cursor := { rest := chars }
    Reader.readAll cursor.bound { cursor }
  else none

end Yaml
end SandboxHost
