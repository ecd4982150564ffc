import SandboxHost.Yaml.Token

/-!
# Events

The structure of a YAML text as a flat list: scalars, aliases, and the beginnings and ends of
sequences, mappings and documents.  Whatever is left out in the text is an empty plain scalar.  A
stack of places in the grammar says how to go on when a node is complete.
-/

namespace SandboxHost
namespace Yaml

/-- What stands before a node: its anchor, and its tag in full. -/
structure Properties where
  /-- The name by which aliases refer to the node. -/
  anchor : Option String := none
  tag : Option String := none
  deriving DecidableEq, Repr

/-- The structure of a text, piece by piece. -/
inductive Event
  | documentStart
  | documentEnd
  | alias (name : String)
  | scalar (text : String) (style : Style) (properties : Properties)
  | sequenceStart (properties : Properties)
  | sequenceEnd
  | mappingStart (properties : Properties)
  | mappingEnd
  deriving DecidableEq, Repr

/-- Places in the grammar. -/
inductive Place
  | firstDocument
  | nextDocument
  | documentContent
  | documentEnd
  | node (block indentless : Bool)
  | sequenceEntry
  | indentlessEntry
  | mappingKey
  | mappingValue
  | flowSequenceFirst
  | flowSequenceEntry
  | flowPairKey
  | flowPairValue
  | flowPairEnd
  | flowMappingFirst
  | flowMappingKey
  | flowMappingValue
  | flowMappingEmpty
  deriving DecidableEq, Repr

/-- The tag rules that hold unless a document says otherwise. -/
def defaultRules : List (String × String) :=
  [("!", "!"), ("!!", "tag:yaml.org,2002:")]

/-- Tokens being put together. -/
structure Grammar where
  tokens : List Token
  /-- Where to go on, the next place first. -/
  places : List Place
  rules : List (String × String) := defaultRules

namespace Grammar

def next (grammar : Grammar) : Token :=
  grammar.tokens.headD .streamEnd

def skip (grammar : Grammar) : Grammar :=
  { grammar with tokens := grammar.tokens.tail }

/-- Go on at some places before the others. -/
def goto (grammar : Grammar) (places : List Place) : Grammar :=
  { grammar with places := places ++ grammar.places }

/-- A node that is left out. -/
def emptyNode (properties : Properties := {}) : Event :=
  .scalar "" .plain properties

/-- The tag of a handle and a suffix. -/
def resolveTag (grammar : Grammar) (handle suffix : String) : Option String :=
  if handle.isEmpty then some suffix
  else (grammar.rules.lookup handle).map (· ++ suffix)

/-- The directives before a document: one version at most, which must be 1.1 or 1.2, and one rule at
most for a handle. -/
def directives (grammar : Grammar) : Option Grammar :=
  let isDirective : Token → Bool
    | .version .. | .tagRule .. => true
    | _ => false
  let given := grammar.tokens.takeWhile isDirective
  let versions := given.filterMap fun
    | .version major minor => some (major, minor)
    | _ => none
  let rules := given.filterMap fun
    | .tagRule handle stem => some (handle, stem)
    | _ => none
  if versions.length ≤ 1 && versions.all (fun v => v.1 == 1 && (v.2 == 1 || v.2 == 2)) &&
      (rules.map (·.1)).eraseDups.length == rules.length then
    some { grammar with
      tokens := grammar.tokens.drop given.length
      rules := rules ++ defaultRules }
  else none

/-- The anchor and the tag before a node, each at most once and in any order. -/
def properties (grammar : Grammar) : Option (Properties × Grammar) := do
  match grammar.tokens with
  | .anchor name :: .tag handle suffix :: _ | .tag handle suffix :: .anchor name :: _ =>
      let tag ← grammar.resolveTag handle suffix
      return ({ anchor := some name, tag := some tag }, grammar.skip.skip)
  | .anchor name :: _ => return ({ anchor := some name }, grammar.skip)
  | .tag handle suffix :: _ =>
      let tag ← grammar.resolveTag handle suffix
      return ({ tag := some tag }, grammar.skip)
  | _ => return ({}, grammar)

/-- The beginning of a node.  Block collections need `block`, and a sequence may stand at its
parent's indentation where `indentless` allows it. -/
def node (grammar : Grammar) (block indentless : Bool) : Option (Event × Grammar) := do
  if let .alias name := grammar.next then
    return (.alias name, grammar.skip)
  let (properties, grammar) ← grammar.properties
  match grammar.next with
  | .scalar text style =>
      let properties :=
        if properties.tag == some "!" then { properties with tag := none } else properties
      return (.scalar text style properties, grammar.skip)
  | .flowSequenceStart => return (.sequenceStart properties, grammar.skip.goto [.flowSequenceFirst])
  | .flowMappingStart => return (.mappingStart properties, grammar.skip.goto [.flowMappingFirst])
  | token =>
      if indentless && token == .blockEntry then
        return (.sequenceStart properties, grammar.goto [.indentlessEntry])
      else if block && token == .blockSequenceStart then
        return (.sequenceStart properties, grammar.skip.goto [.sequenceEntry])
      else if block && token == .blockMappingStart then
        return (.mappingStart properties, grammar.skip.goto [.mappingKey])
      else if properties.anchor.isSome || properties.tag.isSome then
        return (emptyNode properties, grammar)
      else none

/-- A node, or an empty one if one of some tokens comes next; then go on at a place. -/
def nodeUnless (grammar : Grammar) (ends : List Token) (block indentless : Bool) (place : Place) :
    Option (Event × Grammar) :=
  let grammar := grammar.goto [place]
  if ends.contains grammar.next then some (emptyNode, grammar) else grammar.node block indentless

/-- The beginning of a document, or the end of the text. -/
def document (grammar : Grammar) (first : Bool) : Option (Option Event × Grammar) := do
  let grammar :=
    if first then grammar
    else { grammar with tokens := grammar.tokens.dropWhile (· == .documentEnd) }
  match grammar.next with
  | .streamEnd => return (none, grammar)
  | token =>
      let isExplicit := match token with
        | .version .. | .tagRule .. | .documentStart => true
        | _ => false
      let grammar ← grammar.directives
      if first && !isExplicit then
        return (some .documentStart, grammar.goto [.node true false, .documentEnd])
      else if grammar.next == .documentStart then
        return (some .documentStart, grammar.skip.goto [.documentContent, .documentEnd])
      else none

/-- The next event from a place; `grammar.places` are those after it.  There is none where nothing
has to be said or the text ends. -/
def step (grammar : Grammar) (place : Place) : Option (Option Event × Grammar) := do
  let one (result : Option (Event × Grammar)) : Option (Option Event × Grammar) :=
    result.map fun (event, grammar) => (some event, grammar)
  match place with
  | .firstDocument => grammar.document true
  | .nextDocument => grammar.document false
  | .documentContent =>
      match grammar.next with
      | .version .. | .tagRule .. | .documentStart | .documentEnd | .streamEnd =>
          return (some emptyNode, grammar)
      | _ => one (grammar.node true false)
  | .documentEnd =>
      let grammar := if grammar.next == .documentEnd then grammar.skip else grammar
      return (some .documentEnd, { grammar with rules := defaultRules }.goto [.nextDocument])
  | .node block indentless => one (grammar.node block indentless)
  | .sequenceEntry =>
      match grammar.next with
      | .blockEntry =>
          one (grammar.skip.nodeUnless [.blockEntry, .blockEnd] true false .sequenceEntry)
      | .blockEnd => return (some .sequenceEnd, grammar.skip)
      | _ => none
  | .indentlessEntry =>
      match grammar.next with
      | .blockEntry =>
          one (grammar.skip.nodeUnless [.blockEntry, .key, .value, .blockEnd] true false
            .indentlessEntry)
      | _ => return (some .sequenceEnd, grammar)
  | .mappingKey =>
      match grammar.next with
      | .key => one (grammar.skip.nodeUnless [.key, .value, .blockEnd] true true .mappingValue)
      | .blockEnd => return (some .mappingEnd, grammar.skip)
      | _ => none
  | .mappingValue =>
      match grammar.next with
      | .value => one (grammar.skip.nodeUnless [.key, .value, .blockEnd] true true .mappingKey)
      | _ => return (some emptyNode, grammar.goto [.mappingKey])
  | .flowSequenceFirst | .flowSequenceEntry =>
      if grammar.next == .flowSequenceEnd then return (some .sequenceEnd, grammar.skip)
      let grammar ←
        if place == .flowSequenceFirst then some grammar
        else if grammar.next == .flowEntry then some grammar.skip
        else none
      match grammar.next with
      | .flowSequenceEnd => return (some .sequenceEnd, grammar.skip)
      | .key => return (some (.mappingStart {}), grammar.skip.goto [.flowPairKey])
      | _ => one ((grammar.goto [.flowSequenceEntry]).node false false)
  | .flowPairKey =>
      match grammar.next with
      | .value | .flowEntry | .flowSequenceEnd =>
          return (some emptyNode, grammar.skip.goto [.flowPairValue])
      | _ => one ((grammar.goto [.flowPairValue]).node false false)
  | .flowPairValue =>
      match grammar.next with
      | .value =>
          one (grammar.skip.nodeUnless [.flowEntry, .flowSequenceEnd] false false .flowPairEnd)
      | _ => return (some emptyNode, grammar.goto [.flowPairEnd])
  | .flowPairEnd => return (some .mappingEnd, grammar.goto [.flowSequenceEntry])
  | .flowMappingFirst | .flowMappingKey =>
      if grammar.next == .flowMappingEnd then return (some .mappingEnd, grammar.skip)
      let grammar ←
        if place == .flowMappingFirst then some grammar
        else if grammar.next == .flowEntry then some grammar.skip
        else none
      match grammar.next with
      | .flowMappingEnd => return (some .mappingEnd, grammar.skip)
      | .key =>
          one (grammar.skip.nodeUnless [.value, .flowEntry, .flowMappingEnd] false false
            .flowMappingValue)
      | _ => one ((grammar.goto [.flowMappingEmpty]).node false false)
  | .flowMappingValue =>
      match grammar.next with
      | .value =>
          one (grammar.skip.nodeUnless [.flowEntry, .flowMappingEnd] false false .flowMappingKey)
      | _ => return (some emptyNode, grammar.goto [.flowMappingKey])
  | .flowMappingEmpty => return (some emptyNode, grammar.goto [.flowMappingKey])

/-- All events, collected in front of the earlier ones. -/
def run : Nat → Grammar → List Event → Option (List Event)
  | 0, _, _ => none
  | steps + 1, grammar, events =>
      match grammar.places with
      | [] => some events.reverse
      | place :: places => do
          let (event, grammar) ← { grammar with places }.step place
          run steps grammar (event.toList ++ events)

end Grammar

/-- The events of some tokens, unless they are put together wrongly. -/
def Event.ofTokens? (tokens : List Token) : Option (List Event) :=
  Grammar.run (8 * tokens.length + 8) { tokens, places := [.firstDocument] } []

end Yaml
end SandboxHost
