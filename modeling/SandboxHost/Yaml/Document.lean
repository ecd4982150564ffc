import SandboxHost.Yaml.Event

/-!
# Documents

A YAML text with one document at most, as a row of pieces in which aliases are numbers.  Nodes are
named by the position of their first piece.
-/

namespace SandboxHost
namespace Yaml

inductive Piece
  | alias (number : Nat)
  | scalar (text : String) (style : Style) (tag : Option String)
  | sequenceStart
  | sequenceEnd
  | mappingStart (tag : Option String)
  | mappingEnd
  deriving DecidableEq, Repr

structure Document where
  /-- All pieces, in order.  There is none if the text is empty. -/
  pieces : Array Piece := #[]
  /-- For the number of an alias the node it stands for; the newest entry counts. -/
  targets : List (Nat × Nat) := []

namespace Document

/-- A document being put together. -/
structure Assembly where
  /-- The part that is complete. -/
  document : Document := {}
  anchors : List (String × Nat) := []
  /-- Documents begun. -/
  begun : Nat := 0

namespace Assembly

def push (assembly : Assembly) (piece : Piece) : Assembly :=
  { assembly with
    document := { assembly.document with pieces := assembly.document.pieces.push piece } }

/-- Enter an anchor for the next piece.  Its number is the count of the names in use before it, so
that a name given twice can come to share a number with a later one. -/
def mark (assembly : Assembly) : Option String → Assembly
  | none => assembly
  | some name =>
      let number := assembly.anchors.length
      let others := assembly.anchors.filter (·.1 != name)
      { assembly with
        anchors := (name, number) :: others
        document := { assembly.document with
          targets := (number, assembly.document.pieces.size) :: assembly.document.targets } }

/-- Add what an event says.  A second document is malformed, and so is an alias without an anchor
before it. -/
def add (assembly : Assembly) : Event → Option Assembly
  | .documentStart => if assembly.begun = 0 then some { assembly with begun := 1 } else none
  | .documentEnd => some assembly
  | .alias name => (assembly.anchors.lookup name).map fun number => assembly.push (.alias number)
  | .scalar text style properties =>
      some ((assembly.mark properties.anchor).push (.scalar text style properties.tag))
  | .sequenceStart properties => some ((assembly.mark properties.anchor).push .sequenceStart)
  | .sequenceEnd => some (assembly.push .sequenceEnd)
  | .mappingStart properties =>
      some ((assembly.mark properties.anchor).push (.mappingStart properties.tag))
  | .mappingEnd => some (assembly.push .mappingEnd)

end Assembly

def ofEvents? (events : List Event) : Option Document :=
  (events.foldlM Assembly.add {}).map (·.document)

def ofText? (text : String) : Option Document := do
  ofEvents? (← Event.ofTokens? (← Token.ofText? text))

/-- The node that a node stands for, if it is an alias, and else itself. -/
def resolve (document : Document) (node : Nat) : Nat :=
  match document.pieces[node]? with
  | some (.alias number) => (document.targets.lookup number).getD node
  | _ => node

/-- The first piece of a node, through an alias. -/
def piece? (document : Document) (node : Nat) : Option Piece :=
  document.pieces[document.resolve node]?

/-- The position after a node, found by counting what is open. -/
def afterFrom (document : Document) : Nat → Nat → Nat → Nat
  | 0, _, position => position
  | steps + 1, depth, position =>
      let depth := match document.pieces[position]? with
        | some .sequenceStart | some (.mappingStart _) => depth + 1
        | some .sequenceEnd | some .mappingEnd => depth - 1
        | _ => depth
      if depth = 0 then position + 1 else afterFrom document steps depth (position + 1)

/-- The position after a node. -/
def after (document : Document) (node : Nat) : Nat :=
  document.afterFrom document.pieces.size 0 node

/-- The keys and values of a mapping, from the position of a key on. -/
def entriesFrom (document : Document) : Nat → Nat → List (Nat × Nat)
  | 0, _ => []
  | steps + 1, position =>
      match document.pieces[position]? with
      | none | some .mappingEnd => []
      | some _ =>
          let value := document.after position
          (position, value) :: entriesFrom document steps (document.after value)

def text? (document : Document) (node : Nat) : Option String :=
  match document.piece? node with
  | some (.scalar text ..) => some text
  | _ => none

/-- The entries of a mapping whose keys are all scalars.  Where nothing is written, there are
none. -/
def fields? (document : Document) (node : Nat) : Option (List (String × Nat)) :=
  match document.piece? node with
  | none | some (.scalar "" .plain _) => some []
  | some (.mappingStart _) =>
      (document.entriesFrom document.pieces.size (document.resolve node + 1)).mapM fun entry =>
        (document.text? entry.1).map (·, entry.2)
  | _ => none

/-- Whether a plain text stands for nothing. -/
def isNull (text : String) : Bool :=
  text == "~" || text == "null" || text == "Null" || text == "NULL"

end Document
end Yaml
end SandboxHost
