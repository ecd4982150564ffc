/-!
# Collected output

Guests write to two streams.  A transcript collects both, either in one text in the order of the
writes or in one text for each stream.
-/

namespace SandboxHost

/-- The two streams a guest can write to. -/
inductive Stream
  | stdout
  | stderr
  deriving DecidableEq, Repr

/-- How the two streams are collected. -/
inductive Routing
  /-- Both in one text, in the order of the writes. -/
  | merged
  /-- Each in a text of its own. -/
  | split
  deriving DecidableEq, Repr

/-- A piece of text on its way to a transcript. -/
structure Fragment where
  /-- The stream it was written to. -/
  stream : Stream
  /-- What was written. -/
  text : String
  deriving DecidableEq, Repr

/-- The stream on which fragments written to `stream` are kept. -/
def Routing.route : Routing → Stream → Stream
  | .split, .stderr => .stderr
  | _, _ => .stdout

/-- Output collected so far. -/
structure Transcript where
  /-- Decides which text a fragment joins. -/
  routing : Routing
  /-- The main text. -/
  contents : String
  /-- The text of the error stream, empty while streams are merged. -/
  stderr : String
  deriving DecidableEq, Repr

namespace Transcript

/-- Nothing collected yet. -/
def new (routing : Routing) : Transcript :=
  ⟨routing, "", ""⟩

/-- Add to one of the two texts, whatever the routing. -/
def put (transcript : Transcript) (fragment : Fragment) : Transcript :=
  match fragment.stream with
  | .stdout => { transcript with contents := transcript.contents ++ fragment.text }
  | .stderr => { transcript with stderr := transcript.stderr ++ fragment.text }

/-- Add a fragment at the end of the text it belongs to. -/
def append (transcript : Transcript) (fragment : Fragment) : Transcript :=
  transcript.put ⟨transcript.routing.route fragment.stream, fragment.text⟩

/-- Add fragments in order. -/
def appendAll (transcript : Transcript) (fragments : List Fragment) : Transcript :=
  fragments.foldl append transcript

/-- Forget what was collected. -/
def clear (transcript : Transcript) : Transcript :=
  new transcript.routing

/-- Whether no text was collected. -/
def isEmpty (transcript : Transcript) : Bool :=
  transcript.contents.isEmpty && transcript.stderr.isEmpty

@[simp]
theorem routing_put (transcript : Transcript) (fragment : Fragment) :
    (transcript.put fragment).routing = transcript.routing := by
  unfold put
  split <;> rfl

@[simp]
theorem routing_append (transcript : Transcript) (fragment : Fragment) :
    (transcript.append fragment).routing = transcript.routing :=
  routing_put _ _

end Transcript
end SandboxHost
