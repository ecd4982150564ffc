import SandboxHost.Command
import SandboxHost.Draft
import SandboxHost.Session

/-!
# Dialogues

In a dialogue the user edits a draft and runs it on a session.  Input is cut into lines as octets;
a line that is not UTF-8 is reported and skipped.  A failed run ends neither the dialogue nor the
draft.
-/

namespace SandboxHost

/-- A session with the draft that is being edited. -/
structure Dialogue where
  /-- Where the draft is run; its output is the terminal. -/
  session : Session
  draft : Draft := {}

namespace Dialogue

def print (dialogue : Dialogue) (stream : Stream) (text : String) : Dialogue :=
  { dialogue with
    session := { dialogue.session with host := dialogue.session.host.print stream text } }

/-- Run the draft and end its output with a line feed. -/
def runDraft (dialogue : Dialogue) : Dialogue :=
  if dialogue.draft.isEmpty then dialogue.print .stderr "nothing to run\n"
  else
    let (_, session) := dialogue.session.run dialogue.draft.source
    { dialogue with session }.print .stdout "\n"

/-- Do what a command asks for, except leaving. -/
def obey (dialogue : Dialogue) : Command → Dialogue
  | .run => dialogue.runDraft
  | .clear => { dialogue with draft := {} }
  | .list => dialogue.print .stdout dialogue.draft.numbered
  | .sample =>
      let draft := Draft.ofText Draft.sample
      { dialogue with draft }.print .stdout draft.numbered
  | .help => dialogue.print .stderr Command.summary
  | .quit => dialogue

/-- What a line of input means. -/
inductive Heard
  /-- The line is not UTF-8. -/
  | noise (fault : Utf8.Malformed)
  | typed (typed : Typed)

/-- Read a line of input, without its line feed. -/
def hear (octets : List UInt8) : Heard :=
  match Utf8.decodeStrict octets with
  | .error fault => .noise fault
  | .ok line => .typed (Command.parse (String.ofList (dropReturn line.toList)))

/-- Answer a line of input, except the command to leave. -/
def answer (dialogue : Dialogue) : Heard → Dialogue
  | .noise fault =>
      dialogue.print .stderr ("skipping line that is not valid UTF-8: " ++ fault.message ++ "\n")
  | .typed (.source line) => { dialogue with draft := dialogue.draft.push line }
  | .typed (.command command) => dialogue.obey command
  | .typed (.unknown name) => dialogue.print .stderr ("unknown command :" ++ name ++ "\n")

/-- Whether a line ends the dialogue. -/
def Heard.isQuit : Heard → Bool
  | .typed (.command .quit) => true
  | _ => false

/-- Show the prompt, where there is one. -/
def invite (dialogue : Dialogue) (prompt : Bool) : Dialogue :=
  if prompt then dialogue.print .stderr "> " else dialogue

/-- Go through lines of input until they end or the user leaves. -/
def converse (prompt : Bool) : Dialogue → List (List UInt8) → Dialogue
  | dialogue, [] => dialogue.invite prompt
  | dialogue, octets :: later =>
      let dialogue := dialogue.invite prompt
      let heard := hear octets
      if heard.isQuit then dialogue else converse prompt (dialogue.answer heard) later

/-- The lines of some input.  What follows the last line feed is a line unless it is empty. -/
def inputLines (input : List UInt8) : List (List UInt8) :=
  let (whole, rest) := terminated (· == 0x0A) input
  if rest.isEmpty then whole else whole ++ [rest]

/-- A whole dialogue on a session. -/
def drive (session : Session) (input : List UInt8) (prompt : Bool) : Dialogue :=
  converse prompt { session } (inputLines input)

end Dialogue
end SandboxHost
