import SandboxHost.Text.Blank

/-!
# Commands

A line typed by the user is a command if its first character that is no blank is a colon, and else
a line of the program.
-/

namespace SandboxHost

/-- What a user can ask for. -/
inductive Command
  | run
  | clear
  | list
  | sample
  | help
  | quit
  deriving DecidableEq, Repr

/-- A line typed by the user. -/
inductive Typed
  | command (command : Command)
  /-- A colon and a text that names no command. -/
  | unknown (name : String)
  /-- A line of the program, as it was typed. -/
  | source (line : String)
  deriving DecidableEq, Repr

namespace Command

def names : List (String × Command) :=
  [("run", .run), ("r", .run), ("clear", .clear), ("c", .clear), ("show", .list), ("s", .list),
    ("sample", .sample), ("help", .help), ("h", .help), ("?", .help), ("quit", .quit),
    ("q", .quit), ("exit", .quit)]

def named (name : String) : Typed :=
  match names.lookup name with
  | some command => .command command
  | none => .unknown name

/-- What a line means. -/
def parse (line : String) : Typed :=
  match trimChars line.toList with
  | ':' :: rest => named (String.ofList (trimChars rest))
  | _ => .source line

/-- The summary of all commands. -/
def summary : String :=
  "Type source lines, then:\n" ++
  "  :run     run the buffer\n" ++
  "  :show    print the buffer with line numbers\n" ++
  "  :clear   empty the buffer\n" ++
  "  :sample  load the sample program\n" ++
  "  :quit    leave\n"

end Command
end SandboxHost
