import SandboxHost.Text.Lines

/-!
# Drafts

A draft is the program being edited, line by line.
-/

namespace SandboxHost

/-- The lines of a program being edited. -/
structure Draft where
  /-- The lines, without their ends. -/
  lines : Array String := #[]
  deriving DecidableEq, Repr

namespace Draft

/-- The program that is shown to start with. -/
def sample : String :=
  "kaj ghumano(nayok)\nshow(nayok + \" is sleeping!\")\nsesh\n\nghumano(\"Palash\");\n"

/-- Add a line at the end. -/
def push (draft : Draft) (line : String) : Draft :=
  ⟨draft.lines.push line⟩

/-- The draft of a text. -/
def ofText (text : String) : Draft :=
  ⟨(SandboxHost.lines text).toArray⟩

/-- Whether there is no line. -/
def isEmpty (draft : Draft) : Bool :=
  draft.lines.isEmpty

/-- The text of the lines, ended by a line feed unless it is empty. -/
def source (draft : Draft) : String :=
  let text := String.intercalate "\n" draft.lines.toList
  if text.isEmpty then text else text ++ "\n"

/-- A number right-aligned in a column. -/
def padded (width number : Nat) : String :=
  String.ofList ((toString number).toList.leftpad width ' ')

/-- One line of the listing. -/
def numberedLine (width number : Nat) (line : String) : String :=
  padded width number ++ " | " ++ line ++ "\n"

/-- The lines with their numbers, in a column as wide as the last number. -/
def numbered (draft : Draft) : String :=
  let width := (toString draft.lines.size).length
  String.join (draft.lines.toList.mapIdx fun index line => numberedLine width (index + 1) line)

end Draft
end SandboxHost
