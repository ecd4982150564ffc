import SandboxHost.Application
import SandboxHost.Clock

/-!
# The program

Reads the arguments, the environment, the files that the request can come to need and, for a
dialogue, the standard input; prints the outcome of the request.
-/

namespace SandboxHost

/-- Enter what stands at a path, and on the way to it, into a file tree.  Nothing lies beyond a
file. -/
def enterPath (tree : FileTree) (path : String) : IO FileTree := do
  let mut tree := tree
  for stage in Path.stages path do
    match ← (IO.FS.readBinFile stage).toBaseIO with
    | .ok content => return tree.add stage (.file (.octets content.toList))
    | .error (.inappropriateType ..) => tree := tree.add stage .directory
    | .error _ => return tree
  return tree

/-- The files that a request can come to read.  Which guest module it needs is known only after its
settings were read. -/
def filesFor (request : Request) : IO FileTree := do
  let home := (Path.components (← IO.currentDir).toString).filter (!Path.isIdle ·)
  match request with
  | .perform options task => do
      let tree ← enterPath { home } (options.settings.getD defaultSettingsFile)
      let tree ← match task with
        | .run file _ => enterPath tree file
        | _ => pure tree
      match Settings.effective tree options with
      | .ok settings => enterPath tree settings.guestPath
      | .error _ => return tree
  | _ => return { home }

/-- Read a stream to its end. -/
partial def readToEnd (stream : IO.FS.Stream) (input : ByteArray) : IO ByteArray := do
  let more ← stream.read 65536
  if more.isEmpty then return input else readToEnd stream (input ++ more)

/-- What a request reads from the standard input. -/
def inputFor : Request → IO (List UInt8)
  | .perform _ .dialogue => do return (← readToEnd (← IO.getStdin) .empty).toList
  | _ => return []

end SandboxHost

open SandboxHost in
/-- Answer the request of the command line. -/
def main (arguments : List String) : IO UInt32 := do
  let request := Request.ofArguments (← IO.getEnv guestVariable) arguments
  let tree ← filesFor request
  let input ← inputFor request
  let outcome := Application.answer tree (← currentMilliseconds) input request
  IO.print outcome.stdout
  IO.eprint outcome.stderr
  return outcome.exit.toUInt32
