import SandboxHost.FileError
import SandboxHost.Guest.Link
import SandboxHost.Path

/-!
# File trees

The files that a program can reach, by location.  A path is followed component by component, as the
operating system does.
-/

namespace SandboxHost

/-- What stands at a location. -/
inductive FileNode
  | directory
  | file (content : Guest.Artifact)

/-- Files and directories.  Locations are lists of names from the root. -/
structure FileTree where
  /-- The location of the working directory. -/
  home : List String
  /-- What stands where, apart from the root and the way to the working directory. -/
  nodes : List (List String × FileNode) := []

namespace FileTree

/-- What stands at a location. -/
def at? (tree : FileTree) (location : List String) : Option FileNode :=
  if location.isPrefixOf tree.home then some .directory else tree.nodes.lookup location

def workingDirectory (tree : FileTree) : String :=
  "/" ++ String.intercalate "/" tree.home

/-- Follow components from a location. -/
def follow (tree : FileTree) : List String → List String → Except FileError (List String)
  | location, [] => .ok location
  | location, component :: later =>
      match tree.at? location with
      | none => .error .notFound
      | some (.file _) => .error .notDirectory
      | some .directory =>
          if Path.isIdle component then follow tree location later
          else if component == ".." then follow tree location.dropLast later
          else
            let next := location ++ [component]
            if (tree.at? next).isSome then follow tree next later else .error .notFound

/-- What stands at the end of a path. -/
def find (tree : FileTree) (path : String) : Except FileError FileNode := do
  if path.toList.contains '\x00' then .error .nulInPath
  else if path.isEmpty then .error .notFound
  else
    let start := if Path.isAbsolute path then [] else tree.home
    let location ← tree.follow start (Path.components path)
    match tree.at? location with
    | some node => return node
    | none => .error .notFound

/-- Whether a path leads anywhere. -/
def exists? (tree : FileTree) (path : String) : Bool :=
  (tree.find path).isOk

def read (tree : FileTree) (path : String) : Except FileError Guest.Artifact := do
  match ← tree.find path with
  | .directory => .error .isDirectory
  | .file content => return content

def readText (tree : FileTree) (path : String) : Except FileError String := do
  match ← tree.read path with
  | .octets octets => (Utf8.decodeStrict octets).mapError fun _ => .notText
  | .program _ => .error .notText

/-- Put a node at a location, unless there is one. -/
def put (tree : FileTree) (location : List String) (node : FileNode) : FileTree :=
  if (tree.at? location).isSome then tree
  else { tree with nodes := (location, node) :: tree.nodes }

/-- Follow components and make the directories that are missing. -/
def makeDirectories (tree : FileTree) : List String → List String → FileTree × List String
  | location, [] => (tree, location)
  | location, component :: later =>
      if Path.isIdle component then makeDirectories tree location later
      else if component == ".." then makeDirectories tree location.dropLast later
      else
        let next := location ++ [component]
        makeDirectories (tree.put next .directory) next later

/-- Put a node at the end of a path, with the directories before it. -/
def add (tree : FileTree) (path : String) (node : FileNode) : FileTree :=
  let start := if Path.isAbsolute path then [] else tree.home
  match (Path.components path).reverse.dropWhile Path.isIdle with
  | [] => tree
  | last :: before =>
      let (tree, directory) := tree.makeDirectories start before.reverse
      tree.put (directory ++ [last]) node

end FileTree
end SandboxHost
