/-!
# Paths

Paths are texts.  Joining and taking the parent work on the text as it is given; only making a path
absolute removes empty components and single dots.
-/

namespace SandboxHost
namespace Path

/-- What stands between the slashes of a path. -/
def components (path : String) : List String :=
  (path.toList.splitOn '/').map String.ofList

/-- Components that name nothing. -/
def isIdle (component : String) : Bool :=
  component == "" || component == "."

/-- Whether a path starts at the root. -/
def isAbsolute (path : String) : Bool :=
  path.toList.head? == some '/'

/-- A path seen from a directory.  An absolute path stays what it is. -/
def join (directory path : String) : String :=
  if isAbsolute path then path
  else if directory.isEmpty || directory.toList.getLast? == some '/' then directory ++ path
  else directory ++ "/" ++ path

/-- The part of a path that is no component: the root, or a single dot at the beginning. -/
def head (path : String) : String :=
  match path.toList with
  | '/' :: _ => "/"
  | ['.'] => "."
  | '.' :: '/' :: _ => "."
  | _ => ""

/-- The directory of a path.  Idle components at its end are left out. -/
def parent? (path : String) : Option String :=
  let head := head path
  let body := (path.drop head.length).toString
  match (components body).reverse.dropWhile isIdle with
  | [] => if head == "." then some "" else none
  | _ :: directory =>
      some (head ++ String.intercalate "/" (directory.dropWhile isIdle).reverse)

/-- The paths on the way to the end of a path, the whole path last. -/
def stages (path : String) : List String :=
  let components := components path
  let stage (count : Nat) : String := String.intercalate "/" (components.take (count + 1))
  ((List.range components.length).map stage).filter (!·.isEmpty)

/-- A path that is not empty, seen from the working directory, without idle components.  Exactly two
slashes at the beginning are kept, and so is a slash at the end. -/
def absolute? (workingDirectory path : String) : Option String :=
  if path.isEmpty then none
  else
    let chars := path.toList
    let start :=
      if !isAbsolute path then workingDirectory
      else if chars.take 2 == ['/', '/'] && chars.take 3 != ['/', '/', '/'] then "//"
      else "/"
    let whole := ((components path).filter (!isIdle ·)).foldl join start
    some (if chars.getLast? == some '/' then join whole "" else whole)

end Path
end SandboxHost
