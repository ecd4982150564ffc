/-!
# Errors of the file system

What can go wrong when a file is read, with the wording the operating system gives it.
-/

namespace SandboxHost

/-- Why a file was not read. -/
inductive FileError
  | notFound
  | notDirectory
  | isDirectory
  /-- The path contains the character NUL. -/
  | nulInPath
  /-- The file was to be read as text, and its octets are not UTF-8. -/
  | notText
  deriving DecidableEq, Repr

/-- The wording of a file error. -/
def FileError.message : FileError → String
  | .notFound => "No such file or directory (os error 2)"
  | .notDirectory => "Not a directory (os error 20)"
  | .isDirectory => "Is a directory (os error 21)"
  | .nulInPath => "file name contained an unexpected NUL byte"
  | .notText => "stream did not contain valid UTF-8"

end SandboxHost
