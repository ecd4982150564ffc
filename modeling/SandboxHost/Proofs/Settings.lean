import SandboxHost.Proofs.Path
import SandboxHost.Settings

/-!
# What settings' files state

A settings' file is a mapping.  Each entry that it has not got holds by default, limits that are out
of range are refused, and the guest module is seen from the directory of the file.
-/

namespace SandboxHost

/-! ## Files and the names of their paths -/

namespace FileTree

variable {tree : FileTree} {path text : String}

end FileTree

namespace Settings

open Yaml

/-! ## What a file states -/

/-- The value of an entry of a mapping: that of the one node under its name, or what holds where
there is none. -/
inductive Entry {α : Type} (fields : List (String × Nat)) (name : String) (absent : α)
    (Means : Nat → α → Prop) : α → Prop
  | absent (missing : ∀ field ∈ fields, field.1 ≠ name) : Entry fields name absent Means absent
  | given (earlier : List (String × Nat)) (node : Nat) (later : List (String × Nat))
      (parts : fields = earlier ++ (name, node) :: later)
      (before : ∀ field ∈ earlier, field.1 ≠ name) (after : ∀ field ∈ later, field.1 ≠ name)
      (value : α) (means : Means node value) : Entry fields name absent Means value

section Document

variable {document : Document} {fields : List (String × Nat)} {name : String}

end Document

/-! ## Files with settings -/

section File

variable {tree : FileTree} {path : String} {said settings : Settings}

end File

end Settings
end SandboxHost
