import SandboxHost.Application
import SandboxHost.Proofs.Settings

/-!
# Which settings hold

Settings come from the options, from the file that is consulted and from the defaults, in this
order, entry by entry.  A guest module named in the options is seen from the working directory, one
named in a file from the directory of that file.  Limits are never overridden, and settings whose
limits are out of range are refused with the file that states them.
-/

namespace SandboxHost
namespace Settings

/-! ## The file that is consulted -/

section File

variable {tree : FileTree} {path : String} {named : Option String} {said settings : Settings}

end File

/-! ## Options -/

section Options

variable {tree : FileTree} {options : Options} {settings : Settings}

end Options

/-! ## The settings that hold -/

end Settings
end SandboxHost
