import SandboxHost.FileTree
import SandboxHost.Limits
import SandboxHost.Output
import SandboxHost.Yaml.Number

/-!
# Settings

Where the guest module lies, how output is collected and what the guest may use.  Settings come from
a YAML mapping, in which unknown entries are ignored, and can be overridden.
-/

namespace SandboxHost

/-- The settings of a program. -/
structure Settings where
  /-- The path of the guest module, as it was given. -/
  guest : String := "pankti.wasm"
  /-- How output is collected. -/
  routing : Routing := .merged
  /-- What the guest may use. -/
  limits : Limits := {}
  /-- The path of the file that the settings were read from. -/
  file : Option String := none
  deriving DecidableEq, Repr

/-- Why settings cannot be had. -/
inductive SettingsError
  | unreadable (error : FileError)
  /-- The text is no YAML, or not of the right form. -/
  | malformed
  /-- The memory limit is less than a page. -/
  | memoryTooSmall
  /-- There is a budget, but nothing in it. -/
  | noFuel
  deriving DecidableEq, Repr

namespace SettingsError

/-- The cause behind a settings error, where there is one. -/
def cause? : SettingsError → Option String
  | .unreadable error => some error.message
  | .malformed => some "no settings can be read from the text"
  | _ => none

/-- The wording of a settings error. -/
def message : SettingsError → String
  | .unreadable error => "Failed to read config file: " ++ error.message
  | .malformed => "Failed to parse YAML: no settings can be read from the text"
  | .memoryTooSmall =>
      s!"Invalid value for limits.max_memory_bytes: must be at least one page ({pageSize} bytes)"
  | .noFuel => "Invalid value for limits.fuel_per_run: must be positive; omit it for no limit"

end SettingsError

namespace Settings

open Yaml

/-- The value of a field that may be absent and must not be given twice. -/
def field? (fields : List (String × Nat)) (name : String) : Option (Option Nat) :=
  match fields.filter (·.1 == name) with
  | [] => some none
  | [entry] => some (some entry.2)
  | _ => none

/-- Read a field, or take what holds where it is absent. -/
def readField {α : Type} (fields : List (String × Nat)) (name : String) (absent : α)
    (read : Nat → Option α) : Option α := do
  match ← field? fields name with
  | none => return absent
  | some node => read node

/-- The routing of a name. -/
def routing? (name : String) : Option Routing :=
  if name == "merged" then some .merged else if name == "split" then some .split else none

/-- Whether a node with a tag of its own says nothing more. -/
def saysNothing (text : String) (style : Style) : Bool :=
  style == .plain && (text.isEmpty || Document.isNull text)

/-- A node as a routing: its text, or its tag if it has one of its own and says nothing else. -/
def readRouting (document : Document) (node : Nat) : Option Routing :=
  match document.piece? node with
  | some (.scalar text style tag) =>
      match tag.map String.toList with
      | some ('!' :: name) => if saysNothing text style then routing? (String.ofList name) else none
      | _ => routing? text
  | _ => none

/-- A node as limits. -/
def readLimits (document : Document) (node : Nat) : Option Limits := do
  let fields ← document.fields? node
  let maxMemoryBytes ←
    readField fields "max_memory_bytes" defaultMemoryBytes document.number?
  let fuelPerRun ← readField fields "fuel_per_run" none document.optionalNumber?
  return { maxMemoryBytes, fuelPerRun }

/-- The settings of a document. -/
def ofDocument? (document : Document) : Option Settings := do
  let fields ← document.fields? 0
  let default : Settings := {}
  let guest ← readField fields "module" default.guest document.text?
  let routing ← readField fields "streams" default.routing (readRouting document)
  let limits ← readField fields "limits" default.limits (readLimits document)
  return { guest, routing, limits }

/-- Refuse limits under which no guest could work. -/
def validate (settings : Settings) : Except SettingsError Unit :=
  if settings.limits.maxMemoryBytes < pageSize then .error .memoryTooSmall
  else if settings.limits.fuelPerRun = some 0 then .error .noFuel
  else .ok ()

/-- The settings of a YAML text. -/
def ofYaml (text : String) : Except SettingsError Settings := do
  match Document.ofText? text >>= ofDocument? with
  | none => .error .malformed
  | some settings =>
      settings.validate
      return settings

/-- The settings in a file. -/
def ofFile (tree : FileTree) (path : String) : Except SettingsError Settings := do
  let text ← (tree.readText path).mapError .unreadable
  let settings ← ofYaml text
  return { settings with file := some path }

/-- The path of the guest module.  A relative one is seen from the directory of the settings'
file. -/
def guestPath (settings : Settings) : String :=
  if Path.isAbsolute settings.guest then settings.guest
  else
    match settings.file.bind Path.parent? with
    | some directory => Path.join directory settings.guest
    | none => settings.guest

end Settings
end SandboxHost
