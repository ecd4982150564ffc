import SandboxHost.Guest.Service

/-!
# Loading and linking programs

A program is loaded from a file's contents and linked against the services.  Linking first asks
whether every import has the name of a service, in the order of the imports, and only then whether
each has the service's type.
-/

namespace SandboxHost
namespace Guest

/-- Why a program does not come to run. -/
inductive LoadFailure
  /-- The contents are no program, or its parts do not fit together. -/
  | notCompiled
  | unknownImport (source name : String)
  /-- An import has a service's name, but not its type. -/
  | incompatibleImport (wanted : Import) (granted : FunctionType)
  | memoryTooLarge (pages : Nat)
  | tableTooLarge (elements : Nat)
  /-- Copying the initial data or running the start function stopped early. -/
  | stopped (stop : Stop)
  deriving DecidableEq, Repr

/-- How an import's demand differs from a function that is granted. -/
def Demand.mismatch (demand : Demand) (granted : FunctionType) : String :=
  match demand with
  | .function wanted =>
      "types incompatible: expected type `" ++ wanted.render ++ "`, found type `" ++
        granted.render ++ "`"
  | .global => "expected global, but found function"
  | .memory => "expected memory, but found function"
  | .table => "expected table, but found function"

def LoadFailure.message : LoadFailure → String
  | .notCompiled => "module compilation failed: the contents are no program"
  | .unknownImport source name =>
      s!"instantiation failed: unknown import: `{source}::{name}` has not been defined"
  | .incompatibleImport wanted granted =>
      s!"instantiation failed: incompatible import type for `{wanted.source}::{wanted.name}`: " ++
        wanted.demand.mismatch granted
  | .memoryTooLarge pages =>
      s!"instantiation failed: memory minimum size of {pages} pages exceeds memory limits"
  | .tableTooLarge elements =>
      s!"instantiation failed: table minimum size of {elements} elements exceeds table limits"
  | .stopped stop => "instantiation failed: " ++ stop.message

/-- What a file can hold for the loader. -/
inductive Artifact
  | octets (octets : List UInt8)
  | program (program : Program)

/-- The header that opens every program file. -/
def header : List UInt8 :=
  [0x00, 0x61, 0x73, 0x6D, 0x01, 0x00, 0x00, 0x00]

/-- The program of a file's contents.  Of plain octets only the bare header is a program, the empty
one. -/
def compile : Artifact → Except LoadFailure Program
  | .octets octets => if octets = header then .ok .empty else .error .notCompiled
  | .program program => if program.wellFormed then .ok program else .error .notCompiled

/-- Fail at an import whose name no service has. -/
def checkName (wanted : Import) : Except LoadFailure Unit :=
  if (Service.find? wanted.source wanted.name).isSome then .ok ()
  else .error (.unknownImport wanted.source wanted.name)

/-- Fail at an import that has a service's name and another type. -/
def checkType (wanted : Import) : Except LoadFailure Unit :=
  match Service.find? wanted.source wanted.name with
  | none => .ok ()
  | some service =>
      if wanted.demand = .function service.type then .ok ()
      else .error (.incompatibleImport wanted service.type)

/-- Whether the services satisfy all imports: names first, then types. -/
def link (imports : List Import) : Except LoadFailure Unit := do
  imports.forM checkName
  imports.forM checkType

end Guest
end SandboxHost
