import SandboxHost.Guest.Machine
import SandboxHost.Text.Utf8

/-!
# Services of the host

The three functions that a guest may import.  A write looks up the memory again at each call, reads
exactly the span it was given at the memory's present size, decodes it and adds it to the log.
Nothing else changes.
-/

namespace SandboxHost
namespace Guest

/-- The module name under which the services are offered. -/
def servicesModule : String := "env"

inductive Service
  | write (stream : Stream)
  | clock
  deriving DecidableEq, Repr

namespace Service

def name : Service → String
  | .write .stdout => "writeStdout"
  | .write .stderr => "writeStderr"
  | .clock => "getTimestamp"

def type : Service → FunctionType
  | .write _ => ⟨[.i32, .i32], []⟩
  | .clock => ⟨[], [.i64]⟩

def all : List Service :=
  [.write .stdout, .write .stderr, .clock]

/-- The service of a module and a name. -/
def find? (source name : String) : Option Service :=
  if source = servicesModule then all.find? (·.name = name) else none

/-- The import that asks for a service. -/
def asImport (service : Service) : Import :=
  ⟨servicesModule, service.name, .function service.type⟩

end Service

/-- What a write of a span of guest memory adds to the log. -/
def writtenBy (env : Env) (machine : Machine) (stream : Stream) (span : Span) :
    Except Refusal Fragment := do
  let memory ← memoryOf env.program machine
  let octets ← memory.read span
  return ⟨stream, Utf8.decode octets⟩

end Guest
end SandboxHost
