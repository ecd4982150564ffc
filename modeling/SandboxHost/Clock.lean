import Std.Time.DateTime.Timestamp

/-!
# The system's clock

The time that guests are told when the program runs.
-/

namespace SandboxHost

/-- Milliseconds since the beginning of 1970, as the system's clock shows them. -/
def currentMilliseconds : IO Int64 := do
  let now ← Std.Time.Timestamp.now
  return Int64.ofInt now.toMillisecondsSinceUnixEpoch.val

end SandboxHost
