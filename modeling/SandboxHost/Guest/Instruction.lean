import SandboxHost.Guest.Service

/-!
# Performing instructions

What the functions of a guest come down to: metered work, reads and changes of the machine, and
calls of the host's services.  An instruction answers with a word or stops the guest.  Work is
metered at the entry of a function and at each round of a loop; running out traps there.  Statements
add to the cost without looking at the budget.
-/

namespace SandboxHost
namespace Guest

/-- The little-endian octets of a word. -/
def octetsOfWord (word : UInt32) : List UInt8 :=
  [word.toUInt8, (word >>> 8).toUInt8, (word >>> 16).toUInt8, (word >>> 24).toUInt8]

/-- The word of little-endian octets. -/
def wordOfOctets (octets : List UInt8) : UInt32 :=
  octets.foldr (fun octet word => word <<< 8 ||| octet.toUInt32) 0

namespace Instruction

/-- The answer of an instruction and the state after it, which is also there if the guest stops.  An
instruction that has nothing to tell answers zero. -/
def perform (env : Env) (state : State) : Instruction → Except Stop UInt32 × State
  | spend cost => (.ok 0, { state with machine := state.machine.spend cost })
  | meter cost =>
      let machine := state.machine.spend cost
      (if machine.fuel = some 0 then .error (.trap .fuel) else .ok 0, { state with machine })
  | global name => (.ok (state.machine.word name), state)
  | pages => (.ok state.machine.pages, state)
  | tableSize => (.ok (state.machine.table.getD 0).toUInt32, state)
  | load address count =>
      match state.machine.load address count with
      | .ok octets => (.ok (wordOfOctets octets), state)
      | .error cause => (.error (.trap cause), state)
  | growMemory extra =>
      let (answer, machine) := state.machine.growMemory env.limits extra
      (.ok answer, { state with machine })
  | growTable extra =>
      let (answer, machine) := state.machine.growTable env.limits extra
      (.ok answer, { state with machine })
  | assign name value =>
      (.ok 0, { state with machine := state.machine.assign name (.word value) })
  | store address octets =>
      match state.machine.store address octets with
      | .ok machine => (.ok 0, { state with machine })
      | .error cause => (.error (.trap cause), state)
  | write stream span =>
      match writtenBy env state.machine stream span with
      | .ok fragment => (.ok 0, { state with log := state.log.push fragment })
      | .error refusal => (.error (.refused refusal), state)
  | readClock name =>
      (.ok 0, { state with machine := state.machine.assign name (.double env.clock) })

end Instruction

/-- Perform the instructions one after the other, until they end or the guest stops. -/
def Behavior.run (env : Env) (state : State) : Behavior → Except Stop UInt32 × State
  | .done value => (.ok value, state)
  | .stop cause => (.error (.trap cause), state)
  | .step instruction next =>
      match instruction.perform env state with
      | (.ok answer, state) => (next answer).run env state
      | (.error cause, state) => (.error cause, state)

end Guest
end SandboxHost
