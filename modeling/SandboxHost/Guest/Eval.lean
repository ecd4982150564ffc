import SandboxHost.Guest.Instruction
import SandboxHost.Guest.Word

/-!
# Running guest code

The behavior of expressions and statements is given by recursion on their structure, that of loops
on a bound for their rounds, and that of calls on a bound for their nesting.
-/

namespace SandboxHost
namespace Guest

/-- The guest's own functions, with their arguments. -/
inductive Callee
  | alloc (length : UInt32)
  | free (ptr length : UInt32)
  | run (ptr length : UInt32)
  | start
  deriving DecidableEq, Repr

/-- What `ptr` and `len` mean in a body. -/
def Callee.span : Callee → Span
  | .alloc length => ⟨0, length⟩
  | .free ptr length => ⟨ptr, length⟩
  | .run ptr length => ⟨ptr, length⟩
  | .start => ⟨0, 0⟩

def Program.body (program : Program) : Callee → Stmt
  | .alloc _ => program.alloc
  | .free .. => program.free
  | .run .. => program.run
  | .start => program.start.getD .skip

/-- How a statement ends. -/
inductive Flow
  /-- The next statement follows. -/
  | next
  /-- The function is left with a value. -/
  | leave (value : UInt32)
  deriving DecidableEq, Repr

def entryCost : Nat := 1

def roundCost : Nat := 14

def stmtCost : Nat := 5

/-- Rounds after which a loop is cut off. -/
def loopLimit : Nat := 1000000000000000000

/-- Calls that may be nested. -/
def callLimit : Nat := 10000

open Code

/-- The value of an expression.  `call` runs the guest's own functions, and `frame` is what the
function at work was given. -/
def Expr.eval (call : Callee → Code UInt32) (frame : Span) : Expr → Code UInt32
  | .word value => pure value
  | .frameStart => pure frame.ptr
  | .frameLength => pure frame.len
  | .global name => just (.global name)
  | .pages => just .pages
  | .tableSize => just .tableSize
  | .binary op left right => do
      let left ← left.eval call frame
      let right ← right.eval call frame
      match op.apply left right with
      | .ok value => pure value
      | .error cause => stop cause
  | .load8 address => do just (.load (← address.eval call frame) 1)
  | .load32 address => do just (.load (← address.eval call frame) 4)
  | .growMemory extra => do just (.growMemory (← extra.eval call frame))
  | .growTable extra => do just (.growTable (← extra.eval call frame))
  | .alloc length => do call (.alloc (← length.eval call frame))

/-- Run `body` while `condition` is not zero, for at most a number of rounds. -/
def whileNonzero (condition : Code UInt32) (body : Code Flow) : Nat → Code Flow
  | 0 => stop .interrupted
  | rounds + 1 => do
      let _ ← just (.meter roundCost)
      if (← condition) = 0 then pure .next
      else
        match ← body with
        | .next => whileNonzero condition body rounds
        | .leave value => pure (.leave value)

/-- The effect of a statement. -/
def Stmt.exec (call : Callee → Code UInt32) (frame : Span) : Stmt → Code Flow
  | .skip => pure .next
  | .seq first second => do
      match ← first.exec call frame with
      | .next => second.exec call frame
      | .leave value => pure (.leave value)
  | .write stream ptr len => do
      let _ ← just (.spend stmtCost)
      let ptr ← ptr.eval call frame
      let len ← len.eval call frame
      let _ ← just (.write stream ⟨ptr, len⟩)
      pure .next
  | .readClock name => do
      let _ ← just (.spend stmtCost)
      let _ ← just (.readClock name)
      pure .next
  | .assign name value => do
      let _ ← just (.spend stmtCost)
      let value ← value.eval call frame
      let _ ← just (.assign name value)
      pure .next
  | .store8 address value => do
      let _ ← just (.spend stmtCost)
      let address ← address.eval call frame
      let value ← value.eval call frame
      let _ ← just (.store address [value.toUInt8])
      pure .next
  | .store32 address value => do
      let _ ← just (.spend stmtCost)
      let address ← address.eval call frame
      let value ← value.eval call frame
      let _ ← just (.store address (octetsOfWord value))
      pure .next
  | .branch condition yes no => do
      let _ ← just (.spend stmtCost)
      if (← condition.eval call frame) = 0 then no.exec call frame else yes.exec call frame
  | .loop condition body =>
      whileNonzero (condition.eval call frame) (body.exec call frame) loopLimit
  | .leave value => do
      let _ ← just (.spend stmtCost)
      return .leave (← value.eval call frame)
  | .abort => stop .unreachable
  | .release ptr len => do
      let _ ← just (.spend stmtCost)
      let ptr ← ptr.eval call frame
      let len ← len.eval call frame
      let _ ← call (.free ptr len)
      pure .next
  | .enter ptr len => do
      let _ ← just (.spend stmtCost)
      let ptr ← ptr.eval call frame
      let len ← len.eval call frame
      let _ ← call (.run ptr len)
      pure .next
  | .other code => return .leave (← all (code frame))

/-- A call of one of the guest's functions, with calls nested at most to a depth.  A function that
does not leave with a value gives zero. -/
def Program.callAt (program : Program) : Nat → Callee → Code UInt32
  | 0, _ => stop .callStack
  | depth + 1, callee => do
      let _ ← just (.meter entryCost)
      match ← (program.body callee).exec (program.callAt depth) callee.span with
      | .next => pure 0
      | .leave value => pure value

/-- What a call of one of the guest's functions does. -/
def Program.behavior (program : Program) (callee : Callee) : Behavior :=
  program.callAt callLimit callee .done

end Guest
end SandboxHost
