import SandboxHost.Guest.Program

/-!
# Arithmetic on words

Words are 32 bits wide and wrap around.  Comparisons yield one or zero.
-/

namespace SandboxHost
namespace Guest

/-- The word for a truth value. -/
def ofBool (truth : Bool) : UInt32 :=
  if truth then 1 else 0

/-- The quotient of two words read as signed numbers, rounded toward zero. -/
def divSigned (left right : UInt32) : Except Trap UInt32 :=
  if right = 0 then .error .divideByZero
  else if left = 0x80000000 ∧ right = 0xFFFFFFFF then .error .overflow
  else .ok (left.toInt32 / right.toInt32).toUInt32

/-- The meaning of an operation.  Divisions fail on zero, and the signed one where its quotient does
not fit. -/
def BinaryOp.apply (op : BinaryOp) (left right : UInt32) : Except Trap UInt32 :=
  match op with
  | .add => .ok (left + right)
  | .sub => .ok (left - right)
  | .mul => .ok (left * right)
  | .divU => if right = 0 then .error .divideByZero else .ok (left / right)
  | .divS => divSigned left right
  | .remU => if right = 0 then .error .divideByZero else .ok (left % right)
  | .and => .ok (left &&& right)
  | .or => .ok (left ||| right)
  | .xor => .ok (left ^^^ right)
  | .shl => .ok (left <<< right)
  | .shrU => .ok (left >>> right)
  | .eq => .ok (ofBool (left == right))
  | .ne => .ok (ofBool (left != right))
  | .ltU => .ok (ofBool (left < right))
  | .gtU => .ok (ofBool (right < left))
  | .leU => .ok (ofBool (left ≤ right))
  | .geU => .ok (ofBool (right ≤ left))
  | .ltS => .ok (ofBool (left.toInt32 < right.toInt32))
  | .gtS => .ok (ofBool (right.toInt32 < left.toInt32))

end Guest
end SandboxHost
