import SandboxHost.Yaml.Document

/-!
# Numbers in YAML

Unsigned numbers of 64 bits: decimal without leading zeros, or with a base in front; a plus sign may
come before either.
-/

namespace SandboxHost
namespace Yaml

/-- The value of digits of a base, of which there must be one at least. -/
def digits? (base : Nat) (digits : List Char) : Option Nat :=
  if digits.isEmpty then none
  else
    digits.foldlM (fun value c => do
      let digit ← hexDigit? c
      if digit < base then some (value * base + digit) else none) 0

/-- The number that a text stands for. -/
def unsigned? (text : String) : Option Nat := do
  let chars := match text.toList with
    | '+' :: rest => rest
    | chars => chars
  let value ← match chars with
    | '0' :: 'x' :: rest => digits? 16 rest
    | '0' :: 'o' :: rest => digits? 8 rest
    | '0' :: 'b' :: rest => digits? 2 rest
    | ['0'] => some 0
    | '0' :: _ => none
    | rest => digits? 10 rest
  if value < UInt64.size then some value else none

namespace Document

/-- A node as a number.  Numbers are plain; a literal block scalar counts if its tag says that it is
an integer. -/
def number? (document : Document) (node : Nat) : Option Nat :=
  match document.piece? node with
  | some (.scalar text .plain _) => unsigned? text
  | some (.scalar text .literal (some "tag:yaml.org,2002:int")) => unsigned? text
  | _ => none

/-- A node as a number or nothing. -/
def optionalNumber? (document : Document) (node : Nat) : Option (Option Nat) :=
  match document.piece? node with
  | some (.scalar text .plain (some "tag:yaml.org,2002:null")) =>
      if isNull text then some none else none
  | some (.scalar text .plain none) =>
      if text.isEmpty || isNull text then some none else (document.number? node).map some
  | _ => (document.number? node).map some

end Document
end Yaml
end SandboxHost
