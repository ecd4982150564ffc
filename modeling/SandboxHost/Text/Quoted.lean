import SandboxHost.Text.Printable

/-!
# Quoted texts

Two written forms of texts: between double quotes for messages, and as JSON strings for reports.
-/

namespace SandboxHost
namespace Text

/-- The digits of a code point, in lower-case hexadecimal. -/
def hexDigits (code : Nat) : List Char :=
  Nat.toDigits 16 code

/-- A character inside a quoted text of a message. -/
def quotedChar (c : Char) : List Char :=
  match c with
  | '"' => ['\\', '"']
  | '\\' => ['\\', '\\']
  | '\n' => ['\\', 'n']
  | '\r' => ['\\', 'r']
  | '\t' => ['\\', 't']
  | '\x00' => ['\\', '0']
  | c =>
      if isPrintable c then [c]
      else ['\\', 'u', '\x7b'] ++ hexDigits c.toNat ++ ['\x7d']

/-- A text between double quotes, as messages show it. -/
def quoted (text : String) : String :=
  String.ofList ('"' :: text.toList.flatMap quotedChar ++ ['"'])

/-- A character inside a JSON string. -/
def jsonChar (c : Char) : List Char :=
  match c with
  | '"' => ['\\', '"']
  | '\\' => ['\\', '\\']
  | '\x08' => ['\\', 'b']
  | '\x0C' => ['\\', 'f']
  | '\n' => ['\\', 'n']
  | '\r' => ['\\', 'r']
  | '\t' => ['\\', 't']
  | c =>
      if c < ' ' then
        '\\' :: 'u' :: (hexDigits c.toNat).leftpad 4 '0'
      else [c]

/-- A text as a JSON string. -/
def json (text : String) : String :=
  String.ofList ('"' :: text.toList.flatMap jsonChar ++ ['"'])

end Text
end SandboxHost
