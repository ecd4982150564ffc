/-!
# Lines

Cutting a sequence after each of its separators, on octets and on characters alike, and the lines of
a text.
-/

namespace SandboxHost

/-- The parts of a sequence that end at a separator, in order, and what follows the last one. -/
def terminated {α : Type} (separates : α → Bool) (items : List α) : List (List α) × List α :=
  let parts := items.splitOnP separates
  (parts.dropLast, parts.getLast?.getD [])

/-- Characters without a single carriage return at their end. -/
def dropReturn (chars : List Char) : List Char :=
  if chars.getLast? = some '\r' then chars.dropLast else chars

/-- The lines of a text.  Each ends at a line feed, before which one carriage return is dropped;
what follows the last line feed is a line of its own unless it is empty, and is kept as it is. -/
def lines (text : String) : List String :=
  let (whole, rest) := terminated (· == '\n') text.toList
  whole.map (fun line => String.ofList (dropReturn line)) ++
    if rest.isEmpty then [] else [String.ofList rest]

end SandboxHost
