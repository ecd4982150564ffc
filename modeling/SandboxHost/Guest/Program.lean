import SandboxHost.Guest.Behavior

/-!
# Guest programs

The language of guests: expressions on 32-bit words, statements, and the program that offers an
allocator, a release function and an entry to the host.  Code that is made of other parts than these
comes in as its behavior.
-/

namespace SandboxHost
namespace Guest

/-- Operations on two words. -/
inductive BinaryOp
  | add | sub | mul | divU | divS | remU | and | or | xor | shl | shrU
  | eq | ne | ltU | gtU | leU | geU | ltS | gtS
  deriving DecidableEq, Repr

/-- Expressions, each of which yields a word. -/
inductive Expr
  | word (value : UInt32)
  /-- The address that the function at work was given. -/
  | frameStart
  /-- The length that the function at work was given. -/
  | frameLength
  | global (name : String)
  | pages
  | tableSize
  | binary (op : BinaryOp) (left right : Expr)
  | load8 (address : Expr)
  | load32 (address : Expr)
  /-- Grow memory by pages: the old size, or all ones on refusal. -/
  | growMemory (extra : Expr)
  /-- Grow the table by elements: the old size, or all ones on refusal. -/
  | growTable (extra : Expr)
  | alloc (length : Expr)
  deriving DecidableEq, Repr

inductive Stmt
  | skip
  | seq (first second : Stmt)
  /-- Ask the host to write a span of memory to a stream. -/
  | write (stream : Stream) (ptr len : Expr)
  /-- Ask the host for the time and keep it in a global double word. -/
  | readClock (name : String)
  | assign (name : String) (value : Expr)
  | store8 (address value : Expr)
  | store32 (address value : Expr)
  | branch (condition : Expr) (yes no : Stmt)
  | loop (condition : Expr) (body : Stmt)
  /-- Leave the function with a value, where it has one. -/
  | leave (value : Expr)
  | abort
  | release (ptr len : Expr)
  | enter (ptr len : Expr)
  /-- Code of any other shape: leave the function with the value of what `code` does with the
  arguments. -/
  | other (code : Span → Behavior)

/-- Statements one after the other. -/
def Stmt.ofList (stmts : List Stmt) : Stmt :=
  stmts.foldr .seq .skip

/-- What a global holds. -/
inductive Value
  | word (value : UInt32)
  | double (value : Int64)
  deriving DecidableEq, Repr

/-- Types of values that functions take and give back. -/
inductive ValueType
  | i32 | i64 | f32 | f64 | v128 | funcref | externref
  deriving DecidableEq, Repr

def ValueType.name : ValueType → String
  | .i32 => "i32"
  | .i64 => "i64"
  | .f32 => "f32"
  | .f64 => "f64"
  | .v128 => "v128"
  | .funcref => "funcref"
  | .externref => "externref"

structure FunctionType where
  params : List ValueType
  results : List ValueType
  deriving DecidableEq, Repr

def FunctionType.render (type : FunctionType) : String :=
  let clause (head : String) (types : List ValueType) : String :=
    if types.isEmpty then "" else s!" ({head}" ++ String.join (types.map (" " ++ ·.name)) ++ ")"
  "(func" ++ clause "param" type.params ++ clause "result" type.results ++ ")"

/-- What a program asks its host for under a name. -/
inductive Demand
  | function (type : FunctionType)
  | global
  | memory
  | table
  deriving DecidableEq, Repr

/-- One import of a program. -/
structure Import where
  /-- The module it is asked from. -/
  source : String
  /-- The name in that module. -/
  name : String
  /-- What it has to be. -/
  demand : Demand
  deriving DecidableEq, Repr

/-- What stands under one of the names that the host looks for. -/
inductive Offer
  /-- What the name promises. -/
  | own
  | nothing
  | global
  | memory
  | function (type : FunctionType)
  deriving DecidableEq, Repr

/-- Initial and largest size of a memory, in pages. -/
structure MemoryType where
  /-- Pages at the start. -/
  minimum : Nat
  /-- The most pages, if there is such a bound. -/
  maximum : Option Nat := none
  deriving DecidableEq, Repr

/-- Octets to be copied into memory before the program starts. -/
structure Segment where
  /-- Address of the first octet. -/
  address : UInt32
  /-- What is copied. -/
  octets : List UInt8
  deriving DecidableEq, Repr

structure Program where
  memory : Option MemoryType := some { minimum := 1 }
  /-- Globals with their first values.  A name that begins with `_` is not offered to the host. -/
  globals : List (String × Value) := []
  /-- Initial memory contents, copied in order. -/
  data : List Segment := []
  /-- Elements of the table at the start, if there is one. -/
  table : Option Nat := none
  alloc : Stmt := .skip
  free : Stmt := .skip
  run : Stmt := .skip
  /-- Body of the function that runs when an instance is made, if there is one. -/
  start : Option Stmt := none
  /-- Everything asked of the host, in order. -/
  imports : List Import := []
  /-- What stands under each of the names that the host looks for. -/
  offers : Entry → Offer := fun _ => .own

namespace Program

/-- The type that a function must have to be called under a name; the memory has none. -/
def entryType : Entry → FunctionType
  | .memory => ⟨[], []⟩
  | .memAlloc => ⟨[.i32], [.i32]⟩
  | .memFree => ⟨[.i32, .i32], []⟩
  | .runCodeApi => ⟨[.i32, .i32], []⟩

/-- A global is offered to the host unless its name begins with an underscore. -/
def isPublic (name : String) : Bool :=
  name.toList.head? != some '_'

/-- Whether something stands under an entry's name. -/
def offersEntry (program : Program) (entry : Entry) : Bool :=
  match entry, program.offers entry with
  | _, .nothing => false
  | .memory, .own => program.memory.isSome
  | _, _ => true

/-- The names a program offers, in no particular order. -/
def exports (program : Program) : List String :=
  ((program.globals.map (·.1)).filter isPublic) ++
    (([.memory, .memAlloc, .memFree, .runCodeApi] : List Entry).filter program.offersEntry).map
      Entry.name

/-- Whether a function can be called under an entry's name. -/
def callable (program : Program) (entry : Entry) : Except Refusal Unit :=
  match program.offers entry with
  | .own => .ok ()
  | .function type =>
      if type = entryType entry then .ok () else .error (.missing entry .otherType)
  | .nothing | .global | .memory => .error (.missing entry .noFunction)

/-- Whether the parts of a program fit together: memory sizes within reach, and at most one
memory. -/
def wellFormed (program : Program) : Bool :=
  let imported := (program.imports.filter (·.demand = .memory)).length
  match program.memory with
  | none => imported ≤ 1
  | some type =>
      imported = 0 && type.minimum ≤ 65536 &&
        match type.maximum with
        | none => true
        | some maximum => maximum ≤ 65536 && type.minimum ≤ maximum

/-- The program without anything in it. -/
def empty : Program :=
  { memory := none, offers := fun _ => .nothing }

end Program
end Guest
end SandboxHost
