import SandboxHost.Path

/-!
# What paths name

A path says where to start and which names to follow.  Joining appends the names, taking the parent
drops the last one, and making a path absolute puts the names of the working directory before its
own.
-/

namespace SandboxHost
namespace Path

/-- The names that a path follows from where it starts. -/
def names (path : String) : List String :=
  (components path).filter (!isIdle ·)

/-! ## Components -/

section Components

variable {front back path name : String} {parts : List String}

theorem components_append_slash :
    components (front ++ "/" ++ back) = components front ++ components back := by
  simp only [components, String.toList_append]
  rw [List.append_assoc]
  change ((front.toList ++ '/' :: back.toList).splitOn '/').map String.ofList = _
  rw [List.splitOn_append_cons_self, List.map_append]

@[simp]
theorem names_empty : names "" = [] := by
  decide

theorem names_append_slash : names (front ++ "/" ++ back) = names front ++ names back := by
  rw [names, components_append_slash, List.filter_append]
  rfl

theorem names_slash_append : names ("/" ++ path) = names path := by
  have parts := @names_append_slash "" path
  rwa [names_empty, String.empty_append, List.nil_append] at parts

end Components

/-! ## Joining -/

section Join

variable {directory path : String}

end Join

/-! ## Parents -/

section Parent

variable {path head body last : String} {before : List String}

theorem toString_drop (text : String) (count : Nat) :
    (text.drop count).toString = String.ofList (text.toList.drop count) := by
  have start := (String.Slice.splits_startPos text.toSlice).nextn count
  have cut := (text.toSlice.startPos.nextn count).splits
  have same := (cut.eq start).2
  rwa [String.copy_toSlice] at same

/-- How a path is cut into its head and its body. -/
inductive Cut : String → String → String → Prop
  | rooted (body : String) : Cut ("/" ++ body) "/" body
  | dot : Cut "." "." ""
  | dotted (rest : String) : Cut ("." ++ ("/" ++ rest)) "." ("/" ++ rest)
  | plain (path : String) (relative : isAbsolute path = false) : Cut path "" path

theorem cut (path : String) :
    Cut path (Path.head path) (path.drop (Path.head path).length).toString := by
  rw [toString_drop]
  generalize chars : path.toList = text
  obtain rfl : path = String.ofList text := by simp [← chars]
  unfold Path.head
  rw [String.toList_ofList]
  split
  · rename_i rest
    have path_eq : String.ofList ('/' :: rest) = "/" ++ String.ofList rest :=
      String.toList_injective (by simp)
    rw [path_eq]
    exact .rooted _
  · exact .dot
  · rename_i rest
    have path_eq : String.ofList ('.' :: '/' :: rest) = "." ++ ("/" ++ String.ofList rest) :=
      String.toList_injective (by simp)
    have body_eq : String.ofList (('.' :: '/' :: rest).drop ".".length) =
        "/" ++ String.ofList rest :=
      String.toList_injective (by simp; rfl)
    rw [path_eq, body_eq]
    exact .dotted _
  · rename_i text rooted _ _
    apply Cut.plain
    rw [isAbsolute, beq_eq_false_iff_ne, String.toList_ofList]
    intro first
    obtain ⟨rest, rfl⟩ := List.head?_eq_some_iff.mp first
    exact rooted rest rfl

/-- The part of a body before its last name. -/
def front (before : List String) : String :=
  String.intercalate "/" (before.dropWhile isIdle).reverse

theorem names_dot : names "." = [] := by
  decide

theorem Cut.names_eq (cut : Cut path head body) : names path = names body := by
  cases cut with
  | rooted => exact names_slash_append
  | dot => exact names_dot
  | dotted rest =>
      rw [← String.append_assoc, names_append_slash, names_dot, names_slash_append,
        List.nil_append]
  | plain => rfl

/-- What names nothing around the last name is left out with it. -/
example : parent? "./conf/.//my.yml/" = some "./conf" := by
  decide +kernel

end Parent

/-! ## Absolute paths -/

section Absolute

variable {workingDirectory path whole : String}

/-- Where the absolute form of a path starts. -/
def start (workingDirectory path : String) : String :=
  if !isAbsolute path then workingDirectory
  else if path.toList.take 2 == ['/', '/'] && path.toList.take 3 != ['/', '/', '/'] then "//"
  else "/"

example : absolute? "/work" "..//guests/./a.wasm/" = some "/work/../guests/a.wasm/" := by
  decide +kernel

end Absolute

end Path
end SandboxHost
