import SandboxHost.Output

/-!
# What a transcript holds

A transcript that began empty holds the texts of the fragments added to it, joined in their order:
all of them in one text if streams are merged, those of each stream in a text of its own if not.
-/

namespace SandboxHost

/-- The texts of some fragments, joined. -/
def Fragment.joined (fragments : List Fragment) : String :=
  String.join (fragments.map Fragment.text)

theorem Fragment.joined_append (front back : List Fragment) :
    joined (front ++ back) = joined front ++ joined back := by
  rw [joined, List.map_append, String.join_append]
  rfl

theorem Fragment.joined_eq_empty {fragments : List Fragment} :
    joined fragments = "" ↔ ∀ fragment ∈ fragments, fragment.text = "" := by
  induction fragments with
  | nil => simp [joined]
  | cons next later ih =>
      have first : joined (next :: later) = next.text ++ joined later := by simp [joined]
      rw [first, String.append_eq_empty_iff, ih, List.forall_mem_cons]

namespace Transcript

/-- The transcript of some fragments. -/
def collected (routing : Routing) (fragments : List Fragment) : Transcript :=
  match routing with
  | .merged => ⟨.merged, Fragment.joined fragments, ""⟩
  | .split =>
      ⟨.split, Fragment.joined (fragments.filter (·.stream = .stdout)),
        Fragment.joined (fragments.filter (·.stream = .stderr))⟩

theorem appendAll_append (transcript : Transcript) (front back : List Fragment) :
    transcript.appendAll (front ++ back) = (transcript.appendAll front).appendAll back :=
  List.foldl_append

/-- The last fragment stands at the end of the text it belongs to. -/
theorem append_collected (routing : Routing) (fragments : List Fragment) (last : Fragment) :
    (collected routing fragments).append last = collected routing (fragments ++ [last]) := by
  obtain ⟨stream, text⟩ := last
  cases routing with
  | merged =>
      simp [collected, append, put, Routing.route, Fragment.joined, String.join_append]
  | split =>
      cases stream <;>
        simp [collected, append, put, Routing.route, Fragment.joined, String.join_append]

theorem appendAll_collected (routing : Routing) (front back : List Fragment) :
    (collected routing front).appendAll back = collected routing (front ++ back) := by
  induction back generalizing front with
  | nil => rw [List.append_nil]; rfl
  | cons next later ih =>
      rw [List.append_cons, ← ih, ← append_collected]
      rfl

theorem routing_appendAll (transcript : Transcript) (fragments : List Fragment) :
    (transcript.appendAll fragments).routing = transcript.routing := by
  induction fragments generalizing transcript with
  | nil => rfl
  | cons next later ih => exact (ih _).trans (routing_append transcript next)

/-- The main text grows by the texts of the fragments that are kept on its stream. -/
theorem contents_appendAll (transcript : Transcript) (fragments : List Fragment) :
    (transcript.appendAll fragments).contents = transcript.contents ++
      Fragment.joined (fragments.filter (transcript.routing.route ·.stream = .stdout)) := by
  induction fragments generalizing transcript with
  | nil => simp [appendAll, Fragment.joined]
  | cons next later ih =>
      refine (ih (transcript.append next)).trans ?_
      rw [routing_append, List.filter_cons]
      cases kept : transcript.routing.route next.stream <;>
        simp [append, put, kept, Fragment.joined, String.append_assoc]

@[simp]
theorem routing_collected (routing : Routing) (fragments : List Fragment) :
    (collected routing fragments).routing = routing := by
  cases routing <;> rfl

/-- A transcript is empty exactly if there was no text in any fragment. -/
theorem isEmpty_collected (routing : Routing) (fragments : List Fragment) :
    (collected routing fragments).isEmpty ↔ ∀ fragment ∈ fragments, fragment.text = "" := by
  cases routing with
  | merged => simp [collected, isEmpty, Fragment.joined_eq_empty]
  | split =>
      simp only [collected, isEmpty, Bool.and_eq_true, String.isEmpty_iff,
        Fragment.joined_eq_empty, List.mem_filter, decide_eq_true_eq]
      constructor
      · rintro ⟨stdout, stderr⟩ fragment member
        cases stream : fragment.stream with
        | stdout => exact stdout fragment ⟨member, stream⟩
        | stderr => exact stderr fragment ⟨member, stream⟩
      · intro empty
        exact ⟨fun fragment found => empty fragment found.1,
          fun fragment found => empty fragment found.1⟩

/-- While streams are merged the texts of fragments stand one behind the other. -/
theorem appendAll_of_merged {transcript : Transcript} (merged : transcript.routing = .merged)
    (fragments : List Fragment) :
    transcript.appendAll fragments =
      { transcript with contents := transcript.contents ++ Fragment.joined fragments } := by
  obtain ⟨routing, contents, stderr⟩ := transcript
  obtain rfl : routing = .merged := merged
  induction fragments generalizing contents with
  | nil => simp [appendAll, Fragment.joined]
  | cons next later ih =>
      have first : (⟨.merged, contents, stderr⟩ : Transcript).append next =
          ⟨.merged, contents ++ next.text, stderr⟩ := rfl
      rw [appendAll, List.foldl_cons, first]
      refine (ih _).trans ?_
      simp [Fragment.joined, String.append_assoc]

/-- While streams are merged fragments count for the one fragment of their texts together. -/
theorem appendAll_eq_append {transcript : Transcript} (merged : transcript.routing = .merged)
    {fragments : List Fragment} {text : String} (whole : Fragment.joined fragments = text)
    (stream : Stream) : transcript.appendAll fragments = transcript.append ⟨stream, text⟩ := by
  have single : Fragment.joined [⟨stream, text⟩] = text := by simp [Fragment.joined]
  rw [appendAll_of_merged merged, whole, ← single, ← appendAll_of_merged merged, single]
  rfl

theorem collected_nil (routing : Routing) : collected routing [] = new routing := by
  cases routing <;> rfl

end Transcript
end SandboxHost
