import Mathlib.Data.List.DropRight
import SandboxHost.Output.Desk
import SandboxHost.Proofs.Output

/-!
# One transcript, many handles

All handles at a desk show one transcript, which is what it would be if everything were written and
cleared through one of them.  A snapshot shows that transcript as it was when the snapshot was
taken, and then what was written to the snapshot itself.
-/

namespace SandboxHost
namespace Desk

/-- What is done at a desk. -/
inductive Deed
  | append (handle : Nat) (fragment : Fragment)
  | clear (handle : Nat)
  | share (handle : Nat)
  | snapshot (handle : Nat)
  | appendSnapshot (index : Nat) (fragment : Fragment)
  deriving DecidableEq, Repr

namespace Deed

/-- Whether the handle or the snapshot that a deed names is there. -/
def Possible (desk : Desk) : Deed → Prop
  | append handle _ | clear handle | share handle | snapshot handle => handle < desk.handles.size
  | appendSnapshot index _ => index < desk.snapshots.size

instance (desk : Desk) : (deed : Deed) → Decidable (deed.Possible desk)
  | append .. | clear _ | share _ | snapshot _ | appendSnapshot .. => Nat.decLt _ _

def isClear : Deed → Bool
  | clear _ => true
  | _ => false

def isShare : Deed → Bool
  | share _ => true
  | _ => false

def isSnapshot : Deed → Bool
  | snapshot _ => true
  | _ => false

/-- What was written through a handle. -/
def appended? : Deed → Option Fragment
  | append _ fragment => some fragment
  | _ => none

/-- What was written to one snapshot. -/
def addedTo? (index : Nat) : Deed → Option Fragment
  | appendSnapshot written fragment => if written = index then some fragment else none
  | _ => none

/-- What a deed does to the one transcript of all handles. -/
def onShared (transcript : Transcript) : Deed → Transcript
  | append _ fragment => transcript.append fragment
  | clear _ => transcript.clear
  | share _ | snapshot _ | appendSnapshot .. => transcript

end Deed

/-- Do a deed. -/
def act (desk : Desk) : Deed → Desk
  | .append handle fragment => desk.append handle fragment
  | .clear handle => desk.clear handle
  | .share handle => desk.share handle
  | .snapshot handle => desk.snapshot handle
  | .appendSnapshot index fragment => desk.appendSnapshot index fragment

/-- Do deeds in order. -/
def after (desk : Desk) (deeds : List Deed) : Desk :=
  deeds.foldl act desk

/-- Whether each deed names what is there when it is done. -/
def Sound : Desk → List Deed → Prop
  | _, [] => True
  | desk, deed :: later => deed.Possible desk ∧ Sound (desk.act deed) later

instance decidableSound : (desk : Desk) → (deeds : List Deed) → Decidable (Sound desk deeds)
  | _, [] => .isTrue trivial
  | desk, deed :: later =>
      have := decidableSound (desk.act deed) later
      inferInstanceAs (Decidable (deed.Possible desk ∧ Sound (desk.act deed) later))

/-- The transcript that everything is written to and cleared in, whichever handle is used. -/
def single (routing : Routing) (deeds : List Deed) : Transcript :=
  deeds.foldl Deed.onShared (.new routing)

/-- What was written through handles since the last clearing. -/
def sinceClear (deeds : List Deed) : List Fragment :=
  (deeds.rtakeWhile (!·.isClear)).filterMap Deed.appended?

variable {desk : Desk} {transcript : Transcript}

theorem after_append (desk : Desk) (front back : List Deed) :
    desk.after (front ++ back) = (desk.after front).after back :=
  List.foldl_append

theorem sound_append {front back : List Deed} :
    Sound desk (front ++ back) ↔ Sound desk front ∧ Sound (desk.after front) back := by
  induction front generalizing desk with
  | nil => simp [Sound, after]
  | cons deed later ih =>
      rw [List.cons_append, Sound, Sound, ih, and_assoc]
      rfl

/-! ## What the handles show -/

theorem single_concat (routing : Routing) (deeds : List Deed) (deed : Deed) :
    single routing (deeds ++ [deed]) = deed.onShared (single routing deeds) := by
  rw [single, List.foldl_append]
  rfl

theorem sinceClear_concat (deeds : List Deed) (deed : Deed) :
    sinceClear (deeds ++ [deed]) =
      if deed.isClear then [] else sinceClear deeds ++ deed.appended?.toList := by
  unfold sinceClear
  cases clears : deed.isClear with
  | true => rw [List.rtakeWhile_concat_neg _ _ _ (by simp [clears])]; rfl
  | false =>
      rw [List.rtakeWhile_concat_pos _ _ _ (by simp [clears]), List.filterMap_append]
      cases written : deed.appended? <;> simp [written]

/-- The one transcript is that of what was written since the last clearing. -/
theorem single_eq_collected (routing : Routing) (deeds : List Deed) :
    single routing deeds = .collected routing (sinceClear deeds) := by
  induction deeds using List.reverseRecOn with
  | nil => exact (Transcript.collected_nil routing).symm
  | append_singleton earlier deed ih =>
      rw [single_concat, sinceClear_concat, ih]
      cases deed with
      | append handle fragment => exact Transcript.append_collected ..
      | clear handle =>
          simp [Deed.onShared, Deed.isClear, Transcript.clear, Transcript.collected_nil]
      | share handle | snapshot handle | appendSnapshot index fragment =>
          simp [Deed.onShared, Deed.isClear, Deed.appended?]

/-- All handles stand for one transcript. -/
structure Shared (desk : Desk) (transcript : Transcript) : Prop where
  cells : desk.cells = #[transcript]
  handles : ∀ cell ∈ desk.handles, cell = 0

theorem shared_new (routing : Routing) : Shared (.new routing) (.new routing) :=
  ⟨rfl, by simp [new]⟩

theorem Shared.cell_eq (shared : Shared desk transcript) {handle : Nat}
    (present : handle < desk.handles.size) : desk.handles[handle]? = some 0 := by
  rw [Array.getElem?_eq_getElem present, shared.handles _ (Array.getElem_mem present)]

theorem Shared.show?_eq (shared : Shared desk transcript) {handle : Nat}
    (present : handle < desk.handles.size) : desk.show? handle = some transcript := by
  simp [show?, shared.cell_eq present, shared.cells]

theorem Shared.update (shared : Shared desk transcript) {handle : Nat}
    (present : handle < desk.handles.size) (change : Transcript → Transcript) :
    Shared (desk.update handle change) (change transcript) := by
  simp only [Desk.update, shared.cell_eq present]
  exact ⟨by simp [shared.cells], shared.handles⟩

/-- A deed keeps the handles together. -/
theorem Shared.act (shared : Shared desk transcript) {deed : Deed} (possible : deed.Possible desk) :
    Shared (desk.act deed) (deed.onShared transcript) := by
  cases deed with
  | append handle fragment => exact shared.update possible _
  | clear handle => exact shared.update possible _
  | share handle =>
      simp only [Desk.act, share, shared.cell_eq possible]
      refine ⟨shared.cells, fun cell member => ?_⟩
      rcases Array.mem_push.mp member with old | rfl
      · exact shared.handles cell old
      · rfl
  | snapshot handle =>
      simp only [Desk.act, snapshot, shared.show?_eq possible]
      exact ⟨shared.cells, shared.handles⟩
  | appendSnapshot index fragment => exact ⟨shared.cells, shared.handles⟩

/-- Deeds keep the handles together. -/
theorem Shared.after (shared : Shared desk transcript) {deeds : List Deed}
    (sound : Sound desk deeds) :
    Shared (desk.after deeds) (deeds.foldl Deed.onShared transcript) := by
  induction deeds generalizing desk transcript with
  | nil => exact shared
  | cons deed later ih => exact ih (shared.act sound.1) sound.2

/-! ## What the snapshots show -/

/-- A snapshot that is there changes by what is written to it, and by nothing else. -/
theorem snapshots_act {index : Nat} (shown : desk.snapshots[index]? = some transcript)
    (deed : Deed) :
    (desk.act deed).snapshots[index]? =
      some (transcript.appendAll (deed.addedTo? index).toList) := by
  cases deed with
  | append handle _ | clear handle =>
      simp only [act, append, clear, update]
      cases desk.handles[handle]? <;> exact shown
  | share handle =>
      simp only [act, share]
      cases desk.handles[handle]? <;> exact shown
  | snapshot handle =>
      simp only [act, snapshot]
      cases desk.show? handle with
      | none => exact shown
      | some copy =>
          have present := (Array.getElem?_eq_some_iff.mp shown).1
          rw [Array.getElem?_push_lt present, ← Array.getElem?_eq_getElem present]
          exact shown
  | appendSnapshot written fragment =>
      simp only [act, appendSnapshot, Array.getElem?_modify, shown, Deed.addedTo?]
      by_cases same : written = index <;> simp [same, Transcript.appendAll]

/-- Afterwards a snapshot shows what it showed and all that was written to it. -/
theorem snapshots_after {index : Nat} (shown : desk.snapshots[index]? = some transcript)
    (deeds : List Deed) :
    (desk.after deeds).snapshots[index]? =
      some (transcript.appendAll (deeds.filterMap (Deed.addedTo? index))) := by
  induction deeds generalizing desk transcript with
  | nil => exact shown
  | cons deed later ih =>
      refine (ih (snapshots_act shown deed)).trans ?_
      rw [← Transcript.appendAll_append]
      cases written : deed.addedTo? index <;> simp [written]

/-- Only sharing makes handles and only taking one makes a snapshot. -/
theorem Shared.size_act (shared : Shared desk transcript) {deed : Deed}
    (possible : deed.Possible desk) :
    (desk.act deed).handles.size = desk.handles.size + [deed].countP Deed.isShare ∧
    (desk.act deed).snapshots.size = desk.snapshots.size + [deed].countP Deed.isSnapshot := by
  cases deed with
  | append handle _ | clear handle =>
      simp only [Desk.act, append, clear, Desk.update, shared.cell_eq possible]
      exact ⟨rfl, rfl⟩
  | share handle =>
      simp only [Desk.act, share, shared.cell_eq possible, Array.size_push]
      exact ⟨rfl, rfl⟩
  | snapshot handle =>
      simp only [Desk.act, snapshot, shared.show?_eq possible, Array.size_push]
      exact ⟨rfl, rfl⟩
  | appendSnapshot index fragment => exact ⟨rfl, Array.size_modify⟩

theorem Shared.size_after (shared : Shared desk transcript) {deeds : List Deed}
    (sound : Sound desk deeds) :
    (desk.after deeds).handles.size = desk.handles.size + deeds.countP Deed.isShare ∧
    (desk.after deeds).snapshots.size = desk.snapshots.size + deeds.countP Deed.isSnapshot := by
  induction deeds generalizing desk transcript with
  | nil => exact ⟨rfl, rfl⟩
  | cons deed later ih =>
      obtain ⟨handles, snapshots⟩ := shared.size_act sound.1
      have rest := ih (shared.act sound.1) sound.2
      rw [handles, snapshots, Nat.add_assoc, Nat.add_assoc] at rest
      rwa [← List.singleton_append, List.countP_append, List.countP_append]

/-- A snapshot that is just taken shows what the handles show. -/
theorem Shared.snapshot_taken (shared : Shared desk transcript) {handle : Nat}
    (present : handle < desk.handles.size) :
    (desk.snapshot handle).snapshots[desk.snapshots.size]? = some transcript := by
  simp only [snapshot, shared.show?_eq present]
  exact Array.getElem?_push_size

theorem getElem?_snapshots_act_of_not_added {index : Nat} (present : index < desk.snapshots.size)
    {deed : Deed} (elsewhere : deed.addedTo? index = none) :
    (desk.act deed).snapshots[index]? = desk.snapshots[index]? := by
  have shown := Array.getElem?_eq_getElem present
  rw [snapshots_act shown, elsewhere, shown]
  rfl

/-- **Handles share, snapshots do not.**  Whatever was done, all handles show one transcript, that
of the writes since the last clearing, through whichever handles these were made.  The snapshot
with a number shows what the handles showed when it was taken and then the writes to it alone.
Nothing else changes a snapshot, and writes to a snapshot change nothing else. -/
theorem handles_share_snapshots_keep (routing : Routing) (deeds : List Deed)
    (sound : Sound (.new routing) deeds) :
    let desk := (Desk.new routing).after deeds
    desk.handles.size = deeds.countP Deed.isShare + 1 ∧
    desk.snapshots.size = deeds.countP Deed.isSnapshot ∧
    (∀ handle < desk.handles.size, desk.show? handle = some (single routing deeds)) ∧
    single routing deeds = .collected routing (sinceClear deeds) ∧
    ((single routing deeds).isEmpty ↔ ∀ fragment ∈ sinceClear deeds, fragment.text = "") ∧
    (∀ front handle back, deeds = front ++ .snapshot handle :: back →
      desk.snapshots[front.countP Deed.isSnapshot]? =
        some ((single routing front).appendAll
          (back.filterMap (Deed.addedTo? (front.countP Deed.isSnapshot))))) ∧
    (∀ index < desk.snapshots.size, ∀ deed : Deed, deed.addedTo? index = none →
      (desk.act deed).snapshots[index]? = desk.snapshots[index]?) ∧
    ∀ index fragment handle,
      (desk.act (.appendSnapshot index fragment)).show? handle = desk.show? handle := by
  intro desk
  have shared := (shared_new routing).after sound
  obtain ⟨handles, snapshots⟩ := (shared_new routing).size_after sound
  have collected := single_eq_collected routing deeds
  refine ⟨handles.trans (Nat.add_comm ..), snapshots.trans (Nat.zero_add _),
    fun handle present => shared.show?_eq present, collected,
    collected ▸ Transcript.isEmpty_collected _ _, ?_,
    fun index present deed => getElem?_snapshots_act_of_not_added present, fun _ _ _ => rfl⟩
  rintro front handle back rfl
  obtain ⟨earlier, possible, -⟩ := sound_append.mp sound
  have before := (shared_new routing).after earlier
  have number := ((shared_new routing).size_after earlier).2.trans (Nat.zero_add _)
  have taken := before.snapshot_taken possible
  rw [number] at taken
  have last : desk = ((Desk.new routing).after front).after (.snapshot handle :: back) :=
    after_append ..
  rw [last]
  exact snapshots_after taken back

/-- Two copies are taken of what three handles show, which is cleared in between. -/
def busyDeeds : List Deed :=
  [.append 0 ⟨.stdout, "a"⟩, .share 0, .append 1 ⟨.stderr, "b"⟩, .snapshot 0, .clear 1, .share 1,
    .append 2 ⟨.stdout, "c"⟩, .appendSnapshot 0 ⟨.stderr, "d"⟩, .snapshot 2,
    .appendSnapshot 1 ⟨.stdout, "e"⟩, .append 0 ⟨.stderr, "f"⟩]

theorem handles_share_snapshots_keep_busyDeeds :
    let desk := (Desk.new .split).after busyDeeds
    (∀ handle < 3, desk.show? handle = some ⟨.split, "c", "f"⟩) ∧
    desk.snapshots[0]? = some ⟨.split, "a", "bd"⟩ ∧
    desk.snapshots[1]? = some ⟨.split, "ce", ""⟩ := by
  have sound : Sound (.new .split) busyDeeds := by decide
  obtain ⟨handles, -, shown, -, -, kept, -⟩ := handles_share_snapshots_keep .split busyDeeds sound
  refine ⟨fun handle few => (shown handle (handles ▸ few)).trans ?_,
    (kept (busyDeeds.take 3) 0 (busyDeeds.drop 4) rfl).trans ?_,
    (kept (busyDeeds.take 8) 2 (busyDeeds.drop 9) rfl).trans ?_⟩ <;> decide +kernel

end Desk
end SandboxHost
