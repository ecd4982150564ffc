import SandboxHost.Memory
import Std.Data.TreeMap.Lemmas

/-!
# Reading what was stored

The octets of a memory after a store, address by address: inside the stretch those that were stored,
outside it those that were there.
-/

namespace SandboxHost
namespace Memory

@[simp]
theorem size_store (memory : Memory) (address : Nat) (octets : List UInt8) :
    (memory.store address octets).size = memory.size :=
  rfl

theorem getD_enter_of_lt (cells : Std.TreeMap Nat UInt8) {address other : Nat}
    (octets : List UInt8) (below : other < address) :
    (enter cells address octets).getD other 0 = cells.getD other 0 := by
  induction octets generalizing cells address with
  | nil => rfl
  | cons octet octets ih =>
      rw [enter, ih _ (by omega), Std.TreeMap.getD_insert]
      simp only [Nat.compare_eq_eq]
      rw [if_neg (by omega)]

theorem getD_enter (cells : Std.TreeMap Nat UInt8) (address other : Nat) (octets : List UInt8) :
    (enter cells address octets).getD other 0 =
      if address ≤ other ∧ other < address + octets.length then octets.getD (other - address) 0
      else cells.getD other 0 := by
  induction octets generalizing cells address with
  | nil =>
      rw [if_neg (by simp only [List.length_nil]; omega)]
      rfl
  | cons octet octets ih =>
      rw [enter]
      rcases Nat.lt_trichotomy other address with below | rfl | above
      · rw [getD_enter_of_lt _ _ (by omega), Std.TreeMap.getD_insert]
        simp only [Nat.compare_eq_eq]
        rw [if_neg (by omega), if_neg (by omega)]
      · rw [getD_enter_of_lt _ _ (by omega), Std.TreeMap.getD_insert_self]
        simp
      · rw [ih, Std.TreeMap.getD_insert]
        obtain ⟨offset, rfl⟩ := Nat.exists_eq_add_of_lt above
        simp only [Nat.compare_eq_eq, List.length_cons]
        rw [show address + offset + 1 - (address + 1) = offset by omega,
          show address + offset + 1 - address = offset + 1 by omega]
        by_cases inside : offset < octets.length
        · rw [if_pos (by omega), if_pos (by omega)]
          simp
        · rw [if_neg (by omega), if_neg (by omega), if_neg (by omega)]

/-- The octet at an address after a store. -/
theorem byteAt_store (memory : Memory) (address other : Nat) (octets : List UInt8) :
    (memory.store address octets).byteAt other =
      if address ≤ other ∧ other < address + octets.length then octets.getD (other - address) 0
      else memory.byteAt other :=
  getD_enter memory.cells address other octets

theorem byteAt_store_outside (memory : Memory) {address other : Nat} {octets : List UInt8}
    (outside : ¬ (address ≤ other ∧ other < address + octets.length)) :
    (memory.store address octets).byteAt other = memory.byteAt other := by
  rw [byteAt_store, if_neg outside]

/-- What was stored is read back. -/
theorem load_store (memory : Memory) (address : Nat) (octets : List UInt8) :
    (memory.store address octets).load address octets.length = octets := by
  apply List.ext_getElem
  · simp [load]
  · intro index _ inside
    simp only [load, List.getElem_map, List.getElem_range', Nat.one_mul]
    rw [byteAt_store, if_pos (by omega), Nat.add_sub_cancel_left]
    simp [inside]

/-- What a stretch holds depends on nothing outside it. -/
theorem load_congr {memory other : Memory} {address length : Nat}
    (same : ∀ place, address ≤ place → place < address + length →
      memory.byteAt place = other.byteAt place) :
    memory.load address length = other.load address length := by
  apply List.map_congr_left
  intro place member
  obtain ⟨above, below⟩ := List.mem_range'_1.mp member
  exact same place above below

/-- The octets of a part of a stretch are a part of the octets of the stretch. -/
theorem load_part (memory : Memory) {address length start count : Nat}
    (inside : start + count ≤ length) :
    memory.load (address + start) count =
      ((memory.load address length).drop start).take count := by
  apply List.ext_getElem
  · simp [load]
    omega
  · intro index _ _
    simp [load, Nat.add_assoc]

/-- A successful read gives the octets of its stretch. -/
theorem eq_load_of_read {memory : Memory} {span : Span} {octets : List UInt8}
    (performed : memory.read span = .ok octets) :
    octets = memory.load span.ptr.toNat span.len.toNat := by
  unfold read at performed
  split at performed
  · exact (Except.ok.inj performed).symm
  · simp at performed

end Memory
end SandboxHost
