import Mathlib.Algebra.Group.Int.Defs
import Mathlib.Algebra.GroupWithZero.Nat
import SandboxHost.Proofs.Guest.Growth

/-!
# Histories of a memory

A memory is read, written, filled and grown, and any of these can be refused.  What it holds is told
by the accesses that succeeded: at each address stands what the latest of them put there, and zero
where none of them put anything.  Which accesses succeed is told by the size alone.
-/

namespace SandboxHost

/-- Signed words denote a span by their values modulo 2^32. -/
theorem Span.toNat_ofSigned (ptr len : Int32) :
    ((Span.ofSigned ptr len).ptr.toNat : Int) = ptr.toInt % 2 ^ 32 ∧
      ((Span.ofSigned ptr len).len.toNat : Int) = len.toInt % 2 ^ 32 := by
  have unsigned (word : Int32) : (word.toUInt32.toNat : Int) = word.toInt % 2 ^ 32 := by
    have bound := word.toBitVec.isLt
    rw [← Int32.toInt_toBitVec, ← Int32.toNat_toBitVec, BitVec.toInt_eq_toNat_cond]
    split <;> omega
  exact ⟨unsigned ptr, unsigned len⟩

namespace Memory

open Guest

/-- What can be asked of a memory. -/
inductive Access
  | read (span : Span)
  /-- Store octets, of which there are fewer than addresses. -/
  | write (ptr : UInt32) (octets : List UInt8) (short : octets.length < UInt32.size)
  | fill (span : Span) (octet : UInt8)
  /-- Grow by a number of pages. -/
  | grow (extra : Nat)

/-- What a memory answers. -/
inductive Answer
  | octets (octets : List UInt8)
  | stored
  /-- The size in pages before the growth. -/
  | grown (pages : Nat)
  | refused (refusal : Refusal)
  | notGrown

namespace Access

/-- The span that an access touches. -/
def span? : Access → Option Span
  | .read span | .fill span _ => some span
  | .write ptr octets short => some ⟨ptr, .ofNatLT octets.length short⟩
  | .grow _ => none

/-- What an access puts at an address if it succeeds. -/
def octetAt? : Access → Nat → Option UInt8
  | .write ptr octets _, address =>
      if ptr.toNat ≤ address then octets[address - ptr.toNat]? else none
  | .fill span octet, address =>
      if span.ptr.toNat ≤ address ∧ address < span.ptr.toNat + span.len.toNat then some octet
      else none
  | .read _, _ | .grow _, _ => none

/-- The pages that an access adds if it succeeds. -/
def extra : Access → Nat
  | .grow extra => extra
  | .read _ | .write .. | .fill .. => 0

end Access

/-- Whether an access succeeded. -/
def Answer.isSuccess : Answer → Bool
  | .octets _ | .stored | .grown _ => true
  | .refused _ | .notGrown => false

/-- Answer an access: the answer, and the memory afterwards. -/
def perform (allows : Nat → Bool) (memory : Memory) : Access → Answer × Memory
  | .read span =>
      match memory.read span with
      | .ok octets => (.octets octets, memory)
      | .error refusal => (.refused refusal, memory)
  | .write ptr octets _ =>
      match memory.write ptr octets with
      | .ok written => (.stored, written)
      | .error refusal => (.refused refusal, memory)
  | .fill span octet =>
      match memory.fill span octet with
      | .ok filled => (.stored, filled)
      | .error refusal => (.refused refusal, memory)
  | .grow extra =>
      match memory.grow? allows extra with
      | some grown => (.grown memory.pages, grown)
      | none => (.notGrown, memory)

/-- The memory after some accesses. -/
def after (allows : Nat → Bool) (memory : Memory) (history : List Access) : Memory :=
  history.foldl (fun memory access => (memory.perform allows access).2) memory

/-- The accesses that succeed, in order. -/
def successes (allows : Nat → Bool) (memory : Memory) : List Access → List Access
  | [] => []
  | access :: later =>
      (if (memory.perform allows access).1.isSuccess then [access] else []) ++
        (memory.perform allows access).2.successes allows later

/-- What the latest of some accesses put at an address, and zero if none put anything there. -/
def latest (past : List Access) (address : Nat) : UInt8 :=
  (past.filterMap (·.octetAt? address)).getLast?.getD 0

/-! ## One access -/

/-- A memory may grow by some pages. -/
def Admits (allows : Nat → Bool) (memory : Memory) (extra : Nat) : Prop :=
  memory.pages + extra ≤ memory.bound ∧ allows ((memory.pages + extra) * pageSize)

instance (allows : Nat → Bool) (memory : Memory) (extra : Nat) :
    Decidable (memory.Admits allows extra) :=
  inferInstanceAs (Decidable (_ ∧ _))

theorem grow?_of_admits {allows : Nat → Bool} {memory : Memory} {extra : Nat}
    (admits : memory.Admits allows extra) :
    memory.grow? allows extra = some { memory with pages := memory.pages + extra } :=
  if_pos admits

theorem grow?_of_not_admits {allows : Nat → Bool} {memory : Memory} {extra : Nat}
    (forbidden : ¬ memory.Admits allows extra) : memory.grow? allows extra = none :=
  if_neg forbidden

/-- The ways that an access can go. -/
inductive Performed (allows : Nat → Bool) (memory : Memory) : Access → Answer → Memory → Prop
  | read (span : Span) (fits : span.Fits memory.size) :
      Performed allows memory (.read span)
        (.octets (memory.load span.ptr.toNat span.len.toNat)) memory
  | written (ptr : UInt32) (octets : List UInt8) (short : octets.length < UInt32.size)
      (fits : Span.Fits ⟨ptr, .ofNatLT octets.length short⟩ memory.size) :
      Performed allows memory (.write ptr octets short) .stored (memory.store ptr.toNat octets)
  | filled (span : Span) (octet : UInt8) (fits : span.Fits memory.size) :
      Performed allows memory (.fill span octet) .stored
        (memory.store span.ptr.toNat (List.replicate span.len.toNat octet))
  | grown (extra : Nat) (admits : memory.Admits allows extra) :
      Performed allows memory (.grow extra) (.grown memory.pages)
        { memory with pages := memory.pages + extra }
  | refused (access : Access) (span : Span) (touches : access.span? = some span)
      (outside : ¬ span.Fits memory.size) :
      Performed allows memory access (.refused (.outOfBounds span memory.size)) memory
  | notGrown (extra : Nat) (forbidden : ¬ memory.Admits allows extra) :
      Performed allows memory (.grow extra) .notGrown memory

variable {allows : Nat → Bool} {memory next : Memory} {access : Access} {answer : Answer}

/-- Every access goes one of these ways. -/
theorem performed (allows : Nat → Bool) (memory : Memory) (access : Access) :
    Performed allows memory access (memory.perform allows access).1
      (memory.perform allows access).2 := by
  cases access with
  | read span =>
      by_cases fits : span.Fits memory.size
      · simpa only [perform, Memory.read, if_pos fits] using .read span fits
      · simpa only [perform, Memory.read, if_neg fits] using .refused _ span rfl fits
  | write ptr octets short =>
      have length_eq : octets.length.toUInt32 = .ofNatLT octets.length short :=
        (UInt32.ofNatLT_eq_ofNat octets.length).symm
      by_cases fits : Span.Fits ⟨ptr, .ofNatLT octets.length short⟩ memory.size
      · simpa only [perform, write, length_eq, if_pos fits] using .written ptr octets short fits
      · simpa only [perform, write, length_eq, if_neg fits] using .refused _ _ rfl fits
  | fill span octet =>
      by_cases fits : span.Fits memory.size
      · simpa only [perform, fill, if_pos fits] using .filled span octet fits
      · simpa only [perform, fill, if_neg fits] using .refused _ span rfl fits
  | grow extra =>
      by_cases admits : memory.Admits allows extra
      · simpa only [perform, grow?_of_admits admits] using .grown extra admits
      · simpa only [perform, grow?_of_not_admits admits] using .notGrown extra admits

namespace Performed

/-- An access to a span succeeds exactly if the span fits. -/
theorem isSuccess_iff (performed : Performed allows memory access answer next) {span : Span}
    (touches : access.span? = some span) : answer.isSuccess ↔ span.Fits memory.size := by
  cases performed with
  | read _ fits | filled _ _ fits | written _ _ _ fits =>
      obtain rfl := Option.some.inj touches
      exact iff_of_true rfl fits
  | refused _ _ same outside =>
      obtain rfl := Option.some.inj (touches.symm.trans same)
      exact iff_of_false Bool.false_ne_true outside
  | grown | notGrown => cases touches

/-- Otherwise the access is refused with the span and the size, and nothing changes. -/
theorem eq_of_outside (performed : Performed allows memory access answer next) {span : Span}
    (touches : access.span? = some span) (outside : ¬ span.Fits memory.size) :
    (answer, next) = (.refused (.outOfBounds span memory.size), memory) := by
  cases performed with
  | read _ fits | filled _ _ fits | written _ _ _ fits =>
      obtain rfl := Option.some.inj touches
      exact absurd fits outside
  | refused _ _ same _ =>
      obtain rfl := Option.some.inj (touches.symm.trans same)
      rfl
  | grown | notGrown => cases touches

theorem eq_of_read {span : Span} (performed : Performed allows memory (.read span) answer next)
    (fits : span.Fits memory.size) :
    (answer, next) = (.octets (memory.load span.ptr.toNat span.len.toNat), memory) := by
  cases performed with
  | read _ _ => rfl
  | refused _ _ same outside =>
      obtain rfl := Option.some.inj same
      exact absurd fits outside

/-- An access that succeeds puts its octets where they belong and leaves all others. -/
theorem byteAt_eq (performed : Performed allows memory access answer next) (address : Nat) :
    next.byteAt address =
      if answer.isSuccess then (access.octetAt? address).getD (memory.byteAt address)
      else memory.byteAt address := by
  cases performed with
  | read | refused | notGrown | grown => rfl
  | written ptr octets short fits =>
      rw [byteAt_store]
      simp only [Answer.isSuccess, Access.octetAt?, if_true]
      by_cases from_ptr : ptr.toNat ≤ address
      · by_cases inside : address - ptr.toNat < octets.length
        · rw [if_pos (by omega), if_pos from_ptr, List.getD_eq_getElem?_getD,
            List.getElem?_eq_getElem inside, Option.getD_some, Option.getD_some]
        · rw [if_neg (by omega), if_pos from_ptr, List.getElem?_eq_none (Nat.not_lt.mp inside),
            Option.getD_none]
      · rw [if_neg (by omega), if_neg from_ptr, Option.getD_none]
  | filled span octet fits =>
      rw [byteAt_store, List.length_replicate]
      simp only [Answer.isSuccess, Access.octetAt?, if_true]
      by_cases covered :
        span.ptr.toNat ≤ address ∧ address < span.ptr.toNat + span.len.toNat
      · rw [if_pos covered, if_pos covered, List.getD_eq_getElem?_getD,
          List.getElem?_replicate_of_lt (by omega), Option.getD_some, Option.getD_some]
      · rw [if_neg covered, if_neg covered, Option.getD_none]

/-- The size becomes larger by the pages added, if any. -/
theorem size_eq (performed : Performed allows memory access answer next) :
    next.size = memory.size + (if answer.isSuccess then access.extra else 0) * pageSize := by
  cases performed with
  | read | refused | notGrown | written | filled => simp [Answer.isSuccess, Access.extra]
  | grown extra admits => exact Nat.add_mul memory.pages extra pageSize

theorem grows (performed : Performed allows memory access answer next) :
    memory.Grows allows next := by
  cases performed with
  | read | refused | notGrown => exact .refl memory
  | written ptr octets short fits =>
      apply grows_store
      simpa [Span.Fits, Span.stop] using fits
  | filled span octet fits =>
      apply grows_store
      rwa [List.length_replicate]
  | grown extra admits => exact grows_of_grow? (grow?_of_admits admits)

end Performed

/-! ## Many accesses -/

theorem latest_concat (past : List Access) (access : Access) (address : Nat) :
    latest (past ++ [access]) address =
      (access.octetAt? address).getD (latest past address) := by
  cases put : access.octetAt? address <;> simp [latest, List.filterMap_append, put]

/-- A memory that is told by some accesses stays told, once those that succeed are added. -/
theorem byteAt_after {past : List Access}
    (told : ∀ address, memory.byteAt address = latest past address)
    (history : List Access) (address : Nat) :
    (memory.after allows history).byteAt address =
      latest (past ++ memory.successes allows history) address := by
  induction history generalizing memory past with
  | nil =>
      rw [successes, List.append_nil]
      exact told address
  | cons access later ih =>
      rw [successes, ← List.append_assoc]
      apply ih
      intro other
      rw [(performed allows memory access).byteAt_eq, told]
      split
      · rw [latest_concat]
      · rw [List.append_nil]

theorem size_after (memory : Memory) (history : List Access) :
    (memory.after allows history).size =
      memory.size + ((memory.successes allows history).map Access.extra).sum * pageSize := by
  induction history generalizing memory with
  | nil => simp [after, successes]
  | cons access later ih =>
      have first := (performed allows memory access).size_eq
      have rest := ih (memory.perform allows access).2
      rw [successes, List.map_append, List.sum_append, Nat.add_mul, ← Nat.add_assoc]
      refine rest.trans ?_
      rw [first]
      cases (memory.perform allows access).1.isSuccess <;> simp

theorem grows_after (memory : Memory) (history : List Access) :
    memory.Grows allows (memory.after allows history) := by
  induction history generalizing memory with
  | nil => exact .refl memory
  | cons access later ih => exact (performed allows memory access).grows.trans (ih _)

/-- **A memory shows the latest of what was put into it.**  An access to a span succeeds exactly if
the span ends within the present size, its end taken as an exact number, and is otherwise refused
with that span and that size and changes nothing.  A read shows at each address what the latest
successful access put there, and zero where none did.  Growing adds zeros and keeps what there was,
or changes nothing. -/
theorem shows_latest_success (allows : Nat → Bool) (pages : Nat) (maximum : Option Nat)
    (history : List Access) :
    let memory := ({ pages, maximum } : Memory).after allows history
    let past := ({ pages, maximum } : Memory).successes allows history
    memory.size = (pages + (past.map Access.extra).sum) * pageSize ∧
    (∀ access span, access.span? = some span →
      ((memory.perform allows access).1.isSuccess ↔
        span.ptr.toNat + span.len.toNat ≤ memory.size) ∧
      (¬ span.ptr.toNat + span.len.toNat ≤ memory.size →
        memory.perform allows access = (.refused (.outOfBounds span memory.size), memory))) ∧
    (∀ span, span.ptr.toNat + span.len.toNat ≤ memory.size →
      memory.perform allows (.read span) =
        (.octets ((List.range' span.ptr.toNat span.len.toNat).map (latest past)), memory)) ∧
    (∀ extra, memory.Admits allows extra →
      ∃ grown, memory.perform allows (.grow extra) = (.grown memory.pages, grown) ∧
        grown.size = memory.size + extra * pageSize ∧
        ∀ address, grown.byteAt address =
          if address < memory.size then memory.byteAt address else 0) ∧
    (∀ extra, ¬ memory.Admits allows extra →
      memory.perform allows (.grow extra) = (.notGrown, memory)) ∧
    (∀ address, memory.byteAt address = latest past address) ∧
    ∀ ptr len : Int32,
      ((Span.ofSigned ptr len).ptr.toNat : Int) = ptr.toInt % 2 ^ 32 ∧
      ((Span.ofSigned ptr len).len.toNat : Int) = len.toInt % 2 ^ 32 := by
  intro memory past
  have blank : ∀ address, ({ pages, maximum } : Memory).byteAt address = latest [] address :=
    fun _ => Std.TreeMap.getD_emptyc
  have told : memory.byteAt = latest past := funext (byteAt_after blank history)
  have clean : memory.Clean := (grows_after _ history).clean fun address _ => blank address
  refine ⟨?_, fun access span touches => ⟨?_, fun outside => ?_⟩, fun span fits => ?_,
    fun extra admits => ?_, fun extra forbidden => ?_, congrFun told, Span.toNat_ofSigned⟩
  · exact (size_after _ history).trans (Nat.add_mul pages _ pageSize).symm
  · exact (performed allows memory access).isSuccess_iff touches
  · exact (performed allows memory access).eq_of_outside touches outside
  · rw [← told]
    exact (performed allows memory (.read span)).eq_of_read fits
  · refine ⟨{ memory with pages := memory.pages + extra }, ?_,
      Nat.add_mul memory.pages extra pageSize, fun address => ?_⟩
    · simp only [perform, grow?_of_admits admits]
    · split
      · rfl
      · rename_i beyond
        exact clean address (Nat.not_lt.mp beyond)
  · simp only [perform, grow?_of_not_admits forbidden]

/-- Writes and fills one over the other at the end of the first page, one of them refused, and a
page more. -/
def overlaps : List Access :=
  [.fill ⟨65530, 6⟩ 7, .write 65534 [1, 2] (by decide), .write 65535 [8, 9] (by decide), .grow 1,
    .write 65535 [3, 4] (by decide)]

theorem shows_latest_success_overlaps :
    let memory := ({ pages := 1, maximum := some 2 } : Memory).after (fun _ => true) overlaps
    (memory.perform (fun _ => true) (.read ⟨65533, 5⟩)).1 = .octets [7, 1, 3, 4, 0] ∧
    (memory.perform (fun _ => true) (.read ⟨131072, 0⟩)).1 = .octets [] ∧
    (memory.perform (fun _ => true) (.fill ⟨4294967295, 2⟩ 5)).1 =
      .refused (.outOfBounds ⟨4294967295, 2⟩ 131072) ∧
    (memory.perform (fun _ => true) (.grow 1)).1 = .notGrown := by
  obtain ⟨size, access, reads, -, forbidden, -⟩ :=
    shows_latest_success (fun _ => true) 1 (some 2) overlaps
  have size_eq := size.trans (show _ = 131072 by decide +kernel)
  have read := reads ⟨65533, 5⟩ (by rw [size_eq]; decide)
  have empty := reads ⟨131072, 0⟩ (by rw [size_eq]; decide)
  have wrapped := (access (.fill ⟨4294967295, 2⟩ 5) _ rfl).2 (by rw [size_eq]; decide)
  refine ⟨?_, congrArg Prod.fst empty, ?_, congrArg Prod.fst (forbidden 1 (by decide +kernel))⟩
  · rw [read]
    exact congrArg Answer.octets (by decide +kernel)
  · rw [wrapped, size_eq]

end Memory
end SandboxHost
