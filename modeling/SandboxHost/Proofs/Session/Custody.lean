import SandboxHost.Proofs.Session.Course

/-!
# Custody of borrowed spans

The host owes the guest at most one span at a time.  A monitor follows the calls that the host makes
and refuses a call that is out of turn: an entry with a span that was not just lent, a release of
something else than what is owed, a second request before the release.  It accepts the calls of any
history of a session.
-/

namespace SandboxHost

open Guest

namespace Guest.Call

/-- The span that a call brought the host, if it was a call of the allocator that gave something. -/
def lent? (call : Call) : Option Span :=
  match call.callee, call.outcome with
  | .alloc length, .ok ptr => if ptr = 0 then none else some ⟨ptr, length⟩
  | _, _ => none

/-- The span that a call gave back, if it was a call of the release function. -/
def returned? (call : Call) : Option Span :=
  match call.callee with
  | .free ptr length => some ⟨ptr, length⟩
  | _ => none

end Guest.Call

/-- What the host has of the guest between two calls. -/
inductive Custody
  /-- Nothing. -/
  | free
  /-- A span that the entry was not called with yet. -/
  | lent (span : Span)
  /-- A span that the entry was called with. -/
  | used (span : Span)
  deriving DecidableEq, Repr

namespace Custody

/-- The span that is owed. -/
def owed : Custody → List Span
  | .free => []
  | .lent span | .used span => [span]

/-- What the host has after a call, or nothing at all if the call is out of turn. -/
def step (custody : Custody) (call : Call) : Option Custody :=
  match custody, call.callee with
  | .free, .alloc _ => some (call.lent?.elim .free .lent)
  | .lent span, .run ptr length => if span = ⟨ptr, length⟩ then some (.used span) else none
  | .lent span, .free ptr length | .used span, .free ptr length =>
      if span = ⟨ptr, length⟩ then some .free else none
  | _, _ => none

/-- What the host has after some calls, none of them out of turn. -/
def run (custody : Custody) (calls : List Call) : Option Custody :=
  calls.foldlM step custody

theorem run_append (custody : Custody) (front back : List Call) :
    custody.run (front ++ back) = (custody.run front).bind fun middle => middle.run back := by
  simp only [run, List.foldlM_append]
  rfl

/-- The span owed before a call and the span lent by it are the span given back by it and the span
owed after it. -/
theorem owed_step {custody later : Custody} {call : Call}
    (accepted : custody.step call = some later) :
    custody.owed ++ call.lent?.toList = call.returned?.toList ++ later.owed := by
  unfold step at accepted
  split at accepted
  · rename_i length callee
    obtain rfl := Option.some.inj accepted
    cases lent : call.lent? <;> simp [Call.returned?, callee, owed]
  · rename_i span ptr length callee
    split at accepted
    · obtain rfl := Option.some.inj accepted
      simp [Call.returned?, Call.lent?, callee, owed]
    · simp at accepted
  · rename_i span ptr length callee
    split at accepted
    · rename_i same
      obtain rfl := Option.some.inj accepted
      simp [Call.returned?, Call.lent?, callee, owed, same]
    · simp at accepted
  · rename_i span ptr length callee
    split at accepted
    · rename_i same
      obtain rfl := Option.some.inj accepted
      simp [Call.returned?, Call.lent?, callee, owed, same]
    · simp at accepted
  · simp at accepted

/-- In accepted calls the spans given back are, in order, the spans lent. -/
theorem owed_run {custody later : Custody} {calls : List Call}
    (accepted : custody.run calls = some later) :
    custody.owed ++ calls.filterMap Call.lent? = calls.filterMap Call.returned? ++ later.owed := by
  induction calls generalizing custody with
  | nil =>
      obtain rfl := Option.some.inj accepted
      simp
  | cons call calls ih =>
      simp only [run, List.foldlM_cons, Option.bind_eq_bind, Option.bind_eq_some_iff] at accepted
      obtain ⟨middle, first, rest⟩ := accepted
      rw [filterMap_cons_eq_append, filterMap_cons_eq_append, ← List.append_assoc,
        owed_step first, List.append_assoc, ih rest, List.append_assoc]

end Custody

namespace Session

variable {session : Session}

theorem Course.custody_calls {octets : List UInt8} {exchange : Exchange}
    (course : Course session octets exchange) :
    Custody.free.run exchange.calls = some .free := by
  have callee : (session.asked octets).callee = .alloc octets.length.toUInt32 := rfl
  cases course with
  | stopped stop answer =>
      simp [Custody.run, Custody.step, callee, Call.lent?, answer]
  | null answer =>
      simp [Custody.run, Custody.step, callee, Call.lent?, answer]
  | outside ptr memory freed answer nonzero here outside frees =>
      obtain rfl := frees
      simp [Custody.run, Custody.step, callee, Call.lent?, answer, nonzero, Call.perform]
  | entered ptr memory ran freed answer nonzero here fits enters frees =>
      obtain rfl := frees
      obtain rfl := enters
      simp [Custody.run, Custody.step, callee, Call.lent?, answer, nonzero, Call.perform]

/-- The calls of a run leave the host with nothing of the guest. -/
theorem Ready.custody_exchange (ready : session.Ready) (source : String) :
    Custody.free.run (session.exchange source).calls = some .free := by
  rcases ready.still_or_course source with ⟨outcome, still⟩ | course
  · rw [still]
    rfl
  · exact course.custody_calls

/-- So do the calls of a whole history. -/
theorem Ready.custody_calls (ready : session.Ready) (deeds : List Deed) :
    Custody.free.run (session.calls deeds) = some .free := by
  induction deeds generalizing session with
  | nil => rfl
  | cons deed later ih =>
      have rest := ih (ready.act deed)
      cases deed with
      | run source =>
          simp only [calls, exchanges, List.flatMap_cons] at rest ⊢
          rw [Custody.run_append, ready.custody_exchange source]
          exact rest
      | clear => exact rest

/-- **A run borrows a span, enters and gives the span back.**  It calls the allocator, the entry and
the release function in this order and stops short only where the span it would need is not there.
What it leaves is what these calls left.  Whatever was lent is given back, and nothing else is. -/
theorem staging_protocol (reachable : session.Reachable) :
    (∀ source, session.Recorded source) ∧
    (∀ source, (Utf8.encode source).length < Exchange.sourceBound →
      ((Utf8.encode source).length = 0 →
        (session.exchange source).calls = [] ∧ session.run source = (.ok (), session)) ∧
      ((Utf8.encode source).length ≠ 0 →
        ∃ (length : UInt32) (asked : Call) (later : List Call),
          length.toNat = (Utf8.encode source).length ∧
          (session.exchange source).calls = asked :: later ∧
          (∀ call ∈ asked :: later, call.Genuine session.env) ∧
          asked.entered = session.refueled session.machine ∧
          asked.callee = .alloc length ∧
          later.map Call.callee =
            match asked.outcome with
            | .error _ => []
            | .ok ptr =>
                if ptr = 0 then []
                else if Span.Fits ⟨ptr, length⟩ asked.left.memorySize then
                  [.run ptr length, .free ptr length]
                else [.free ptr length])) ∧
    ∀ deeds,
      Custody.free.run (session.calls deeds) = some .free ∧
      (session.calls deeds).filterMap Call.returned? =
        (session.calls deeds).filterMap Call.lent? := by
  have ready := reachable.ready
  refine ⟨ready.recorded, fun source short => ⟨fun empty => ?_, fun nonempty => ?_⟩,
    fun deeds => ?_⟩
  · simp [run, exchange_of_empty empty, Exchange.fragments, Exchange.report, Host.emitAll,
      Transcript.appendAll]
  · have course := ready.course nonempty short
    have length_eq := toNat_length short
    generalize Utf8.encode source = octets at course length_eq
    generalize session.exchange source = exchange at course ⊢
    have genuine := genuine_perform session.env
    refine ⟨octets.length.toUInt32, session.asked octets, ?_⟩
    cases course with
    | stopped stop answer =>
        exact ⟨[], length_eq, rfl, by simp [asked, genuine], rfl, rfl, by simp [answer]⟩
    | null answer =>
        exact ⟨[], length_eq, rfl, by simp [asked, genuine], rfl, rfl, by simp [answer]⟩
    | outside ptr memory freed answer nonzero here outside frees =>
        obtain rfl := frees
        refine ⟨_, length_eq, rfl, by simp [asked, genuine], rfl, rfl, ?_⟩
        simp [answer, nonzero, Machine.memorySize, here, outside, Call.perform]
    | entered ptr memory ran freed answer nonzero here fits enters frees =>
        obtain rfl := frees
        obtain rfl := enters
        refine ⟨_, length_eq, rfl, by simp [asked, genuine], rfl, rfl, ?_⟩
        simp [answer, nonzero, Machine.memorySize, here, fits, Call.perform]
  · have accepted := ready.custody_calls deeds
    exact ⟨accepted, by simpa [Custody.owed] using (Custody.owed_run accepted).symm⟩

/-- The guest lends one address for everything and writes what it is given. -/
def echoSession : Session :=
  ofBodies (.leave (.word 1024)) .skip (.write .stdout .frameStart .frameLength)

theorem staging_protocol_echoSession :
    (∃ (length : UInt32) (asked : Call) (later : List Call),
      length.toNat = 2 ∧ (echoSession.exchange "hi").calls = asked :: later ∧
        asked.callee = .alloc length) ∧
    echoSession.run "" = (.ok (), echoSession) ∧
    (echoSession.calls [.run "hi", .clear, .run "", .run "ho!"]).filterMap Call.returned? =
      [⟨1024, 2⟩, ⟨1024, 3⟩] := by
  have reachable : echoSession.Reachable := reachable_ofBodies ..
  obtain ⟨-, each, history⟩ := staging_protocol reachable
  obtain ⟨length, asked, later, length_eq, calls, -, -, callee, -⟩ :=
    (each "hi" (by decide +kernel)).2 (by decide +kernel)
  have empty := (each "" (by decide +kernel)).1 (by decide +kernel)
  refine ⟨⟨length, asked, later, ?_, calls, callee⟩, empty.2, ?_⟩
  · rw [length_eq]
    decide +kernel
  · rw [(history _).2]
    decide +kernel

end Session
end SandboxHost
