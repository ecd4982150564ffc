import SandboxHost.Proofs.Session.Custody

/-!
# Loans side by side

A borrower can hold any number of loans and gives them back in any order, whatever addresses the
guest lends.  Requests are numbered, so that two loans of the same span stay apart.  The calls made
for a request tell all that became of it, and the spans lent are those given back together with
those still held.
-/

namespace SandboxHost
namespace Loan

open Guest

/-- What a borrower does. -/
inductive Errand
  | borrow (length : UInt32)
  /-- Give back what the request with a number brought. -/
  | release (number : Nat)
  deriving DecidableEq, Repr

/-- What became of a request. -/
inductive Entry
  | refused (fault : Fault)
  | held (loan : Loan)
  /-- The loan was given back, with this outcome. -/
  | over (loan : Loan) (outcome : Except Fault Unit)

/-- The entry of a request that was just answered. -/
def Entry.ofAnswer : Except Fault Loan → Entry
  | .ok loan => .held loan
  | .error fault => .refused fault

/-- The span that is still held. -/
def Entry.held? : Entry → Option Span
  | .held loan => some loan.span
  | .refused _ | .over .. => none

/-- What a borrower knows. -/
structure Ledger where
  machine : Machine
  /-- The requests, in order. -/
  entries : List Entry := []
  /-- The calls made, in order, each with the number of the request it was made for. -/
  calls : List (Nat × Call) := []

namespace Ledger

/-- Run an errand.  Only what is held can be given back. -/
def act (env : Env) (ledger : Ledger) : Errand → Ledger
  | .borrow length =>
      let (answer, call) := Loan.borrow env ledger.machine length
      { machine := call.left
        entries := ledger.entries ++ [.ofAnswer answer]
        calls := ledger.calls ++ [(ledger.entries.length, call)] }
  | .release number =>
      match ledger.entries[number]? with
      | some (.held loan) =>
          let (outcome, call) := loan.release env ledger.machine
          { machine := call.left
            entries := ledger.entries.set number (.over loan outcome)
            calls := ledger.calls ++ [(number, call)] }
      | _ => ledger

/-- Run errands in order. -/
def after (env : Env) (ledger : Ledger) (errands : List Errand) : Ledger :=
  errands.foldl (act env) ledger

/-- The calls made for one request. -/
def callsFor (ledger : Ledger) (number : Nat) : List Call :=
  (ledger.calls.filter (·.1 = number)).map (·.2)

/-- The spans that calls of the allocator brought. -/
def lent (ledger : Ledger) : List Span :=
  ledger.calls.filterMap (·.2.lent?)

/-- The spans that the release function was called with. -/
def returned (ledger : Ledger) : List Span :=
  ledger.calls.filterMap (·.2.returned?)

/-- The spans that are still held. -/
def held (ledger : Ledger) : List Span :=
  ledger.entries.filterMap Entry.held?

end Ledger

/-- What became of a request, if there was one with that number, as the calls made for it tell. -/
inductive Account (env : Env) : Option Entry → List Call → Prop
  | none : Account env none []
  /-- The allocator stopped early. -/
  | stopped (length : UInt32) (stop : Stop) (asked : Call) (genuine : asked.Genuine env)
      (asks : asked.callee = .alloc length) (answer : asked.outcome = .error stop) :
      Account env (some (.refused (.helperStopped .memAlloc stop))) [asked]
  /-- The allocator gave nothing. -/
  | null (length : UInt32) (asked : Call) (genuine : asked.Genuine env)
      (asks : asked.callee = .alloc length) (answer : asked.outcome = .ok 0) :
      Account env (some (.refused (.outOfMemory length))) [asked]
  | held (length ptr : UInt32) (asked : Call) (genuine : asked.Genuine env)
      (asks : asked.callee = .alloc length) (answer : asked.outcome = .ok ptr)
      (nonzero : ptr ≠ 0) :
      Account env (some (.held ⟨⟨ptr, length⟩⟩)) [asked]
  | over (length ptr : UInt32) (asked freed : Call) (genuine : asked.Genuine env)
      (asks : asked.callee = .alloc length) (answer : asked.outcome = .ok ptr)
      (nonzero : ptr ≠ 0) (released : freed.Genuine env)
      (frees : freed.callee = .free ptr length) :
      Account env (some (.over ⟨⟨ptr, length⟩⟩ (ofRelease freed.outcome))) [asked, freed]

variable {env : Env}

/-- A request that was just made has its account. -/
theorem account_borrow (env : Env) (machine : Machine) (length : UInt32) :
    Account env (some (.ofAnswer (borrow env machine length).1))
      [(borrow env machine length).2] := by
  have genuine := genuine_perform env (.alloc length) machine
  simp only [borrow]
  cases answer : (Call.perform env (.alloc length) machine).outcome with
  | error stop => exact .stopped length stop _ genuine rfl answer
  | ok ptr =>
      by_cases zero : ptr = 0
      · subst zero
        exact .null length _ genuine rfl answer
      · simpa only [ofOutcome, if_neg zero] using .held length ptr _ genuine rfl answer zero

/-- Giving back what is held completes the account. -/
theorem Account.release {loan : Loan} {calls : List Call}
    (account : Account env (some (.held loan)) calls) (machine : Machine) :
    Account env (some (.over loan (loan.release env machine).1))
      (calls ++ [(loan.release env machine).2]) := by
  cases account with
  | held length ptr asked genuine asks answer nonzero =>
      exact .over length ptr asked _ genuine asks answer nonzero (genuine_perform ..) rfl

namespace Ledger

theorem act_release {ledger : Ledger} {number : Nat} {loan : Loan}
    (held : ledger.entries[number]? = some (.held loan)) :
    ledger.act env (.release number) =
      { machine := (loan.release env ledger.machine).2.left
        entries := ledger.entries.set number (.over loan (loan.release env ledger.machine).1)
        calls := ledger.calls ++ [(number, (loan.release env ledger.machine).2)] } := by
  simp only [act, held]

theorem act_release_of_not_held {ledger : Ledger} {number : Nat}
    (absent : ∀ loan, ledger.entries[number]? ≠ some (.held loan)) :
    ledger.act env (.release number) = ledger := by
  simp only [act]

theorem getElem?_concat_of_ne {entries : List Entry} {number : Nat} (entry : Entry)
    (other : entries.length ≠ number) : (entries ++ [entry])[number]? = entries[number]? := by
  rcases Nat.lt_or_gt_of_ne other with beyond | before
  · rw [List.getElem?_eq_none (Nat.le_of_lt beyond), List.getElem?_eq_none]
    rw [List.length_append]
    exact beyond
  · exact List.getElem?_append_left before

theorem callsFor_concat (ledger : Ledger) (machine : Machine) (entries : List Entry)
    (number other : Nat) (call : Call) :
    callsFor ⟨machine, entries, ledger.calls ++ [(other, call)]⟩ number =
      ledger.callsFor number ++ if other = number then [call] else [] := by
  simp only [callsFor, List.filter_append, List.map_append]
  by_cases same : other = number <;> simp [same]

/-- The account of each request stays true. -/
theorem account_act {ledger : Ledger}
    (accounts : ∀ number, Account env ledger.entries[number]? (ledger.callsFor number))
    (errand : Errand) (number : Nat) :
    Account env (ledger.act env errand).entries[number]?
      ((ledger.act env errand).callsFor number) := by
  cases errand with
  | borrow length =>
      simp only [act, callsFor_concat]
      by_cases fresh : ledger.entries.length = number
      · subst fresh
        have nothing := accounts ledger.entries.length
        rw [List.getElem?_eq_none (Nat.le_refl _)] at nothing
        generalize ledger.callsFor ledger.entries.length = calls at nothing
        cases nothing
        simpa using account_borrow env ledger.machine length
      · rw [if_neg fresh, List.append_nil]
        rw [getElem?_concat_of_ne _ fresh]
        exact accounts number
  | release released =>
      by_cases found : ∃ loan, ledger.entries[released]? = some (.held loan)
      · obtain ⟨loan, held⟩ := found
        rw [act_release held, callsFor_concat]
        by_cases same : released = number
        · subst same
          have account := accounts released
          rw [held] at account
          rw [List.getElem?_set_self (List.getElem?_eq_some_iff.mp held).1, if_pos rfl]
          exact account.release ledger.machine
        · rw [List.getElem?_set_ne same, if_neg same, List.append_nil]
          exact accounts number
      · rw [act_release_of_not_held fun loan held => found ⟨loan, held⟩]
        exact accounts number

/-- What a request brought is held. -/
theorem lent?_borrow (machine : Machine) (length : UInt32) :
    (Loan.borrow env machine length).2.lent? =
      (Entry.ofAnswer (Loan.borrow env machine length).1).held? := by
  have callee : (Call.perform env (.alloc length) machine).callee = .alloc length := rfl
  simp only [Loan.borrow, Call.lent?, callee]
  cases (Call.perform env (.alloc length) machine).outcome with
  | error stop => rfl
  | ok ptr => by_cases zero : ptr = 0 <;> simp [ofOutcome, zero, Entry.ofAnswer, Entry.held?]

/-- What is given back was among what is held. -/
theorem held_perm {entries : List Entry} {number : Nat} {loan : Loan}
    (held : entries[number]? = some (.held loan)) (outcome : Except Fault Unit) :
    (entries.filterMap Entry.held?).Perm
      (loan.span :: (entries.set number (.over loan outcome)).filterMap Entry.held?) := by
  induction entries generalizing number with
  | nil => cases held
  | cons entry later ih =>
      cases number with
      | zero =>
          obtain rfl := Option.some.inj held
          exact .refl _
      | succ number =>
          rw [List.set_cons_succ, filterMap_cons_eq_append, filterMap_cons_eq_append]
          exact ((ih held).append_left entry.held?.toList).trans List.perm_middle

theorem filterMap_concat {α β : Type} (pick : α → Option β) (earlier : List α) (last : α) :
    (earlier ++ [last]).filterMap pick = earlier.filterMap pick ++ (pick last).toList := by
  rw [List.filterMap_append, filterMap_cons_eq_append, List.filterMap_nil, List.append_nil]

/-- What was lent stays accounted for. -/
theorem lent_perm_act {ledger : Ledger}
    (conserved : ledger.lent.Perm (ledger.returned ++ ledger.held)) (errand : Errand) :
    (ledger.act env errand).lent.Perm
      ((ledger.act env errand).returned ++ (ledger.act env errand).held) := by
  cases errand with
  | borrow length =>
      have asks : (Loan.borrow env ledger.machine length).2.returned? = none := rfl
      simp only [act, lent, returned, Ledger.held, filterMap_concat, lent?_borrow, asks,
        Option.toList_none, List.append_nil, ← List.append_assoc]
      exact conserved.append_right _
  | release number =>
      by_cases found : ∃ loan, ledger.entries[number]? = some (.held loan)
      · obtain ⟨loan, held⟩ := found
        have lends : (loan.release env ledger.machine).2.lent? = none := rfl
        have frees : (loan.release env ledger.machine).2.returned? = some loan.span := rfl
        rw [act_release held]
        simp only [lent, returned, Ledger.held, filterMap_concat, lends, frees,
          Option.toList_none, Option.toList_some, List.append_nil, List.append_assoc,
          List.singleton_append]
        exact conserved.trans ((held_perm held _).append_left _)
      · rw [act_release_of_not_held fun loan held => found ⟨loan, held⟩]
        exact conserved

/-! ## Many errands -/

theorem account_after {ledger : Ledger}
    (accounts : ∀ number, Account env ledger.entries[number]? (ledger.callsFor number))
    (errands : List Errand) (number : Nat) :
    Account env (ledger.after env errands).entries[number]?
      ((ledger.after env errands).callsFor number) := by
  induction errands generalizing ledger with
  | nil => exact accounts number
  | cons errand later ih => exact ih (account_act accounts errand)

theorem lent_perm_after {ledger : Ledger}
    (conserved : ledger.lent.Perm (ledger.returned ++ ledger.held)) (errands : List Errand) :
    (ledger.after env errands).lent.Perm
      ((ledger.after env errands).returned ++ (ledger.after env errands).held) := by
  induction errands generalizing ledger with
  | nil => exact conserved
  | cons errand later ih => exact ih (lent_perm_act conserved errand)

end Ledger

/-- **Each span lent is given back at most once and is held until then.**  A request is one call of
the allocator, and brings a loan exactly if the guest answers with an address; giving a loan back is
one call of the release function with the very words of the loan, after which the loan is over,
whatever the guest made of it.  Those are all calls that are made.  So the spans lent are, each as
often as it was lent, those given back and those still held. -/
theorem lent_perm_returned_held (env : Env) (machine : Machine) (errands : List Errand) :
    let ledger := ({ machine } : Ledger).after env errands
    (∀ number, Account env ledger.entries[number]? (ledger.callsFor number)) ∧
    ledger.lent.Perm (ledger.returned ++ ledger.held) ∧
    (∀ length, ∃ call : Call,
      call.Genuine env ∧ call.entered = ledger.machine ∧ call.callee = .alloc length ∧
      ledger.act env (.borrow length) =
        { machine := call.left
          entries := ledger.entries ++
            [match call.outcome with
              | .error stop => .refused (.helperStopped .memAlloc stop)
              | .ok ptr =>
                  if ptr = 0 then .refused (.outOfMemory length) else .held ⟨⟨ptr, length⟩⟩]
          calls := ledger.calls ++ [(ledger.entries.length, call)] }) ∧
    (∀ number loan, ledger.entries[number]? = some (.held loan) → ∃ call : Call,
      call.Genuine env ∧ call.entered = ledger.machine ∧
      call.callee = .free loan.span.ptr loan.span.len ∧
      ledger.act env (.release number) =
        { machine := call.left
          entries := ledger.entries.set number (.over loan (ofRelease call.outcome))
          calls := ledger.calls ++ [(number, call)] }) ∧
    (∀ number, (∀ loan, ledger.entries[number]? ≠ some (.held loan)) →
      ledger.act env (.release number) = ledger) ∧
    (∀ stop : Stop, (Fault.helperStopped .memAlloc stop).message =
      "guest trapped: " ++ ("memAlloc: " ++ stop.message)) ∧
    ∀ span : Span, Span.ofSigned span.ptr.toInt32 span.len.toInt32 = span := by
  intro ledger
  refine ⟨Ledger.account_after (fun _ => .none) errands, Ledger.lent_perm_after (.refl _) errands,
    fun length => ⟨_, genuine_perform env (.alloc length) ledger.machine, rfl, rfl, ?_⟩,
    fun number loan held => ⟨_, genuine_perform env (.free loan.span.ptr loan.span.len)
      ledger.machine, rfl, rfl, Ledger.act_release held⟩,
    fun number => Ledger.act_release_of_not_held, fun _ => rfl, fun _ => rfl⟩
  simp only [Ledger.act, Loan.borrow]
  congr 3
  cases (Call.perform env (.alloc length) ledger.machine).outcome with
  | error stop => rfl
  | ok ptr => by_cases zero : ptr = 0 <;> simp [ofOutcome, zero, Entry.ofAnswer]

/-- The guest lends one address above all signed words again and again, but nothing of more than a
hundred octets, and stops when something is given back. -/
def stubbornProgram : Program where
  alloc := .branch (.binary .gtU .frameLength (.word 100)) (.leave (.word 0))
    (.leave (.word 0x80000000))
  free := .abort

theorem lent_perm_returned_held_stubbornProgram :
    let env : Env := ⟨stubbornProgram, none, 0⟩
    let ledger := ({ machine := { memory := none, globals := [], table := none } } : Ledger).after
      env [.borrow 5, .borrow 7, .borrow 200, .borrow 5, .release 3, .release 3, .release 2]
    [⟨0x80000000, 5⟩, ⟨0x80000000, 7⟩, ⟨0x80000000, 5⟩].Perm
      ([⟨0x80000000, 5⟩] ++ ledger.held) ∧
    ∃ call : Call, call.callee = .free 0x80000000 7 ∧
      (ledger.act env (.release 1)).entries =
        ledger.entries.set 1 (.over ⟨⟨0x80000000, 7⟩⟩ (ofRelease call.outcome)) := by
  intro env ledger
  obtain ⟨-, conserved, -, release, -⟩ := lent_perm_returned_held env
    { memory := none, globals := [], table := none }
    [.borrow 5, .borrow 7, .borrow 200, .borrow 5, .release 3, .release 3, .release 2]
  have lent_eq : ledger.lent = [⟨0x80000000, 5⟩, ⟨0x80000000, 7⟩, ⟨0x80000000, 5⟩] := by
    decide +kernel
  have returned_eq : ledger.returned = [⟨0x80000000, 5⟩] := by decide +kernel
  have held : ledger.entries[1]? = some (.held ⟨⟨0x80000000, 7⟩⟩) := by rfl
  rw [lent_eq, returned_eq] at conserved
  obtain ⟨call, -, -, callee, performed⟩ := release 1 _ held
  have entries := congrArg Ledger.entries performed
  dsimp only at entries
  exact ⟨conserved, call, callee, entries⟩

end Loan
end SandboxHost
