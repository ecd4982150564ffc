import SandboxHost.Fault

/-!
# What programs are granted

A program links exactly if all it imports are services of the host, under their names and with their
types.  Otherwise linking fails at one import: the first whose name no service has, or the first of
another type if all names are known.
-/

namespace SandboxHost
namespace Guest

/-- All that a program can import. -/
def granted : List Import :=
  [⟨"env", "writeStdout", .function ⟨[.i32, .i32], []⟩⟩,
    ⟨"env", "writeStderr", .function ⟨[.i32, .i32], []⟩⟩,
    ⟨"env", "getTimestamp", .function ⟨[], [.i64]⟩⟩]

/-- Something is granted under the name of an import. -/
def Import.Known (wanted : Import) : Prop :=
  ∃ grant ∈ granted, grant.source = wanted.source ∧ grant.name = wanted.name

instance (wanted : Import) : Decidable wanted.Known :=
  inferInstanceAs (Decidable (∃ grant ∈ granted, _))

/-- The failure that keeps some imports from being linked.  An unknown name, wherever it stands,
comes before a wrong type. -/
inductive Unlinked (imports : List Import) : LoadFailure → Prop
  | unknown (earlier : List Import) (wanted : Import) (later : List Import)
      (parts : imports = earlier ++ wanted :: later) (known : ∀ other ∈ earlier, other.Known)
      (unknown : ¬ wanted.Known) :
      Unlinked imports (.unknownImport wanted.source wanted.name)
  | incompatible (earlier : List Import) (wanted : Import) (later : List Import)
      (parts : imports = earlier ++ wanted :: later) (known : ∀ other ∈ imports, other.Known)
      (fitting : ∀ other ∈ earlier, other ∈ granted) (unfit : wanted ∉ granted)
      (type : FunctionType) (grant : ⟨wanted.source, wanted.name, .function type⟩ ∈ granted) :
      Unlinked imports (.incompatibleImport wanted type)

/-- The module and the name of the import at which linking failed, if it did. -/
def LoadFailure.import? : LoadFailure → Option (String × String)
  | .unknownImport source name => some (source, name)
  | .incompatibleImport wanted _ => some (wanted.source, wanted.name)
  | _ => none

/-! ## Checks of all items -/

section Checks

variable {ε α : Type} {check : α → Except ε Unit} {item : α} {items : List α} {failure : ε}

theorem forM_cons_of_ok (passed : check item = .ok ()) :
    (item :: items).forM check = items.forM check := by
  change (check item >>= fun _ => items.forM check) = _
  rw [passed]
  rfl

theorem forM_cons_of_error (failed : check item = .error failure) :
    (item :: items).forM check = .error failure := by
  change (check item >>= fun _ => items.forM check) = _
  rw [failed]
  rfl

theorem forM_eq_ok_iff : items.forM check = .ok () ↔ ∀ item ∈ items, check item = .ok () := by
  induction items with
  | nil => exact iff_of_true rfl (List.forall_mem_nil _)
  | cons item items ih =>
      cases checked : check item with
      | error failure => simp [forM_cons_of_error checked, checked]
      | ok passed => rw [forM_cons_of_ok checked, ih, List.forall_mem_cons, and_iff_right checked]

/-- A check of all items fails at the first that does not pass. -/
theorem forM_eq_error_iff :
    items.forM check = .error failure ↔
      ∃ earlier item later, items = earlier ++ item :: later ∧
        (∀ other ∈ earlier, check other = .ok ()) ∧ check item = .error failure := by
  constructor
  · intro failed
    induction items with
    | nil => cases failed
    | cons item items ih =>
        cases checked : check item with
        | error cause =>
            rw [forM_cons_of_error checked] at failed
            exact ⟨[], item, items, rfl, List.forall_mem_nil _, checked.trans failed⟩
        | ok passed =>
            rw [forM_cons_of_ok checked] at failed
            obtain ⟨earlier, last, later, rfl, before, here⟩ := ih failed
            exact ⟨item :: earlier, last, later, rfl,
              List.forall_mem_cons.mpr ⟨checked, before⟩, here⟩
  · rintro ⟨earlier, item, later, rfl, passed, failed⟩
    induction earlier with
    | nil => exact forM_cons_of_error failed
    | cons first earlier ih =>
        obtain ⟨here, others⟩ := List.forall_mem_cons.mp passed
        exact (forM_cons_of_ok here).trans (ih others)

end Checks

/-! ## Services -/

theorem Service.mem_granted_iff {wanted : Import} :
    wanted ∈ granted ↔ ∃ service : Service, service.asImport = wanted := by
  have listed : granted = Service.all.map Service.asImport := rfl
  have complete : ∀ service : Service, service ∈ all := by
    rintro ((_ | _) | _) <;> decide
  rw [listed, List.mem_map]
  exact exists_congr fun service => and_iff_right (complete service)

theorem Service.name_injective {first second : Service} (same : first.name = second.name) :
    first = second := by
  revert same
  rcases first with (_ | _) | _ <;> rcases second with (_ | _) | _ <;> decide

theorem Service.find?_eq_some_iff {source name : String} {service : Service} :
    Service.find? source name = some service ↔
      source = servicesModule ∧ service.name = name := by
  unfold Service.find?
  constructor
  · intro found
    split at found
    · rename_i here
      have named := List.find?_some found
      exact ⟨here, of_decide_eq_true named⟩
    · cases found
  · rintro ⟨rfl, rfl⟩
    rw [if_pos rfl]
    rcases service with (_ | _) | _ <;> decide

theorem Import.known_iff {wanted : Import} :
    wanted.Known ↔ ∃ service, Service.find? wanted.source wanted.name = some service := by
  simp only [Import.Known, Service.mem_granted_iff, Service.find?_eq_some_iff]
  constructor
  · rintro ⟨_, ⟨service, rfl⟩, source, name⟩
    exact ⟨service, source.symm, name⟩
  · rintro ⟨service, source, name⟩
    exact ⟨service.asImport, ⟨service, rfl⟩, source.symm, name⟩

/-! ## Linking -/

section Link

variable {wanted : Import} {service : Service} {imports : List Import} {failure : LoadFailure}

theorem mem_granted_iff_demand
    (found : Service.find? wanted.source wanted.name = some service) :
    wanted ∈ granted ↔ wanted.demand = .function service.type := by
  obtain ⟨source, name⟩ := Service.find?_eq_some_iff.mp found
  rw [Service.mem_granted_iff]
  constructor
  · rintro ⟨other, rfl⟩
    rw [Service.name_injective name]
    rfl
  · intro demand
    refine ⟨service, ?_⟩
    rw [Service.asImport, name, ← source, ← demand]

theorem Import.known_of_mem (member : wanted ∈ granted) : wanted.Known :=
  ⟨wanted, member, rfl, rfl⟩

theorem checkName_of_known (known : wanted.Known) : checkName wanted = .ok () := by
  obtain ⟨service, found⟩ := Import.known_iff.mp known
  rw [checkName, if_pos (Option.isSome_of_eq_some found)]

theorem checkName_of_not_known (unknown : ¬ wanted.Known) :
    checkName wanted = .error (.unknownImport wanted.source wanted.name) := by
  rw [checkName, if_neg]
  rw [Option.isSome_iff_exists, ← Import.known_iff]
  exact unknown

theorem checkName_eq_ok_iff : checkName wanted = .ok () ↔ wanted.Known := by
  by_cases known : wanted.Known
  · exact iff_of_true (checkName_of_known known) known
  · rw [checkName_of_not_known known]
    exact iff_of_false nofun known

theorem checkType_of_found (found : Service.find? wanted.source wanted.name = some service) :
    checkType wanted =
      if wanted.demand = .function service.type then .ok ()
      else .error (.incompatibleImport wanted service.type) := by
  rw [checkType, found]

theorem checkType_eq_ok_iff (known : wanted.Known) :
    checkType wanted = .ok () ↔ wanted ∈ granted := by
  obtain ⟨service, found⟩ := Import.known_iff.mp known
  rw [checkType_of_found found, mem_granted_iff_demand found]
  split <;> simp_all

theorem link_of_names (names : imports.forM checkName = .ok ()) :
    link imports = imports.forM checkType := by
  change (imports.forM checkName >>= fun _ => imports.forM checkType) = _
  rw [names]
  rfl

theorem link_of_unknown (names : imports.forM checkName = .error failure) :
    link imports = .error failure := by
  change (imports.forM checkName >>= fun _ => imports.forM checkType) = _
  rw [names]
  rfl

theorem names_eq_ok_iff :
    imports.forM checkName = .ok () ↔ ∀ wanted ∈ imports, wanted.Known := by
  simp only [forM_eq_ok_iff, checkName_eq_ok_iff]

/-- A program links exactly if each of its imports is granted. -/
theorem link_eq_ok_iff : link imports = .ok () ↔ ∀ wanted ∈ imports, wanted ∈ granted := by
  cases names : imports.forM checkName with
  | ok passed =>
      have known := names_eq_ok_iff.mp names
      rw [link_of_names names, forM_eq_ok_iff]
      exact forall₂_congr fun wanted member => checkType_eq_ok_iff (known wanted member)
  | error failure =>
      rw [link_of_unknown names]
      refine iff_of_false nofun fun all => ?_
      have known := names_eq_ok_iff.mpr fun wanted member => Import.known_of_mem (all wanted member)
      rw [names] at known
      cases known

theorem Unlinked.link_eq (unlinked : Unlinked imports failure) :
    link imports = .error failure := by
  cases unlinked with
  | unknown earlier wanted later parts known unknown =>
      apply link_of_unknown
      rw [forM_eq_error_iff]
      exact ⟨earlier, wanted, later, parts,
        fun other member => checkName_of_known (known other member),
        checkName_of_not_known unknown⟩
  | incompatible earlier wanted later parts known fitting unfit type grant =>
      rw [link_of_names (names_eq_ok_iff.mpr known), forM_eq_error_iff]
      refine ⟨earlier, wanted, later, parts, ?_, ?_⟩
      · intro other member
        have here := fitting other member
        exact (checkType_eq_ok_iff (Import.known_of_mem here)).mpr here
      · have member : wanted ∈ imports := by simp [parts]
        obtain ⟨service, found⟩ := Import.known_iff.mp (known wanted member)
        have same := (@mem_granted_iff_demand ⟨_, _, .function type⟩ service found).mp grant
        rw [checkType_of_found found, if_neg (mt (mem_granted_iff_demand found).mpr unfit),
          Demand.function.inj same]

theorem unlinked_of_link (failed : link imports = .error failure) : Unlinked imports failure := by
  cases names : imports.forM checkName with
  | error cause =>
      rw [link_of_unknown names] at failed
      obtain rfl := Except.error.inj failed
      obtain ⟨earlier, wanted, later, parts, passed, refused⟩ := forM_eq_error_iff.mp names
      have unknown : ¬ wanted.Known := by
        intro known
        rw [checkName_of_known known] at refused
        cases refused
      rw [checkName_of_not_known unknown] at refused
      obtain rfl := Except.error.inj refused
      exact .unknown earlier wanted later parts
        (fun other member => checkName_eq_ok_iff.mp (passed other member)) unknown
  | ok passed =>
      rw [link_of_names names] at failed
      have known := names_eq_ok_iff.mp names
      obtain ⟨earlier, wanted, later, parts, passed, refused⟩ := forM_eq_error_iff.mp failed
      have member : wanted ∈ imports := by simp [parts]
      obtain ⟨service, found⟩ := Import.known_iff.mp (known wanted member)
      have unfit : wanted ∉ granted := by
        intro here
        rw [(checkType_eq_ok_iff (Import.known_of_mem here)).mpr here] at refused
        cases refused
      rw [checkType_of_found found, if_neg (mt (mem_granted_iff_demand found).mpr unfit)] at refused
      obtain rfl := Except.error.inj refused
      refine .incompatible earlier wanted later parts known ?_ unfit service.type
        ((@mem_granted_iff_demand ⟨_, _, .function service.type⟩ service found).mpr rfl)
      intro other here
      have there : other ∈ imports := by simp [parts, here]
      exact (checkType_eq_ok_iff (known other there)).mp (passed other here)

/-- The failure of linking is the one of the import that the order of the checks singles out. -/
theorem link_eq_error_iff : link imports = .error failure ↔ Unlinked imports failure :=
  ⟨unlinked_of_link, Unlinked.link_eq⟩

/-- The import that a failure of linking names is one that is not granted. -/
theorem Unlinked.exists_import (unlinked : Unlinked imports failure) :
    ∃ wanted ∈ imports, wanted ∉ granted ∧ failure.import? = some (wanted.source, wanted.name) := by
  cases unlinked with
  | unknown earlier wanted later parts known unknown =>
      exact ⟨wanted, by simp [parts], mt Import.known_of_mem unknown, rfl⟩
  | incompatible earlier wanted later parts known fitting unfit type grant =>
      exact ⟨wanted, by simp [parts], unfit, rfl⟩

end Link

/-- The wording of a failure of linking names the import. -/
theorem LoadFailure.exists_message_eq {failure : LoadFailure} {source name : String}
    (named : failure.import? = some (source, name)) :
    ∃ front back,
      (Fault.notLoaded failure).message = front ++ (source ++ "::" ++ name) ++ back := by
  have parts (kind cause rest : String) :
      kind ++ (cause ++ source ++ "::" ++ name ++ rest) =
        (kind ++ cause) ++ (source ++ "::" ++ name) ++ rest := by
    simp only [String.append_assoc]
  cases failure with
  | unknownImport =>
      obtain ⟨rfl, rfl⟩ := Prod.mk.inj (Option.some.inj named)
      exact ⟨_, _, parts "failed to load guest module: " "instantiation failed: unknown import: `"
        "` has not been defined"⟩
  | incompatibleImport wanted type =>
      obtain ⟨rfl, rfl⟩ := Prod.mk.inj (Option.some.inj named)
      let cause := "instantiation failed: incompatible import type for `"
      have wording : (LoadFailure.incompatibleImport wanted type).message =
          cause ++ wanted.source ++ "::" ++ wanted.name ++
            ("`: " ++ wanted.demand.mismatch type) := String.append_assoc ..
      exact ⟨_, _, (congrArg ("failed to load guest module: " ++ ·) wording).trans
        (parts "failed to load guest module: " cause _)⟩
  | _ => cases named

end Guest
end SandboxHost
