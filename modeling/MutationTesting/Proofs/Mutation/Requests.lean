import MutationTesting.Proofs.Checks
import MutationTesting.Proofs.Distinct
import MutationTesting.Proofs.Mutation.Names

/-!
# Requests for mutators

A request names mutators and groups of them, in any order and possibly several times. It is granted
exactly if the catalogue has all of its names; what it stands for is told from the request alone,
and otherwise the first name that the catalogue does not have is told.

* `Catalogue.find?_members`, `Catalogue.find?_expand` — what is unknown stays in its place
* `Catalogue.granted_iff`, `Catalogue.refused_iff` — when a request is granted
* `Catalogue.map_id_of_resolve` — what it is granted
* `Catalogue.selects_exactly` — **which mutators a request stands for**
-/

namespace MutationTesting

/-- The identifier that the change of a mutator is named by: the operator that is replaced, and the
one that takes its place. -/
def Mutator.spelling : Mutator → String
  | .replaceOperator _ source target => "cxx_" ++ source.name ++ "_to_" ++ target.name
  | .removeVoidCall => "cxx_remove_void_call"

namespace Catalogue

open Checks

variable {request : List String} {ms : List Mutator} {m : Mutator} {id name : String}

/-! ## The tables -/

theorem id_eq_spelling : ∀ m ∈ mutators, m.id = m.spelling := by
  decide

theorem mem_mutators_of_group : ∀ g ∈ groups, ∀ m ∈ g.2, m ∈ mutators := by
  decide

theorem mem_availableIds :
    name ∈ availableIds ↔ name ∈ mutators.map (·.id) ∨ name ∈ groups.map (·.1) :=
  List.mem_append

theorem mutator?_eq_some_iff : mutator? id = some m ↔ m ∈ mutators ∧ m.id = id := by
  constructor
  · intro h
    exact ⟨List.mem_of_find?_eq_some h, by simpa using List.find?_some h⟩
  · rintro ⟨hm, rfl⟩
    exact find?_id (fun _ h => h) hm

theorem isNone_mutator?_iff : (mutator? id).isNone = true ↔ id ∉ mutators.map (·.id) := by
  rw [Option.isNone_iff_eq_none, mutator?, List.find?_eq_none]
  simp

theorem members_of_group {g : String × List Mutator} (hg : g ∈ groups) :
    members g.1 = g.2.map (·.id) := by
  revert g
  decide

theorem members_of_not_group (h : name ∉ groups.map (·.1)) : members name = [name] := by
  have hlookup : groups.lookup name = none := by
    rw [List.lookup_eq_none_iff]
    intro g hg
    rw [bne_iff_ne]
    rintro rfl
    exact h (List.mem_map_of_mem hg)
  rw [members, hlookup]

/-! ## What is unknown -/

/-- Of what a name stands for only the name itself can be unknown. -/
theorem find?_members (name : String) :
    (members name).find? (fun id => (mutator? id).isNone)
      = Option.guard (fun name => name ∉ availableIds) name := by
  by_cases hgroup : name ∈ groups.map (·.1)
  · obtain ⟨g, hg, rfl⟩ := List.mem_map.mp hgroup
    have hknown : g.1 ∈ availableIds := mem_availableIds.mpr (Or.inr hgroup)
    rw [members_of_group hg, Option.guard, if_neg (by simpa using hknown), List.find?_eq_none]
    intro id hid
    obtain ⟨m, hm, rfl⟩ := List.mem_map.mp hid
    rw [isNone_mutator?_iff, not_not]
    exact List.mem_map_of_mem (mem_mutators_of_group g hg m hm)
  · have hknown : name ∈ availableIds ↔ name ∈ mutators.map (·.id) := by
      rw [mem_availableIds, or_iff_left hgroup]
    rw [members_of_not_group hgroup, Option.guard, List.find?_singleton]
    simp only [isNone_mutator?_iff, hknown, decide_eq_true_eq]

/-- The first unknown identifier that a request stands for is its first unknown name. -/
theorem find?_expand (request : List String) :
    (expand request).find? (fun id => (mutator? id).isNone)
      = request.find? (fun name => name ∉ availableIds) := by
  have hflat : ∀ names : List String,
      (names.flatMap members).find? (fun id => (mutator? id).isNone)
        = names.find? (fun name => name ∉ availableIds) := by
    intro names
    rw [List.find?_flatMap]
    simp only [find?_members]
    exact List.findSome?_guard
  rw [expand, find?_distinctBy_id]
  cases request with
  | nil => exact hflat [defaultGroup]
  | cons name names => exact hflat (name :: names)

/-! ## Requests -/

/-- The mutator of an identifier, or the fault that there is none. -/
def single (id : String) : Except UnknownMutator Mutator :=
  match mutator? id with
  | some m => .ok m
  | none => .error ⟨id⟩

theorem resolve_eq (request : List String) : resolve request = (expand request).mapM single :=
  rfl

theorem single_eq_ok_iff : single id = .ok m ↔ m ∈ mutators ∧ m.id = id := by
  rw [← mutator?_eq_some_iff, single]
  cases mutator? id <;> simp

theorem isOk_single (id : String) : (!(single id).isOk) = (mutator? id).isNone := by
  rw [single]
  cases mutator? id <;> rfl

theorem single_of_isNone (h : (mutator? id).isNone = true) : single id = .error ⟨id⟩ := by
  rw [single, Option.isNone_iff_eq_none.mp h]

/-- A request is granted by the mutators that have the identifiers that it stands for. -/
theorem resolve_eq_ok_iff :
    resolve request = .ok ms ↔ (∀ m ∈ ms, m ∈ mutators) ∧ ms.map (·.id) = expand request := by
  have hswap : ∀ {ids : List String} {ms : List Mutator},
      List.Forall₂ (fun id m => single id = .ok m) ids ms
        ↔ List.Forall₂ (fun m id => m ∈ mutators ∧ m.id = id) ms ids := by
    intro ids ms
    simp only [single_eq_ok_iff]
    exact ⟨List.Forall₂.flip, List.Forall₂.flip⟩
  rw [resolve_eq, mapM_eq_ok_iff, hswap, List.forall₂_and_left,
    ← List.forall₂_map_left_iff (R := fun id id' => id = id'), List.forall₂_eq_eq_eq]

/-- The fault of a request is what a search for an unknown name finds. -/
theorem resolve_eq_error_iff {fault : UnknownMutator} :
    resolve request = .error fault ↔
      request.find? (fun name => name ∉ availableIds) = some fault.id := by
  rw [resolve_eq, mapM_eq_error_iff, ← find?_expand]
  simp only [isOk_single]
  constructor
  · rintro ⟨id, hfound, hfault⟩
    rw [single_of_isNone (by simpa using List.find?_some hfound), Except.error.injEq] at hfault
    rw [hfound, ← hfault]
  · intro h
    exact ⟨fault.id, h, single_of_isNone (by simpa using List.find?_some h)⟩

/-- A request is refused for the first of its names that is not available. -/
theorem refused_iff {fault : UnknownMutator} : resolve request = .error fault ↔
    ∃ known rest, request = known ++ fault.id :: rest ∧ (∀ name ∈ known, name ∈ availableIds) ∧
      fault.id ∉ availableIds := by
  rw [resolve_eq_error_iff, List.find?_eq_some_iff_append]
  simp only [decide_eq_true_eq, Bool.not_eq_true', decide_eq_false_iff_not, not_not]
  constructor
  · rintro ⟨hunknown, known, rest, hrequest, hknown⟩
    exact ⟨known, rest, hrequest, hknown, hunknown⟩
  · rintro ⟨known, rest, hrequest, hknown, hunknown⟩
    exact ⟨hunknown, known, rest, hrequest, hknown⟩

/-- A request is granted if and only if all of its names are available. -/
theorem granted_iff :
    (∃ ms, resolve request = .ok ms) ↔ ∀ name ∈ request, name ∈ availableIds := by
  constructor
  · rintro ⟨ms, hms⟩
    by_contra hunknown
    cases hfound : request.find? (fun name => name ∉ availableIds) with
    | none => exact hunknown (by simpa using List.find?_eq_none.mp hfound)
    | some name =>
      have hrefusal : resolve request = .error ⟨name⟩ := resolve_eq_error_iff.mpr hfound
      rw [hrefusal] at hms
      cases hms
  · intro hknown
    cases hresolved : resolve request with
    | ok ms => exact ⟨ms, rfl⟩
    | error fault =>
      obtain ⟨known, rest, rfl, -, hunknown⟩ := refused_iff.mp hresolved
      exact absurd (hknown _ (by simp)) hunknown

/-- The mutators of a request have its identifiers, those of a group in the place of its name, and
no identifier comes back. -/
theorem map_id_of_resolve (hms : resolve request = .ok ms) :
    ms.map (·.id)
      = ((if request = [] then [defaultGroup] else request).flatMap members).eraseDups ∧
    (ms.map (·.id)).Nodup := by
  obtain ⟨-, hids⟩ := resolve_eq_ok_iff.mp hms
  constructor
  · rw [hids, expand, distinctBy_id_eq_eraseDups]
    simp only [List.isEmpty_iff]
  · rw [hids, expand, ← List.map_id (distinctBy _ _)]
    exact nodup_distinctBy _ _

/-- **Which mutators a request stands for.** A request is granted exactly if all of its names are
available. Then its mutators have the identifiers of the request in their order, with the members of
a group in the place of its name, those of the default group for an empty request, and without later
repetitions; so none occurs twice, and each changes what its identifier says. Otherwise the request
is refused for the first of its names that is not available. -/
theorem selects_exactly (request : List String) :
    ((∃ ms, resolve request = .ok ms) ↔ ∀ name ∈ request, name ∈ availableIds) ∧
    (∀ ms, resolve request = .ok ms →
      ms.map (·.id)
        = ((if request = [] then [defaultGroup] else request).flatMap members).eraseDups ∧
      (ms.map (·.id)).Nodup ∧ ∀ m ∈ ms, m ∈ mutators ∧ m.id = m.spelling) ∧
    ∀ fault, resolve request = .error fault ↔
      ∃ known rest, request = known ++ fault.id :: rest ∧ (∀ name ∈ known, name ∈ availableIds) ∧
        fault.id ∉ availableIds := by
  refine ⟨granted_iff, fun ms hms => ?_, fun fault => refused_iff⟩
  obtain ⟨hids, hnodup⟩ := map_id_of_resolve hms
  have hmem := (resolve_eq_ok_iff.mp hms).1
  exact ⟨hids, hnodup, fun m hm => ⟨hmem m hm, id_eq_spelling m (hmem m hm)⟩⟩

/-- A group stands for its members, but for those that were asked for before. -/
theorem selects_overlapping :
    (∃ ms, resolve ["cxx_sub_to_add", "cxx_calls", "cxx_arithmetic"] = .ok ms ∧
      ms.map (·.id) = ["cxx_sub_to_add", "cxx_remove_void_call", "cxx_add_to_sub",
        "cxx_mul_to_div", "cxx_div_to_mul", "cxx_rem_to_div"]) ∧
    resolve ["cxx_calls", "cxx_call", "none"] = .error ⟨"cxx_call"⟩ := by
  obtain ⟨hgranted, hids, -⟩ := selects_exactly ["cxx_sub_to_add", "cxx_calls", "cxx_arithmetic"]
  obtain ⟨ms, hms⟩ := hgranted.mpr (by decide)
  refine ⟨⟨ms, hms, (hids ms hms).1.trans (by decide)⟩,
    ((selects_exactly _).2.2 _).mpr ⟨["cxx_calls"], ["none"], rfl, by decide, by decide⟩⟩

end Catalogue

end MutationTesting
