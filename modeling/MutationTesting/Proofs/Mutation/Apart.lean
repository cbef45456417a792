import MutationTesting.Proofs.Mutation.Names
import MutationTesting.Proofs.Text.Fingerprint

/-!
# Points are told apart

Points are merged by their identifiers, their copies are looked up by name, and a variable selects
the mutant of a point. The name of a function may hold any text, also one that looks like a part of
these names; still no two points share an identifier or, in one module, a copy. A selecting variable
can be set in any shell, and two points share it only if the fingerprints of their identifiers agree.

* `Catalogue.not_mem_id` — the identifiers of the catalogue are written without separators
* `Point.nameChars_selector` — a selecting variable is a name for every shell
* `Point.fingerprint_eq_of_selector_eq` — it shows the fingerprint of the identifier
* `Point.names_tell_apart` — **names derived from points do not confuse them**
-/

namespace MutationTesting

/-- A character that may stand in the name of a variable. -/
def IsNameChar (c : Char) : Prop :=
  ('A' ≤ c ∧ c ≤ 'Z') ∨ ('a' ≤ c ∧ c ≤ 'z') ∨ ('0' ≤ c ∧ c ≤ '9') ∨ c = '_'

instance (c : Char) : Decidable (IsNameChar c) :=
  inferInstanceAs (Decidable (_ ∨ _))

theorem isNameChar_of_isAlphanum {c : Char} (h : c.isAlphanum = true) : IsNameChar c := by
  have hclass : (c.isUpper = true ∨ c.isLower = true) ∨ c.isDigit = true := by
    rw [← Bool.or_eq_true, ← Bool.or_eq_true]
    exact h
  rcases hclass with (hupper | hlower) | hdigit
  · exact Or.inl (of_decide_eq_true hupper)
  · obtain ⟨hfirst, hlast⟩ := Bool.and_eq_true_iff.mp hlower
    exact Or.inr (Or.inl ⟨of_decide_eq_true hfirst, of_decide_eq_true hlast⟩)
  · obtain ⟨hfirst, hlast⟩ := Bool.and_eq_true_iff.mp hdigit
    exact Or.inr (Or.inr (Or.inl ⟨of_decide_eq_true hfirst, of_decide_eq_true hlast⟩))

theorem isNameChar_hexDigit (n : Nat) : IsNameChar (hexDigit n) := by
  have hdigit : ∀ a < 16, IsNameChar a.digitChar := by decide
  exact hdigit _ (Nat.mod_lt _ (by decide))

/-- The identifiers of the catalogue have neither of the marks in them that part names. -/
theorem Catalogue.not_mem_id {id : String} (h : id ∈ mutators.map (·.id)) :
    ':' ∉ id.toList ∧ '.' ∉ id.toList := by
  obtain ⟨m, hm, rfl⟩ := List.mem_map.mp h
  exact ⟨colon_not_mem_id m hm, point_not_mem_id m hm⟩

namespace Point

theorem isNameChar_identifierChar (c : Char) : IsNameChar (identifierChar c) := by
  unfold identifierChar
  split
  · next hc => exact isNameChar_of_isAlphanum hc
  · exact Or.inr (Or.inr (Or.inr rfl))

theorem toList_selector (p : Point) :
    p.selector.toList = "MUTANT_".toList ++ (p.userIdentifier.toList.map identifierChar ++
      '_' :: hex16 (fingerprint p.identifier)) := by
  simp [selector, fingerprintText]

/-- **A selecting variable is a name for every shell,** wherever the point is. -/
theorem nameChars_selector (p : Point) :
    ∃ tail, p.selector = "MUTANT_" ++ tail ∧ ∀ c ∈ tail.toList, IsNameChar c := by
  refine ⟨String.ofList (p.userIdentifier.toList.map identifierChar ++
    '_' :: hex16 (fingerprint p.identifier)), ?_, fun c hc => ?_⟩
  · rw [← String.toList_inj, toList_selector]
    simp
  · rw [String.toList_ofList, List.mem_append, List.mem_cons] at hc
    rcases hc with hreadable | rfl | hdigit
    · obtain ⟨d, -, rfl⟩ := List.mem_map.mp hreadable
      exact isNameChar_identifierChar d
    · exact Or.inr (Or.inr (Or.inr rfl))
    · obtain ⟨i, -, rfl⟩ := List.mem_map.mp hdigit
      exact isNameChar_hexDigit _

/-- **A selecting variable shows the fingerprint of the identifier:** it ends in it, and all
fingerprints are equally long. -/
theorem fingerprint_eq_of_selector_eq {p q : Point} (h : p.selector = q.selector) :
    fingerprint p.identifier = fingerprint q.identifier := by
  have hl := congrArg String.toList h
  rw [toList_selector, toList_selector] at hl
  have hlength : ∀ word, ('_' :: hex16 word).length = 17 := by
    intro word
    rw [List.length_cons, hex16, List.length_map, List.length_range]
  obtain ⟨-, hend⟩ :=
    List.append_inj' (List.append_cancel_left hl) ((hlength _).trans (hlength _).symm)
  exact hex16_inj (List.cons.inj hend).2

/-- **Names derived from points do not confuse them,** whatever text the names of functions and
locations hold. -/
theorem names_tell_apart {p q : Point} (hp : p.mutator ∈ Catalogue.mutators.map (·.id))
    (hq : q.mutator ∈ Catalogue.mutators.map (·.id)) :
    (p.identifier = q.identifier ↔
      p.mutator = q.mutator ∧ p.function = q.function ∧ p.address = q.address) ∧
    (p.mutantName = q.mutantName ↔
      p.mutator = q.mutator ∧ p.function.name = q.function.name ∧ p.address = q.address) ∧
    (∀ function, p.mutantName ≠ unmutatedName function) ∧
    (∃ tail, p.selector = "MUTANT_" ++ tail ∧ ∀ c ∈ tail.toList, IsNameChar c) ∧
    (p.selector = q.selector → fingerprint p.identifier = fingerprint q.identifier) := by
  obtain ⟨hpcolon, hppoint⟩ := Catalogue.not_mem_id hp
  obtain ⟨hqcolon, hqpoint⟩ := Catalogue.not_mem_id hq
  refine ⟨⟨identifier_inj hpcolon hqcolon, ?_⟩, ⟨fun h => ?_, ?_⟩, p.mutantName_ne_unmutatedName,
    p.nameChars_selector, fingerprint_eq_of_selector_eq⟩
  · rintro ⟨hmutator, hfunction, haddress⟩
    rw [identifier, identifier, hmutator, hfunction, haddress]
  · obtain ⟨hname, hmutator, haddress⟩ := mutantName_inj hppoint hqpoint h
    exact ⟨hmutator, hname, haddress⟩
  · rintro ⟨hmutator, hname, haddress⟩
    rw [mutantName, mutantName, hmutator, hname, haddress]

/-- A point in a function of a module whose number runs on in the name of the function. -/
def inNumbered : Point where
  mutator := "cxx_sub_to_add"
  function := ⟨1, "2:f.original"⟩
  address := ⟨0, 1⟩
  location := some ⟨"a b/é=1.c", 2, 12⟩
  replacement := "Replaced - with +"

/-- A point in a function that is named like the copy for the first point. -/
def inCopyLike : Point where
  mutator := "cxx_sub_to_add"
  function := ⟨12, "2:f.original.mutant.cxx_sub_to_add.0_1"⟩
  address := ⟨0, 1⟩
  location := some ⟨"a b/é=1.c", 2, 12⟩
  replacement := "Replaced - with +"

/-- Neither their identifiers nor their copies nor their variables are taken for each other's. -/
theorem numbered_apart_from_copyLike :
    inNumbered.userIdentifier = inCopyLike.userIdentifier ∧
    inNumbered.identifier ≠ inCopyLike.identifier ∧
    inNumbered.mutantName ≠ inCopyLike.mutantName ∧
    inNumbered.mutantName ≠ unmutatedName "2:f" ∧
    (∃ tail, inNumbered.selector = "MUTANT_" ++ tail ∧ ∀ c ∈ tail.toList, IsNameChar c) ∧
    inNumbered.selector ≠ inCopyLike.selector := by
  obtain ⟨hidentifier, hcopy, hunmutated, hselector, hfingerprint⟩ :=
    names_tell_apart (p := inNumbered) (q := inCopyLike) (by decide) (by decide)
  refine ⟨rfl, fun h => ?_, fun h => ?_, hunmutated _, hselector, fun h => ?_⟩
  · exact absurd (hidentifier.mp h).2.1 (by decide)
  · exact absurd (hcopy.mp h).2.1 (by decide)
  · exact absurd (hfingerprint h) (by decide +kernel)

end Point

end MutationTesting
