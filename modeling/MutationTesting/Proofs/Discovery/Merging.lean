import Mathlib.Data.List.Induction
import Mathlib.Data.List.Nodup
import MutationTesting.Discovery.Search
import MutationTesting.Proofs.Distinct

/-!
# Merging points

While points are merged, the positions that are kept lead to the points of their identifiers. So
merging can be read without positions: a point goes into the one of its identifier, or to the end.
What is left of an identifier is then found by taking the last point off: the first point of the
identifier, with the tests of all. Points that are found once for each test come out once, with all
tests.

* `Merging.Indexed` — positions lead to the points of their identifiers
* `Merging.Indexed.add` — they do so after every point
* `identifiers_mergeDuplicates`, `gathered?_of_mem_mergeDuplicates` — what is left of points
* `merges_by_identifier` — **merging loses nothing**
* `mergeDuplicates_rounds` — **the same points found for each of some tests are merged into one
  round of points with all these tests**
-/

namespace MutationTesting

/-- The point with these tests in the place of its own. -/
def Point.reachedBy (p : Point) (tests : List Nat) : Point :=
  { p with tests }

@[simp] theorem Point.identifier_reachedBy (p : Point) (tests : List Nat) :
    (p.reachedBy tests).identifier = p.identifier := rfl

@[simp] theorem Point.identifier_comp_reachedBy (tests : List Nat) :
    Point.identifier ∘ (·.reachedBy tests) = Point.identifier := rfl

namespace Merging

/-! ## Positions -/

/-- The positions that are kept are those at which the identifiers stand. -/
def Locates (positions : List (String × Nat)) (ids : List String) : Prop :=
  ∀ id position, positions.lookup id = some position ↔ ids[position]? = some id

theorem Locates.lookup_eq_none {positions : List (String × Nat)} {ids : List String}
    (h : Locates positions ids) {id : String} : positions.lookup id = none ↔ id ∉ ids := by
  rw [Option.eq_none_iff_forall_ne_some, List.mem_iff_getElem?]
  simp only [ne_eq, h id, not_exists]

/-- A new identifier stands at the end. -/
theorem Locates.cons {positions : List (String × Nat)} {ids : List String}
    (h : Locates positions ids) {new : String} (hnew : new ∉ ids) :
    Locates ((new, ids.length) :: positions) (ids ++ [new]) := by
  intro id position
  rw [List.lookup_cons, List.getElem?_append]
  by_cases hid : id = new
  · subst hid
    rw [beq_self_eq_true, Option.some.injEq]
    split
    · next hlt =>
      have hbefore : ids[position]? ≠ some id := fun he => hnew (List.mem_of_getElem? he)
      exact ⟨fun he => absurd he (Nat.ne_of_gt hlt), fun he => absurd he hbefore⟩
    · next hle =>
      rw [List.getElem?_singleton]
      constructor
      · rintro rfl
        simp
      · intro he
        split at he
        · omega
        · cases he
  · rw [beq_eq_false_iff_ne.mpr hid]
    show positions.lookup id = some position ↔ _
    rw [h id position]
    split
    · rfl
    · next hle =>
      rw [List.getElem?_eq_none (Nat.le_of_not_lt hle), List.getElem?_singleton]
      split
      · simp [Ne.symm hid]
      · simp

/-- Identifiers are distinct, and positions lead to the points of their identifiers. -/
structure Indexed (m : Merging) : Prop where
  nodup : (m.points.map Point.identifier).Nodup
  positions : Locates m.positions (m.points.map Point.identifier)

theorem indexed_empty : Indexed {} where
  nodup := List.nodup_nil
  positions := fun id position => by simp

/-! ## Merging a point -/

/-- The points after one more point, without positions: it goes into the one of its identifier, or
to the end if there is none. -/
def into (points : List Point) (p : Point) : List Point :=
  if p.identifier ∈ points.map Point.identifier then
    points.map fun q =>
      if q.identifier = p.identifier then q.reachedBy (unionTests q.tests p.tests) else q
  else points ++ [p]

/-- Only a point with a new identifier brings one. -/
theorem identifiers_into (points : List Point) (p : Point) :
    (into points p).map Point.identifier
      = if (points.map Point.identifier).contains p.identifier then points.map Point.identifier
        else points.map Point.identifier ++ [p.identifier] := by
  unfold into
  by_cases h : p.identifier ∈ points.map Point.identifier
  · rw [if_pos h, if_pos (by simpa using h), List.map_map]
    refine List.map_congr_left fun q _ => ?_
    rw [Function.comp_apply]
    split <;> rfl
  · rw [if_neg h, if_neg (by simpa using h), List.map_append, List.map_singleton]

/-- The point of a position is the only one of its identifier. -/
theorem modify_eq_map {points : List Point} (hnodup : (points.map Point.identifier).Nodup)
    {id : String} {position : Nat} (h : (points.map Point.identifier)[position]? = some id)
    (change : Point → Point) :
    points.modify position change
      = points.map fun q => if q.identifier = id then change q else q := by
  apply List.ext_getElem?
  intro i
  rw [List.getElem?_modify, List.getElem?_map]
  cases hq : points[i]? with
  | none => rfl
  | some q =>
    have hid : (points.map Point.identifier)[i]? = some q.identifier := by
      rw [List.getElem?_map, hq, Option.map_some]
    -- identifiers are distinct, so the one that is looked for stands at one position only
    have hiff : position = i ↔ q.identifier = id := by
      constructor
      · rintro rfl
        exact Option.some.inj (hid.symm.trans h)
      · rintro rfl
        exact (List.getElem?_inj (List.getElem?_eq_some_iff.mp h).1 hnodup).mp (h.trans hid.symm)
    by_cases hi : position = i
    · simp [hi, hiff.mp hi]
    · simp [hi, mt hiff.mpr hi]

/-- **Positions lead to the points of their identifiers after every point**, and points are merged
as they would be without positions. -/
theorem Indexed.add {m : Merging} (h : m.Indexed) (p : Point) :
    (m.add p).Indexed ∧ (m.add p).points = into m.points p := by
  unfold Merging.add into
  cases hlookup : m.positions.lookup p.identifier with
  | none =>
    have hnew := h.positions.lookup_eq_none.mp hlookup
    rw [if_neg hnew]
    refine ⟨⟨?_, ?_⟩, rfl⟩
    · rw [List.map_append, List.map_singleton, ← List.concat_eq_append, List.nodup_concat]
      exact ⟨hnew, h.nodup⟩
    · have hcons := h.positions.cons hnew
      rw [List.length_map] at hcons
      rwa [List.map_append]
  | some position =>
    have hat := (h.positions p.identifier position).mp hlookup
    have hmem := List.mem_of_getElem? hat
    have hmodify := modify_eq_map h.nodup hat fun q => q.reachedBy (unionTests q.tests p.tests)
    have hids := identifiers_into m.points p
    rw [if_pos (by simpa using hmem), into, if_pos hmem, ← hmodify] at hids
    rw [if_pos hmem]
    exact ⟨⟨hids ▸ h.nodup, hids ▸ h.positions⟩, hmodify⟩

end Merging

theorem Merging.Indexed.foldl_add : ∀ {points : List Point} {m : Merging}, m.Indexed →
    (points.foldl Merging.add m).Indexed ∧
      (points.foldl Merging.add m).points = points.foldl Merging.into m.points
  | [], _, h => ⟨h, rfl⟩
  | p :: points, m, h => by
    obtain ⟨hindexed, hpoints⟩ := h.add p
    rw [List.foldl_cons, List.foldl_cons, ← hpoints]
    exact foldl_add hindexed

/-- **Points can be merged without positions.** -/
theorem mergeDuplicates_eq_foldl (points : List Point) :
    mergeDuplicates points = points.foldl Merging.into [] :=
  Merging.indexed_empty.foldl_add.2

/-- No identifier is left twice. -/
theorem nodup_mergeDuplicates (points : List Point) :
    ((mergeDuplicates points).map Point.identifier).Nodup :=
  Merging.indexed_empty.foldl_add.1.nodup

/-! ## What is left of points -/

theorem unionTests_eq (tests more : List Nat) :
    unionTests tests more = tests ++ (more.removeAll tests).eraseDups :=
  foldl_append_if_new more tests

theorem unionTests_append (tests more yet : List Nat) :
    unionTests tests (more ++ yet) = unionTests (unionTests tests more) yet :=
  List.foldl_append

theorem unionTests_self (tests : List Nat) : unionTests tests tests = tests := by
  have hnone : tests.removeAll tests = [] := by simp [List.removeAll]
  rw [unionTests_eq, hnone, List.eraseDups_nil, List.append_nil]

/-- Tests of which the first ones are there already. -/
theorem unionTests_prefix {tests : List Nat} (h : tests.Nodup) (more : List Nat) :
    unionTests tests (tests ++ more) = (tests ++ more).eraseDups := by
  rw [unionTests_append, unionTests_self, unionTests_eq, List.eraseDups_append,
    eraseDups_eq_self h]

namespace Merging

/-- The tests of all points of an identifier. -/
def testsAt (points : List Point) (id : String) : List Nat :=
  (points.filter (·.identifier == id)).flatMap (·.tests)

/-- What points leave of an identifier: the first of its points, with the tests of all. -/
def gathered? (points : List Point) (id : String) : Option Point :=
  (points.find? (·.identifier == id)).map fun first =>
    first.reachedBy (unionTests first.tests (testsAt points id))

theorem testsAt_concat (points : List Point) (p : Point) :
    testsAt (points ++ [p]) p.identifier = testsAt points p.identifier ++ p.tests := by
  simp [testsAt]

theorem gathered?_concat_of_ne {p : Point} {id : String} (h : p.identifier ≠ id)
    (points : List Point) : gathered? (points ++ [p]) id = gathered? points id := by
  simp [gathered?, testsAt, h]

/-- The tests of an identifier begin with those of its first point. -/
theorem unionTests_testsAt {points : List Point} {id : String} {first : Point}
    (hfirst : points.find? (·.identifier == id) = some first) (hnodup : first.tests.Nodup) :
    unionTests first.tests (testsAt points id) = (testsAt points id).eraseDups := by
  obtain ⟨hid, before, after, rfl, hbefore⟩ := List.find?_eq_some_iff_append.mp hfirst
  have htests : testsAt (before ++ first :: after) id = first.tests ++ testsAt after id := by
    rw [testsAt, List.filter_append, List.filter_eq_nil_iff.mpr (by simpa using hbefore),
      List.nil_append, List.filter_cons, if_pos hid, List.flatMap_cons, testsAt]
  rw [htests, unionTests_prefix hnodup]

/-- One more point of an identifier brings its tests. -/
theorem gathered?_concat {points : List Point} {p q : Point}
    (h : gathered? points p.identifier = some q) :
    gathered? (points ++ [p]) p.identifier
      = some (q.reachedBy (unionTests q.tests p.tests)) := by
  obtain ⟨first, hfirst, rfl⟩ := Option.map_eq_some_iff.mp h
  rw [gathered?, List.find?_append, hfirst, testsAt_concat, Option.some_or, Option.map_some,
    unionTests_append]
  rfl

/-- The first point of an identifier is left as it is. -/
theorem gathered?_concat_new {points : List Point} {p : Point}
    (h : p.identifier ∉ points.map Point.identifier) :
    gathered? (points ++ [p]) p.identifier = some p := by
  have hnone : ∀ q ∈ points, (q.identifier == p.identifier) = false := by
    intro q hq
    rw [beq_eq_false_iff_ne]
    exact fun he => h (List.mem_map.mpr ⟨q, hq, he⟩)
  have hfind : points.find? (·.identifier == p.identifier) = none := by
    simpa using hnone
  have htests : testsAt points p.identifier = [] := by
    rw [testsAt, List.filter_eq_nil_iff.mpr (by simpa using hnone), List.flatMap_nil]
  rw [gathered?, List.find?_append, hfind, testsAt_concat, htests, List.nil_append]
  simp [unionTests_self, Point.reachedBy]

/-- Points whose identifiers are new stay as they are. -/
theorem foldl_into_new : ∀ (points kept : List Point),
    ((kept ++ points).map Point.identifier).Nodup → points.foldl into kept = kept ++ points
  | [], kept, _ => (List.append_nil kept).symm
  | p :: points, kept, h => by
    have hnew : p.identifier ∉ kept.map Point.identifier := by
      rw [List.map_append, List.nodup_append] at h
      exact fun hmem => h.2.2 _ hmem _ (List.mem_map_of_mem List.mem_cons_self) rfl
    rw [List.foldl_cons, into, if_neg hnew, foldl_into_new points _ (by simpa using h),
      List.append_assoc, List.singleton_append]

end Merging

theorem mergeDuplicates_concat (points : List Point) (p : Point) :
    mergeDuplicates (points ++ [p]) = Merging.into (mergeDuplicates points) p := by
  rw [mergeDuplicates_eq_foldl, mergeDuplicates_eq_foldl, List.foldl_append, List.foldl_cons,
    List.foldl_nil]

/-- Identifiers stay in the order of their first occurrences. -/
theorem identifiers_mergeDuplicates (points : List Point) :
    (mergeDuplicates points).map Point.identifier
      = (points.map Point.identifier).eraseDups := by
  calc (mergeDuplicates points).map Point.identifier
    _ = (points.foldl Merging.into []).map Point.identifier := by rw [mergeDuplicates_eq_foldl]
    _ = points.foldl (fun ids p =>
          if ids.contains p.identifier then ids else ids ++ [p.identifier]) [] :=
        (List.foldl_hom _ fun kept p => (Merging.identifiers_into kept p).symm).symm
    _ = (points.map Point.identifier).foldl (fun ids id =>
          if ids.contains id then ids else ids ++ [id]) [] := by rw [List.foldl_map]
    _ = (points.map Point.identifier).eraseDups := by
        rw [foldl_append_if_new, List.nil_append, List.removeAll_nil]

/-- **The point that is left of an identifier** is the first one, with the tests of all. -/
theorem gathered?_of_mem_mergeDuplicates {points : List Point} {q : Point}
    (h : q ∈ mergeDuplicates points) : Merging.gathered? points q.identifier = some q := by
  -- the last point goes into one of those that are left of the others, or it is new
  induction points using List.reverseRecOn generalizing q with
  | nil => cases h
  | append_singleton points p ih =>
    rw [mergeDuplicates_concat, Merging.into] at h
    split at h
    · obtain ⟨q, hq, rfl⟩ := List.mem_map.mp h
      split
      · next hid =>
        rw [Point.identifier_reachedBy, hid]
        exact Merging.gathered?_concat (hid ▸ ih hq)
      · next hid => rw [Merging.gathered?_concat_of_ne (Ne.symm hid), ih hq]
    · next hnew =>
      rcases List.mem_append.mp h with hq | hq
      · have hid : p.identifier ≠ q.identifier := fun he => hnew (he ▸ List.mem_map_of_mem hq)
        rw [Merging.gathered?_concat_of_ne hid, ih hq]
      · obtain rfl := List.mem_singleton.mp hq
        rw [identifiers_mergeDuplicates, List.mem_eraseDups] at hnew
        exact Merging.gathered?_concat_new hnew

/-- Merging changes nothing but tests. -/
theorem mem_mergeDuplicates {points : List Point} {p : Point} (h : p ∈ mergeDuplicates points) :
    ∃ q ∈ points, ∃ tests, p = q.reachedBy tests := by
  obtain ⟨first, hfirst, hp⟩ :=
    Option.map_eq_some_iff.mp (gathered?_of_mem_mergeDuplicates h)
  exact ⟨first, List.mem_of_find?_eq_some hfirst, _, hp.symm⟩

/-- Points with distinct identifiers are left as they are. -/
theorem mergeDuplicates_eq_self {points : List Point}
    (h : (points.map Point.identifier).Nodup) : mergeDuplicates points = points := by
  rw [mergeDuplicates_eq_foldl, Merging.foldl_into_new points [] (by simpa using h),
    List.nil_append]

/-- **Merging loses nothing.** Where no point names a test twice, one point is left of every
identifier, in the order of first occurrences. It is the first point of its identifier, now with the
tests of all of them, each once and in the order of first occurrences. After any number of points
the positions are those at which the identifiers stand, and points that have been merged stay as
they are when they are merged again. -/
theorem merges_by_identifier (points : List Point) (htests : ∀ p ∈ points, p.tests.Nodup) :
    (mergeDuplicates points).map Point.identifier = (points.map Point.identifier).eraseDups ∧
    (∀ q ∈ mergeDuplicates points, ∃ first,
      points.find? (·.identifier == q.identifier) = some first ∧
      q = { first with
        tests := ((points.filter (·.identifier == q.identifier)).flatMap (·.tests)).eraseDups }) ∧
    (∀ seen, seen <+: points →
      Merging.Locates (seen.foldl Merging.add {}).positions
        ((seen.foldl Merging.add {}).points.map Point.identifier)) ∧
    mergeDuplicates (mergeDuplicates points) = mergeDuplicates points := by
  refine ⟨identifiers_mergeDuplicates points, fun q hq => ?_,
    fun _ _ => Merging.indexed_empty.foldl_add.1.positions,
    mergeDuplicates_eq_self (nodup_mergeDuplicates points)⟩
  obtain ⟨first, hfirst, hgathered⟩ :=
    Option.map_eq_some_iff.mp (gathered?_of_mem_mergeDuplicates hq)
  have hnodup := htests first (List.mem_of_find?_eq_some hfirst)
  rw [Merging.unionTests_testsAt hfirst hnodup] at hgathered
  exact ⟨first, hfirst, hgathered.symm⟩

/-- Points of two identifiers in turn; the last ones of either have lost their location. -/
def alternating : List Point :=
  let add : Point :=
    { mutator := "cxx_add_to_sub", function := ⟨0, "calc"⟩, address := ⟨0, 0⟩
      location := some ⟨"calc.c", 2, 10⟩, replacement := "Replaced + with -", tests := [1, 0] }
  let sub : Point :=
    { add with mutator := "cxx_sub_to_add", address := ⟨0, 1⟩, tests := [3] }
  [add, sub, add.reachedBy [2, 0], { sub.reachedBy [] with location := none },
    { add.reachedBy [3, 1] with location := none }]

/-- Tests come in the order in which the points bring them. -/
theorem alternating_merges :
    (∀ p ∈ alternating, p.tests.Nodup) ∧
    (mergeDuplicates alternating).map Point.identifier
      = ["cxx_add_to_sub:0:calc:0_0", "cxx_sub_to_add:0:calc:0_1"] ∧
    (mergeDuplicates alternating).map (fun p => (p.location, p.tests))
      = [(some ⟨"calc.c", 2, 10⟩, [1, 0, 2, 3]), (some ⟨"calc.c", 2, 10⟩, [3])] ∧
    mergeDuplicates (mergeDuplicates alternating) = mergeDuplicates alternating := by
  have htests : ∀ p ∈ alternating, p.tests.Nodup := by decide
  obtain ⟨hids, -, -, hagain⟩ := merges_by_identifier alternating htests
  exact ⟨htests, hids.trans (by decide), by decide, hagain⟩

/-! ## Rounds -/

namespace Merging

theorem modify_length {α : Type} (pre post : List α) (a : α) (change : α → α) :
    (pre ++ a :: post).modify pre.length change = pre ++ change a :: post := by
  induction pre with
  | nil => rfl
  | cons b pre ih => simp [ih]

theorem into_append {pre post : List Point} {p q : Point} (hq : q.identifier = p.identifier)
    (hnodup : ((pre ++ q :: post).map Point.identifier).Nodup) :
    into (pre ++ q :: post) p = pre ++ q.reachedBy (unionTests q.tests p.tests) :: post := by
  have hat : ((pre ++ q :: post).map Point.identifier)[pre.length]? = some p.identifier := by
    simp [hq]
  rw [into, if_pos (List.mem_of_getElem? hat),
    ← modify_eq_map hnodup hat fun q => q.reachedBy (unionTests q.tests p.tests), modify_length]

/-- A second round of the same points adds its test to each of them. -/
theorem foldl_into_round (tests more : List Nat) : ∀ (points done : List Point),
    ((done ++ points).map Point.identifier).Nodup →
      (points.map (·.reachedBy more)).foldl into
          (done.map (·.reachedBy (unionTests tests more)) ++ points.map (·.reachedBy tests))
        = (done ++ points).map (·.reachedBy (unionTests tests more))
  | [], done, _ => by simp
  | p :: points, done, h => by
    have hinto : into (done.map (·.reachedBy (unionTests tests more)) ++
        p.reachedBy tests :: points.map (·.reachedBy tests)) (p.reachedBy more)
        = done.map (·.reachedBy (unionTests tests more)) ++
          p.reachedBy (unionTests tests more) :: points.map (·.reachedBy tests) :=
      into_append rfl (by simpa using h)
    rw [List.map_cons, List.map_cons, List.foldl_cons, hinto]
    -- the point joins those that are done, which stand in front
    have hround := foldl_into_round tests more points (done ++ [p]) (by simpa using h)
    simpa using hround

end Merging

/-- **The same points found for each of some tests are merged into one round of points with all
these tests.** -/
theorem mergeDuplicates_rounds {points : List Point}
    (hnodup : (points.map Point.identifier).Nodup) (tests : Nat) :
    mergeDuplicates ((List.range (tests + 1)).flatMap fun t => points.map (·.reachedBy [t]))
      = points.map (·.reachedBy (List.range (tests + 1))) := by
  rw [mergeDuplicates_eq_foldl]
  induction tests with
  | zero =>
    have hfirst := Merging.foldl_into_new (points.map (·.reachedBy [0])) [] (by simpa using hnodup)
    simpa using hfirst
  | succ tests ih =>
    have hround := Merging.foldl_into_round (List.range (tests + 1)) [tests + 1] points []
      (by simpa using hnodup)
    have hunion : unionTests (List.range (tests + 1)) [tests + 1]
        = List.range (tests + 1) ++ [tests + 1] := by
      simp [unionTests]
    rw [hunion] at hround
    rw [List.range_succ (n := tests + 1), List.flatMap_append, List.foldl_append, ih]
    simpa using hround

end MutationTesting
