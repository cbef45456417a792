import MutationTesting.Proofs.Storage.Disk

/-!
# Where files of a directory are

A file keeps its name: the place of a path that takes a file ends with the last name on the path. So
files of different names are at different places, whatever directory they are in.

* `Path.parts_append` — what is put behind a path without a separator is part of its last name
* `Disk.Takes.place_eq` — **the place of a file ends with its name**
-/

namespace MutationTesting

namespace Path

/-! ## Parts of paths -/

theorem splitOn_append {tail : List Char} (h : '/' ∉ tail) (cs : List Char) :
    ∃ front last, cs.splitOn '/' = front ++ [last] ∧
      (cs ++ tail).splitOn '/' = front ++ [last ++ tail] := by
  induction cs with
  | nil => exact ⟨[], [], by simp, by simpa using List.splitOn_eq_singleton h⟩
  | cons c cs ih =>
    obtain ⟨front, last, hcs, happend⟩ := ih
    rw [List.cons_append, List.splitOn_cons_eq_if_modifyHead, List.splitOn_cons_eq_if_modifyHead,
      hcs, happend]
    by_cases hc : c = '/'
    · exact ⟨[] :: front, last, by simp [hc], by simp [hc]⟩
    · cases front with
      | nil => exact ⟨[], c :: last, by simp [hc], by simp [hc]⟩
      | cons first front => exact ⟨(c :: first) :: front, last, by simp [hc], by simp [hc]⟩

/-- What is put behind a path without a separator becomes a part of its last name. -/
theorem parts_append {tail : String} (h : '/' ∉ tail.toList) (path : String) :
    ∃ front last, parts path = front ++ [last] ∧ parts (path ++ tail) = front ++ [last ++ tail] := by
  obtain ⟨front, last, hpath, happend⟩ := splitOn_append h path.toList
  refine ⟨front.map String.ofList, String.ofList last, ?_, ?_⟩
  · rw [parts, hpath, List.map_append, List.map_singleton]
  · rw [parts, String.toList_append, happend, List.map_append, List.map_singleton,
      String.ofList_append, String.ofList_toList]

theorem parts_of_plain {name : String} (h : '/' ∉ name.toList) : parts name = [name] := by
  rw [parts, List.splitOn_eq_singleton h, List.map_singleton, String.ofList_toList]

theorem join_append {tail : String} (h : '/' ∉ tail.toList) (base path : String) :
    join base (path ++ tail) = join base path ++ tail := by
  have habsolute : isAbsolute (path ++ tail) = isAbsolute path := by
    unfold isAbsolute
    rw [String.toList_append]
    cases path.toList with
    | cons c cs => rfl
    | nil =>
      cases htail : tail.toList with
      | nil => rfl
      | cons c cs =>
        rw [htail, List.mem_cons, not_or] at h
        simp [Ne.symm h.1]
  unfold join
  rw [habsolute]
  split
  · rfl
  split
  · rw [String.append_assoc]
  · simp only [String.append_assoc]

/-- Joined to a directory, a name without separators is the last part of the path. -/
theorem parts_join {name : String} (h : '/' ∉ name.toList) (base : String) :
    ∃ front, parts (join base name) = front ++ [name] := by
  have hslash : ∀ cs : List Char, (cs ++ ['/']).splitOn '/' = cs.splitOn '/' ++ [[]] :=
    fun cs => List.splitOn_append_cons_self cs []
  -- a directory ends with an empty part
  have hempty : ∃ front, parts (join base "") = front ++ [""] := by
    unfold join
    split
    · exact ⟨[], rfl⟩
    split
    · next hend =>
      obtain ⟨cs, hcs⟩ := List.getLast?_eq_some_iff.mp (by simpa using hend)
      refine ⟨(cs.splitOn '/').map String.ofList, ?_⟩
      rw [parts, String.append_empty, hcs, hslash, List.map_append]
      rfl
    · refine ⟨(base.toList.splitOn '/').map String.ofList, ?_⟩
      have hcs : (base ++ "/" ++ "").toList = base.toList ++ ['/'] := by simp
      rw [parts, hcs, hslash, List.map_append]
      rfl
  obtain ⟨front, hfront⟩ := hempty
  obtain ⟨front', last, hparts, happend⟩ := parts_append h (join base "")
  rw [hfront] at hparts
  obtain ⟨rfl, hlast⟩ := List.append_inj' hparts rfl
  obtain rfl : last = "" := (List.singleton_inj.mp hlast).symm
  rw [← join_append h, String.empty_append] at happend
  exact ⟨front, happend⟩

end Path

namespace Disk

open Checks

variable {d : Disk} {place : List String} {path : String}

/-! ## Places of files -/

theorem step_eq_ok_iff {name : String} (hname : name ≠ "..") {directory : List String} :
    step directory name = .ok place ↔
      name.utf8ByteSize ≤ maxNameBytes ∧ place = directory ++ [name] := by
  unfold step
  rw [if_neg hname]
  split
  · next hlong => simp [Nat.not_le.mpr hlong]
  · next hshort => simp [Nat.not_lt.mp hshort, eq_comm]

/-- Names lead to a place by a last step. -/
theorem follow_append_singleton {name : String} :
    ∀ {names start : List String}, d.follow start (names ++ [name]) = .ok place →
      ∃ directory, step directory name = .ok place
  | [], start, h => ⟨start, h⟩
  | first :: names, start, h => by
    obtain ⟨second, rest, hrest⟩ : ∃ second rest, names ++ [name] = second :: rest := by
      cases names <;> exact ⟨_, _, rfl⟩
    rw [List.cons_append, hrest] at h
    unfold follow at h
    obtain ⟨inner, -, h⟩ := bind_eq_ok_iff.mp h
    split at h
    · rw [← hrest] at h
      exact follow_append_singleton h
    · cases h
    · cases h

/-- **The place of a file ends with the last name on its path,** which is not too long. -/
theorem Takes.place_eq (h : d.Takes path place) {front : List String} {name : String}
    (hparts : Path.parts path = front ++ [name]) :
    name.utf8ByteSize ≤ maxNameBytes ∧ ∃ directory, place = directory ++ [name] := by
  have hname : ((name == "" || name == ".") || name == "..") = false := by
    have hfile := h.namesFile
    unfold namesDirectory at hfile
    rwa [hparts, List.getLast?_concat] at hfile
  simp only [Bool.or_eq_false_iff, beq_eq_false_iff_ne] at hname
  obtain ⟨⟨hempty, hdot⟩, hparent⟩ := hname
  have hnames : namesOf path
      = front.filter (fun part => part != "" && part != ".") ++ [name] := by
    rw [namesOf, hparts, List.filter_append, List.filter_cons_of_pos (by simp [hempty, hdot])]
    rfl
  have hleads := h.leads
  unfold Disk.place at hleads
  split at hleads
  · cases hleads
  split at hleads
  · cases hleads
  split at hleads
  · cases hleads
  · rw [hnames] at hleads
    obtain ⟨directory, hstep⟩ := follow_append_singleton hleads
    obtain ⟨hfits, hplace⟩ := (step_eq_ok_iff hparent).mp hstep
    exact ⟨hfits, directory, hplace⟩

/-- Files of different names are at different places. -/
theorem Takes.place_ne {path' : String} {place' : List String} (h : d.Takes path place)
    (h' : d.Takes path' place') {front front' : List String} {name name' : String}
    (hparts : Path.parts path = front ++ [name]) (hparts' : Path.parts path' = front' ++ [name'])
    (hne : name ≠ name') : place ≠ place' := by
  obtain ⟨-, directory, rfl⟩ := h.place_eq hparts
  obtain ⟨-, directory', rfl⟩ := h'.place_eq hparts'
  intro hsame
  exact hne (List.singleton_inj.mp (List.append_inj' hsame rfl).2)

end Disk

end MutationTesting
