import MutationTesting.Proofs.Checks
import MutationTesting.Storage.Disk

/-!
# Files that stay

What has been written to a path is read from it again, and a file that is put at a place changes
nothing elsewhere: paths lead to the same places as before, and other files keep their contents.

* `Disk.place_put` — paths after a file has been put somewhere
* `Disk.read_of_write` — **what has been written is read again**
* `Disk.read_put_of_ne` — other files are read as before
* `Disk.createDirectories_again` — directories that are there need not be made again
-/

namespace MutationTesting.Disk

open Checks

variable {d d' : Disk} {place other : List String} {node : Node} {path content : String}

/-! ## Nodes -/

theorem lookup_put (nodes : List (List String × Node)) (h : other ≠ place) :
    (nodes.filter (·.1 != place)).lookup other = nodes.lookup other := by
  induction nodes with
  | nil => rfl
  | cons entry nodes ih =>
    obtain ⟨key, value⟩ := entry
    by_cases hkey : key = place
    · subst hkey
      rw [List.filter_cons_of_neg (by simp), ih, List.lookup_cons, beq_eq_false_iff_ne.mpr h]
    · rw [List.filter_cons_of_pos (by simpa using hkey), List.lookup_cons, List.lookup_cons, ih]

theorem node?_put_self (h : place ≠ []) : (d.put place node).node? place = some node := by
  rw [node?, if_neg h, put, List.lookup_cons_self]

theorem node?_put_of_ne (h : other ≠ place) : (d.put place node).node? other = d.node? other := by
  unfold node? put
  split
  · rfl
  · rw [List.lookup_cons, beq_eq_false_iff_ne.mpr h, lookup_put d.nodes h]

/-- The root is a directory. -/
theorem ne_nil_of_node? (h : d.node? place ≠ some .directory) : place ≠ [] := by
  rintro rfl
  exact h rfl

/-- A file that is put where no directory is leaves all directories. -/
theorem node?_put_directory (h : d.node? place ≠ some .directory)
    (hother : d.node? other = some .directory) : (d.put place node).node? other = some .directory := by
  rw [node?_put_of_ne, hother]
  rintro rfl
  exact h hother

/-! ## Paths -/

/-- Paths lead through directories, so they lead where they did before. -/
theorem follow_put (h : d.node? place ≠ some .directory) :
    ∀ {names start : List String}, d.follow start names = .ok other →
      (d.put place node).follow start names = .ok other
  | [], _, hfollow => hfollow
  | [_], _, hfollow => hfollow
  | name :: next :: names, start, hfollow => by
    unfold follow at hfollow ⊢
    obtain ⟨inner, hstep, hfollow⟩ := bind_eq_ok_iff.mp hfollow
    refine bind_eq_ok_iff.mpr ⟨inner, hstep, ?_⟩
    split at hfollow
    · next hdirectory =>
      rw [node?_put_directory h hdirectory]
      exact follow_put h hfollow
    · cases hfollow
    · cases hfollow

theorem place_put (h : d.node? place ≠ some .directory) (hplace : d.place path = .ok other) :
    (d.put place node).place path = .ok other := by
  unfold Disk.place at hplace ⊢
  split at hplace
  · cases hplace
  split at hplace
  · cases hplace
  split at hplace
  · cases hplace
  · next h₁ h₂ h₃ =>
    rw [if_neg h₁, if_neg h₂, if_neg h₃]
    exact follow_put h hplace

/-! ## Reading and writing -/

/-- A file can be written to a path, at a place. -/
structure Takes (d : Disk) (path : String) (place : List String) : Prop where
  leads : d.place path = .ok place
  noDirectory : d.node? place ≠ some .directory
  namesFile : namesDirectory path = false

instance (d : Disk) (path : String) (place : List String) : Decidable (d.Takes path place) :=
  decidable_of_iff (d.place path = .ok place ∧ d.node? place ≠ some .directory ∧
    namesDirectory path = false) ⟨fun h => ⟨h.1, h.2.1, h.2.2⟩, fun h => ⟨h.1, h.2, h.3⟩⟩

theorem Takes.write (h : d.Takes path place) (content : String) :
    ∃ executable, d.write path content = .ok (d.put place (.file content executable)) := by
  cases hnode : d.node? place with
  | none =>
    refine ⟨false, bind_eq_ok_iff.mpr ⟨place, h.leads, ?_⟩⟩
    simp [hnode, h.namesFile, pure, Except.pure]
  | some node =>
    cases node with
    | file old executable =>
      refine ⟨executable, bind_eq_ok_iff.mpr ⟨place, h.leads, ?_⟩⟩
      simp [hnode, h.namesFile, pure, Except.pure]
    | runner =>
      refine ⟨true, bind_eq_ok_iff.mpr ⟨place, h.leads, ?_⟩⟩
      simp [hnode, h.namesFile, pure, Except.pure]
    | directory => exact absurd hnode h.noDirectory

/-- What writing does when it succeeds. -/
theorem takes_of_write (h : d.write path content = .ok d') :
    ∃ place executable, d.Takes path place ∧ d' = d.put place (.file content executable) := by
  obtain ⟨place, hplace, h⟩ := bind_eq_ok_iff.mp h
  have hput : ∀ {executable reason}, (if namesDirectory path = true then .error reason
      else pure (d.put place (.file content executable)) : Except IoError Disk) = .ok d' →
      namesDirectory path = false ∧ d' = d.put place (.file content executable) := by
    intro executable reason h
    split at h
    · cases h
    · next hname =>
      cases h
      exact ⟨by simpa using hname, rfl⟩
  split at h
  · cases h
  · next hnode =>
    obtain ⟨hname, rfl⟩ := hput h
    exact ⟨place, _, ⟨hplace, by simp [hnode], hname⟩, rfl⟩
  · next hnode =>
    obtain ⟨hname, rfl⟩ := hput h
    exact ⟨place, _, ⟨hplace, by simp [hnode], hname⟩, rfl⟩
  · next hnode =>
    obtain ⟨hname, rfl⟩ := hput h
    exact ⟨place, _, ⟨hplace, by simp [hnode], hname⟩, rfl⟩

/-- Paths still take files after a file has been put where no directory is. -/
theorem Takes.put (h : d.Takes path other) (hplace : d.node? place ≠ some .directory)
    (content : String) (executable : Bool) :
    (d.put place (.file content executable)).Takes path other := by
  refine ⟨place_put hplace h.leads, ?_, h.namesFile⟩
  by_cases hsame : other = place
  · subst hsame
    rw [node?_put_self (ne_nil_of_node? hplace)]
    simp
  · rw [node?_put_of_ne hsame]
    exact h.noDirectory

theorem Takes.read_put (h : d.Takes path place) (content : String) (executable : Bool) :
    (d.put place (.file content executable)).read path = .ok content := by
  refine bind_eq_ok_iff.mpr ⟨.file content executable, ?_, rfl⟩
  refine bind_eq_ok_iff.mpr ⟨place, place_put h.noDirectory h.leads, ?_⟩
  rw [node?_put_self (ne_nil_of_node? h.noDirectory)]
  simp [h.namesFile, pure, Except.pure]

/-- **What has been written is read again.** -/
theorem read_of_write (h : d.write path content = .ok d') : d'.read path = .ok content := by
  obtain ⟨place, executable, htakes, rfl⟩ := takes_of_write h
  exact htakes.read_put content executable

/-- What is read is at a place. -/
theorem place_of_read (h : d.read path = .ok content) :
    ∃ place, d.place path = .ok place ∧ d.node? place ≠ none := by
  obtain ⟨node, hfind, -⟩ := bind_eq_ok_iff.mp h
  obtain ⟨place, hplace, hfound⟩ := bind_eq_ok_iff.mp hfind
  refine ⟨place, hplace, fun hnone => ?_⟩
  rw [hnone] at hfound
  cases hfound

/-- A file that is put elsewhere leaves what is read from a path. -/
theorem read_put_of_ne (hplace : d.node? place ≠ some .directory) (hleads : d.place path = .ok other)
    (hne : other ≠ place) : (d.put place node).read path = d.read path := by
  have hfind : (d.put place node).find path = d.find path := by
    simp only [find, place_put hplace hleads, hleads, bind, Except.bind, node?_put_of_ne hne]
  rw [read, read, hfind]

/-- A file that has just been written is made one that may be run. -/
theorem Takes.makeExecutable (h : d.Takes path place) (content : String) (executable : Bool) :
    (d.put place (.file content executable)).makeExecutable path
      = .ok ((d.put place (.file content executable)).put place (.file content true)) := by
  refine bind_eq_ok_iff.mpr ⟨place, place_put h.noDirectory h.leads, ?_⟩
  rw [node?_put_self (ne_nil_of_node? h.noDirectory)]
  rfl

/-! ## Directories -/

/-- All names lead from a directory to directories. -/
def LeadsThrough (d : Disk) (place : List String) : List String → Prop
  | [] => True
  | name :: names => ∃ next, step place name = .ok next ∧ d.node? next = some .directory ∧
      d.LeadsThrough next names

theorem createFrom_of_leadsThrough : ∀ {names : List String} {place : List String},
    d.LeadsThrough place names → d.createFrom place names = .ok d
  | [], _, _ => rfl
  | name :: names, place, ⟨next, hstep, hnode, hnames⟩ => by
    refine bind_eq_ok_iff.mpr ⟨next, hstep, ?_⟩
    rw [hnode]
    exact createFrom_of_leadsThrough hnames

theorem LeadsThrough.mono (h : ∀ place, d.node? place = some .directory →
    d'.node? place = some .directory) : ∀ {names : List String} {place : List String},
    d.LeadsThrough place names → d'.LeadsThrough place names
  | [], _, _ => trivial
  | _ :: _, _, ⟨next, hstep, hnode, hnames⟩ => ⟨next, hstep, h next hnode, hnames.mono h⟩

/-- Making directories leaves those that are there. -/
theorem node?_createFrom : ∀ {names : List String} {d : Disk} {place : List String},
    d.createFrom place names = .ok d' → d'.current = d.current ∧
      ∀ other, d.node? other = some .directory → d'.node? other = some .directory
  | [], d, place, h => by
    cases h
    exact ⟨rfl, fun _ => id⟩
  | name :: names, d, place, h => by
    obtain ⟨next, hstep, h⟩ := bind_eq_ok_iff.mp h
    split at h
    · exact node?_createFrom h
    · cases h
    · next hnode =>
      obtain ⟨hcurrent, hkept⟩ := node?_createFrom h
      refine ⟨hcurrent, fun other hother => hkept other ?_⟩
      exact node?_put_directory (by simp [hnode]) hother

/-- Making directories leaves what is read from files. -/
theorem read_createFrom : ∀ {names : List String} {d : Disk} {place : List String},
    d.createFrom place names = .ok d' → d.read path = .ok content → d'.read path = .ok content
  | [], d, place, h, hread => by
    cases h
    exact hread
  | name :: names, d, place, h, hread => by
    obtain ⟨next, hstep, h⟩ := bind_eq_ok_iff.mp h
    split at h
    · exact read_createFrom h hread
    · cases h
    · next hnode =>
      refine read_createFrom h ?_
      obtain ⟨other, hleads, hfile⟩ := place_of_read hread
      have hne : other ≠ next := by
        rintro rfl
        exact hfile hnode
      rw [read_put_of_ne (by simp [hnode]) hleads hne, hread]

theorem leadsThrough_createFrom : ∀ {names : List String} {d : Disk} {place : List String},
    d.createFrom place names = .ok d' → d'.LeadsThrough place names
  | [], _, _, _ => trivial
  | name :: names, d, place, h => by
    obtain ⟨next, hstep, h⟩ := bind_eq_ok_iff.mp h
    refine ⟨next, hstep, ?_⟩
    split at h
    · next hnode => exact ⟨(node?_createFrom h).2 next hnode, leadsThrough_createFrom h⟩
    · cases h
    · next hnode =>
      have hne : next ≠ [] := ne_nil_of_node? (d := d) (by simp [hnode])
      exact ⟨(node?_createFrom h).2 next (node?_put_self hne), leadsThrough_createFrom h⟩

/-- **Directories that are there need not be made again,** whatever else has changed. -/
theorem createDirectories_again {d'' : Disk} (h : d.createDirectories path = .ok d')
    (hcurrent : d''.current = d'.current)
    (hkept : ∀ place, d'.node? place = some .directory → d''.node? place = some .directory) :
    d''.createDirectories path = .ok d'' := by
  unfold createDirectories at h ⊢
  split at h
  · cases h
  · next h₁ =>
    rw [if_neg h₁]
    split at h
    · next h₂ => rw [if_pos h₂]
    · next h₂ =>
      rw [if_neg h₂]
      split at h
      · cases h
      · next h₃ =>
        have hbase : d''.base path = d.base path := by
          unfold base
          rw [hcurrent, (node?_createFrom h).1]
        rw [if_neg h₃, hbase]
        exact createFrom_of_leadsThrough ((leadsThrough_createFrom h).mono hkept)

/-- Making directories leaves what is read from files. -/
theorem read_createDirectories (h : d.createDirectories path = .ok d') {file : String}
    (hread : d.read file = .ok content) : d'.read file = .ok content := by
  unfold createDirectories at h
  split at h
  · cases h
  split at h
  · cases h
    exact hread
  split at h
  · cases h
  · exact read_createFrom h hread

end MutationTesting.Disk
