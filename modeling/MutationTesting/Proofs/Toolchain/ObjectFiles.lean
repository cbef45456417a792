import MutationTesting.Proofs.Toolchain.ObjectName
import MutationTesting.Proofs.Toolchain.Resolved
import MutationTesting.Proofs.Toolchain.Stored

/-!
# Object files of a program

Modules that are compiled one after the other to one directory leave one object file for each unit:
a module replaces those before it that share its name and its source file. So the object file of a
module holds the last module of its unit, and an image that is put together from the object files is
put together from these.

* `Module.compile_eq_ok_iff` — when a module is compiled, and what it leaves
* `Module.compile_longName` — modules with very long names are not compiled
* `Link.Stores.compile` — **what one more module leaves in the directory**
* `Link.install_eq_ok` — the image that a linked program is run from
-/

namespace MutationTesting

namespace Module

variable {m : Module} {kind : ObjectKind} {directory path : String} {d d' : Disk}

/-- The path of the object file of a module of the program. -/
def objectPath (m : Module) (directory : String) : String :=
  Path.join directory (m.objectName .program)

/-- When a module is compiled, and what it leaves. -/
theorem compile_eq_ok_iff :
    m.compile kind directory d = (d', .ok path) ↔
      m.verify = .ok () ∧ path = Path.join directory (m.objectName kind) ∧
        ∃ made, d.createDirectories directory = .ok made ∧
          made.write (Path.join directory (m.objectName kind)) m.encode = .ok d' := by
  unfold compile
  cases m.verify with
  | error fault => simp
  | ok _ =>
    cases d.createDirectories directory with
    | error reason => simp
    | ok made =>
      cases hwrite : made.write (Path.join directory (m.objectName kind)) m.encode with
      | error reason => simp [hwrite]
      | ok d'' => simp [hwrite, eq_comm, and_comm]

/-- **A module with a very long name is not compiled,** since no directory takes its object file. -/
theorem compile_longName (hlong : 231 < m.name.length) :
    m.compile kind directory d ≠ (d', .ok path) := by
  rw [Ne, compile_eq_ok_iff]
  rintro ⟨-, -, made, -, hwrite⟩
  obtain ⟨place, executable, htakes, -⟩ := Disk.takes_of_write hwrite
  obtain ⟨front, hparts⟩ := Path.parts_join (slash_not_mem_objectName m kind) directory
  obtain ⟨hfits, -⟩ := htakes.place_eq hparts
  have hbytes := le_utf8ByteSize_objectName m kind
  unfold Disk.maxNameBytes at hfits
  omega

end Module

namespace Link

/-! ## Units -/

/-- What stands for a module among modules that are compiled in this order: the last one of its
unit. -/
def lastUnit (modules : List Module) (m : Module) : Module :=
  (modules.reverse.find? fun m' => m'.SameUnit m).getD m

/-- The modules that are left of modules that are compiled in this order, each in the place of all
that share its unit. -/
def kept (modules : List Module) : List Module :=
  modules.map (lastUnit modules)

/-- Fingerprints tell the units of modules apart. -/
def Apart (modules : List Module) : Prop :=
  ∀ m ∈ modules, ∀ m' ∈ modules, fingerprint m.stamp = fingerprint m'.stamp → m.stamp = m'.stamp

instance (modules : List Module) : Decidable (Apart modules) :=
  inferInstanceAs (Decidable (∀ m ∈ modules, ∀ m' ∈ modules, _))

variable {modules : List Module} {m m' : Module}

theorem Apart.mono {modules' : List Module} (h : Apart modules) (hsub : modules' ⊆ modules) :
    Apart modules' :=
  fun m hm m' hm' => h m (hsub hm) m' (hsub hm')

theorem lastUnit_append_of_sameUnit (h : m.SameUnit m') :
    lastUnit (modules ++ [m]) m' = m := by
  simp [lastUnit, h]

theorem lastUnit_append_of_not_sameUnit (h : ¬ m.SameUnit m') :
    lastUnit (modules ++ [m]) m' = lastUnit modules m' := by
  simp [lastUnit, h]

theorem lastUnit_spec (hm : m ∈ modules) :
    lastUnit modules m ∈ modules ∧ (lastUnit modules m).SameUnit m := by
  unfold lastUnit
  cases hfind : modules.reverse.find? fun m' => m'.SameUnit m with
  | none =>
    rw [List.find?_eq_none] at hfind
    exact absurd (Module.SameUnit.refl m) (by simpa using hfind m (List.mem_reverse.mpr hm))
  | some last =>
    exact ⟨List.mem_reverse.mp (List.mem_of_find?_eq_some hfind),
      by simpa using List.find?_some hfind⟩

/-- Of the modules of an image only the functions and the trampolines count. -/
theorem imageOf_map {change : Module → Module} (h : ∀ m ∈ modules,
    (change m).functions = m.functions ∧ (change m).trampolines = m.trampolines) :
    imageOf (modules.map change) = imageOf modules := by
  have hparts : ∀ m ∈ modules,
      (change m).functions.filter (fun f => !f.isDeclaration)
        = m.functions.filter (fun f => !f.isDeclaration) ∧
      (change m).trampolines = m.trampolines := by
    intro m hm
    rw [(h m hm).1]
    exact ⟨rfl, (h m hm).2⟩
  rw [imageOf, imageOf, bodies, bodies, List.flatMap_map, List.flatMap_map,
    List.flatMap_congr fun m hm => (hparts m hm).1, List.flatMap_congr fun m hm => (hparts m hm).2]

/-- Modules resolve without their points as they do with them. -/
theorem resolve_plain (modules : List Module) :
    resolve (modules.map fun m => { m with mutations := [] }) = resolve modules := by
  have hdefinitions : definitions (modules.map fun m => { m with mutations := [] })
      = definitions modules := by
    simp only [definitions, List.flatMap_map]
  have htrampolines : (modules.map fun m => { m with mutations := [] }).flatMap (·.trampolines)
      = modules.flatMap (·.trampolines) := by
    rw [List.flatMap_map]
  unfold resolve
  rw [hdefinitions, htrampolines]

/-- Modules that stand for their units resolve as all of them do, if those that share a unit are the
same. -/
theorem resolve_kept_iff (hsame : ∀ m ∈ modules, ∀ m' ∈ modules, m.SameUnit m' →
    m.functions = m'.functions ∧ m.trampolines = m'.trampolines) {image : Image} :
    resolve (kept modules) = .ok image ↔ resolve modules = .ok image := by
  have himage : imageOf (kept modules) = imageOf modules :=
    imageOf_map fun m hm => hsame _ (lastUnit_spec hm).1 m hm (lastUnit_spec hm).2
  rw [resolve_eq_ok_iff, resolve_eq_ok_iff, himage]

/-! ## The work directory -/

/-- A directory can be made, and once it is made it takes the object files of modules and the files
of a linked program. -/
structure Room (d made : Disk) (directory name : String) (modules : List Module) : Prop where
  created : d.createDirectories directory = .ok made
  objects : ∀ m ∈ modules, ∃ place, made.Takes (m.objectPath directory) place
  image : ∃ place, made.Takes (imagePath directory name) place
  script : ∃ place, made.Takes (Path.join directory name) place

/-- Modules have been compiled to a directory. Files are still taken wherever they were when the
directory had just been made, and the object file of each module holds the last one of its unit. -/
structure Stores (start : Disk) (directory : String) (modules : List Module) (d : Disk) : Prop where
  ready : ∃ made, d.createDirectories directory = .ok made ∧
    ∀ {path place}, start.Takes path place → made.Takes path place
  holds : ∀ m ∈ modules, d.read (m.objectPath directory) = .ok (lastUnit modules m).encode

variable {start made d : Disk} {directory name : String}

/-- Before a module is compiled. -/
theorem stores_nil (h : d.createDirectories directory = .ok made) : Stores made directory [] d where
  ready := ⟨made, h, id⟩
  holds := List.forall_mem_nil _

/-- **What one more module leaves in the directory:** its own object file, and those of the other
units. -/
theorem Stores.compile (h : Stores start directory modules d) (hverify : m.verify = .ok ())
    (htakes : ∀ m' ∈ modules ++ [m], ∃ place, start.Takes (m'.objectPath directory) place)
    (happart : Apart (modules ++ [m])) :
    ∃ d', m.compile .program directory d = (d', .ok (m.objectPath directory)) ∧
      Stores start directory (modules ++ [m]) d' := by
  have hm : m ∈ modules ++ [m] := List.mem_append_right _ List.mem_cons_self
  obtain ⟨made, hmade, hkeeps⟩ := h.ready
  obtain ⟨place, hplace⟩ := htakes m hm
  have htaken : made.Takes (m.objectPath directory) place := hkeeps hplace
  obtain ⟨executable, hwrite⟩ := htaken.write m.encode
  refine ⟨_, Module.compile_eq_ok_iff.mpr ⟨hverify, rfl, made, hmade, hwrite⟩, ⟨_,
    Disk.createDirectories_again hmade rfl fun _ => Disk.node?_put_directory htaken.noDirectory,
    fun h => (hkeeps h).put htaken.noDirectory _ _⟩, fun m' hm' => ?_⟩
  by_cases hunit : m.SameUnit m'
  · have hpath : m'.objectPath directory = m.objectPath directory := by
      rw [Module.objectPath, Module.objectPath, hunit.objectName_eq]
    rw [lastUnit_append_of_sameUnit hunit, hpath]
    exact htaken.read_put _ _
  · rw [lastUnit_append_of_not_sameUnit hunit]
    -- other units have other names, so their files are elsewhere
    have hname : m'.objectName .program ≠ m.objectName .program := fun hname =>
      hunit (Module.objectName_inj (happart m hm m' hm') hname.symm)
    obtain ⟨place', hplace'⟩ := htakes m' hm'
    obtain ⟨front, hparts⟩ := Path.parts_join (m.slash_not_mem_objectName .program) directory
    obtain ⟨front', hparts'⟩ := Path.parts_join (m'.slash_not_mem_objectName .program) directory
    have hne : place' ≠ place := (hkeeps hplace').place_ne htaken hparts' hparts hname
    have hmem : m' ∈ modules := by
      rcases List.mem_append.mp hm' with hmem | hmem
      · exact hmem
      · obtain rfl := List.mem_singleton.mp hmem
        exact absurd (Module.SameUnit.refl m') hunit
    rw [Disk.read_put_of_ne htaken.noDirectory (hkeeps hplace').leads hne]
    exact Disk.read_createDirectories hmade (h.holds m' hmem)

/-- What is loaded from the object file of a module. -/
theorem Stores.load (h : Stores start directory modules d) (hm : m ∈ modules) :
    Module.load d (m.objectPath directory) = .ok { lastUnit modules m with mutations := [] } :=
  Disk.load_of_read (h.holds m hm) (lastUnit modules m).decode?_encode

/-- **The image that a linked program is run from.** -/
theorem install_eq_ok (image : Image) (runner : String) {place place' : List String}
    (hmade : d.createDirectories directory = .ok made)
    (himage : made.Takes (imagePath directory name) place)
    (hscript : made.Takes (Path.join directory name) place') :
    ∃ d', install image runner directory name d = (d', .ok (Path.join directory name)) ∧
      Image.load d' (imagePath directory name) = .ok image := by
  have hpath : imagePath directory name = Path.join directory name ++ ".image.json" :=
    Path.join_append (by decide) directory name
  -- the image has a longer name than the script, so it is elsewhere
  have hne : place ≠ place' := by
    obtain ⟨front, last, hparts, happend⟩ :=
      Path.parts_append (show '/' ∉ ".image.json".toList by decide) (Path.join directory name)
    rw [← hpath] at happend
    refine himage.place_ne hscript happend hparts fun hname => ?_
    have hlength := congrArg String.length hname
    rw [String.length_append] at hlength
    exact absurd (Nat.add_eq_left.mp hlength) (by decide)
  obtain ⟨executable, hwrite⟩ := himage.write image.encode
  have hscript' := hscript.put himage.noDirectory image.encode executable
  obtain ⟨executable', hwrite'⟩ :=
    hscript'.write (Launcher.script runner (imagePath directory name))
  have hexecutable :=
    hscript'.makeExecutable (Launcher.script runner (imagePath directory name)) executable'
  refine ⟨_, by simp only [install, hmade, hwrite, hwrite', hexecutable]; rfl, ?_⟩
  refine Disk.load_of_read ?_ image.decode?_encode
  have hkept := (himage.put himage.noDirectory image.encode executable)
  rw [Disk.read_put_of_ne (hscript'.put hscript'.noDirectory _ _).noDirectory
    (hkept.put hscript'.noDirectory _ _).leads hne,
    Disk.read_put_of_ne hscript'.noDirectory hkept.leads hne, himage.read_put]

end Link

end MutationTesting
