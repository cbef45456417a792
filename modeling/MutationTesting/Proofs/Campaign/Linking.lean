import MutationTesting.Proofs.Campaign.Steps
import MutationTesting.Proofs.Toolchain.ObjectFiles

/-!
# Building through object files

A program is built by compiling its modules to one directory and linking the object files. What is
linked there are the modules that stand for their units, the last one of each; so the image is the
one that these modules resolve to, and the one that all modules resolve to unless two different ones
share a name and a source file.

* `Session.run_compileAll` — compiling modules one after the other
* `Session.run_link` — linking their object files
* `Session.builds_kept` — **what is built, and when**
-/

namespace MutationTesting

open Link

namespace Session

variable {α : Type} {w w' : World} {modules : List Module} {start made : Disk}
  {runner directory name path : String}

theorem run_onDisk (operation : Disk → Disk × Except Failure α) :
    (onDisk operation).run w = ((operation w.disk).2, { w with disk := (operation w.disk).1 }) := by
  show ((ofExcept (operation w.disk).2 : Session α).run _) = _
  cases (operation w.disk).2 <;> rfl

/-- A step for each of some items, if none of them is given up. -/
theorem run_mapM_cons {β : Type} {f : α → Session β} {a : α} {as : List α} {b : β} {bs : List β}
    {w₁ : World} (ha : (f a).run w = (.ok b, w₁)) (has : (as.mapM f).run w₁ = (.ok bs, w')) :
    ((a :: as).mapM f).run w = (.ok (b :: bs), w') := by
  rw [List.mapM_cons, run_bind_of_ok ha, run_bind_of_ok has]
  rfl

/-! ## Compiling -/

theorem run_compile {m : Module} {kind : ObjectKind} :
    (compile m kind directory).run w
      = ((m.compile kind directory w.disk).2.mapError .ofCompile,
        { w with disk := (m.compile kind directory w.disk).1 }) :=
  run_onDisk _

/-- Of modules that have been compiled one after the other each one has been compiled. -/
theorem compiled_of_run : ∀ {modules : List Module} {w w' : World} {paths : List String},
    (modules.mapM fun m => compile m .program directory).run w = (.ok paths, w') →
      ∀ m ∈ modules, ∃ d d' object, m.compile .program directory d = (d', .ok object)
  | [], _, _, _, _ => List.forall_mem_nil _
  | m :: modules, w, _, _, h => by
    rw [List.mapM_cons] at h
    obtain ⟨path, w₁, hm, h⟩ := run_bind_ok h
    obtain ⟨paths, w₂, hrest, -⟩ := run_bind_ok h
    refine List.forall_mem_cons.mpr ⟨⟨w.disk, ?_⟩, compiled_of_run hrest⟩
    rw [run_compile] at hm
    cases hresult : (m.compile .program directory w.disk).2 with
    | error fault =>
      rw [hresult] at hm
      cases hm
    | ok object => exact ⟨_, object, Prod.ext rfl hresult⟩

/-- Modules are compiled before they are linked. -/
theorem compiled_of_build (h : (build modules runner directory name).run w = (.ok path, w')) :
    ∀ m ∈ modules, ∃ d d' object, m.compile .program directory d = (d', .ok object) := by
  obtain ⟨paths, w₁, hcompiled, -⟩ := run_bind_ok h
  exact compiled_of_run hcompiled

theorem verify_of_build (h : (build modules runner directory name).run w = (.ok path, w')) :
    ∀ m ∈ modules, m.verify = .ok () := by
  intro m hm
  obtain ⟨d, d', object, hcompile⟩ := compiled_of_build h m hm
  exact (Module.compile_eq_ok_iff.mp hcompile).1

/-- No program is built from a module with a very long name. -/
theorem not_build_of_longName {m : Module} (hm : m ∈ modules) (hlong : 231 < m.name.length) :
    (build modules runner directory name).run w ≠ (.ok path, w') := by
  intro h
  obtain ⟨d, d', object, hcompile⟩ := compiled_of_build h m hm
  exact Module.compile_longName hlong hcompile

/-- A stage that compiles modules keeps the object file of every unit. -/
theorem handlesAll_compile (stageName : String) (workers : Nat)
    (htakes : ∀ m ∈ modules, ∃ place, start.Takes (m.objectPath directory) place)
    (happart : Apart modules) (hverify : ∀ m ∈ modules, m.verify = .ok ()) :
    ∀ {rest before : List Module} {d : Disk}, before ++ rest = modules →
      Stores start directory before d →
      ∃ d', Workers.HandlesAll ((compileStage directory stageName workers).handle 0) rest d
          (rest.map (·.objectPath directory)) rest d' ∧
        Stores start directory modules d'
  | [], before, d, hsplit, h => by
    rw [List.append_nil] at hsplit
    exact ⟨d, .nil d, hsplit ▸ h⟩
  | m :: rest, before, d, hsplit, h => by
    have hsplit' : (before ++ [m]) ++ rest = modules := by simp [← hsplit]
    have hsub : before ++ [m] ⊆ modules := hsplit' ▸ List.subset_append_left _ _
    have hm : m ∈ modules := hsub (List.mem_append_right _ List.mem_cons_self)
    obtain ⟨d₁, hcompile, h₁⟩ :=
      h.compile (hverify m hm) (fun m' hm' => htakes m' (hsub hm')) (happart.mono hsub)
    have hhandle : (compileStage directory stageName workers).handle 0 m d
        = { ending := .done [m.objectPath directory], item := m, state := d₁ } := by
      simp only [compileStage, hcompile]
    obtain ⟨d', hrest, h'⟩ :=
      handlesAll_compile stageName workers htakes happart hverify hsplit' h₁
    refine ⟨d', ?_, h'⟩
    have hcons : Workers.HandlesAll ((compileStage directory stageName workers).handle 0)
        (m :: rest) d ([m.objectPath directory] ++ rest.map (·.objectPath directory))
        (((compileStage directory stageName workers).handle 0 m d).item :: rest) d' :=
      .cons (by rw [hhandle]) (by rw [hhandle]; exact hrest)
    rwa [hhandle] at hcons

/-- Without a stage, modules are compiled alike. -/
theorem run_mapM_compile {stageName : String} {workers : Nat} {items items' : List Module}
    {d d' : Disk} {outputs : List String}
    (h : Workers.HandlesAll ((compileStage directory stageName workers).handle 0) items d outputs
      items' d') (w : World) :
    (items.mapM fun m => compile m .program directory).run { w with disk := d }
      = (.ok outputs, { w with disk := d' }) := by
  induction h with
  | nil => rfl
  | @cons m _ _ d _ _ _ hdone _ ih =>
    cases hcompile : m.compile .program directory d with
    | mk d₁ result =>
      simp only [compileStage, hcompile] at hdone ih
      cases result with
      | ok path =>
        cases hdone
        exact run_mapM_cons (by rw [run_compile, hcompile]; rfl) ih
      | error fault => cases hdone

/-- **Compiling modules one after the other** keeps the object file of every unit. -/
theorem run_compileAll (htakes : ∀ m ∈ modules, ∃ place, start.Takes (m.objectPath directory) place)
    (happart : Apart modules) (hverify : ∀ m ∈ modules, m.verify = .ok ())
    (h : Stores start directory [] w.disk) :
    ∃ d', (modules.mapM fun m => compile m .program directory).run w
        = (.ok (modules.map (·.objectPath directory)), { w with disk := d' }) ∧
      Stores start directory modules d' := by
  obtain ⟨d', hdone, hstores⟩ :=
    handlesAll_compile "" 1 htakes happart hverify (List.nil_append _) h
  exact ⟨d', run_mapM_compile hdone w, hstores⟩

/-! ## Linking -/

/-- Object files are loaded one after the other. -/
theorem run_loadObjects {disk : Disk} {object : Module → String} {loaded : Module → Module}
    (h : ∀ m ∈ modules, Module.load disk (object m) = .ok (loaded m)) :
    ((modules.map object).mapM fun path => (ofExcept ((Module.load disk path).mapError
      fun fault => .link (.badObject fault)) : Session Module)).run w
      = (.ok (modules.map loaded), w) := by
  refine run_loads_eq_ok_iff.mpr ⟨?_, rfl⟩
  rw [List.forall₂_map_left_iff, List.forall₂_map_right_iff, List.forall₂_same]
  exact h

/-- **What is linked are the modules that stand for their units.** -/
theorem run_link (hstores : Stores start directory modules w.disk) :
    (link (modules.map (·.objectPath directory)) runner directory name).run w
      = match resolve (kept modules) with
        | .error fault => (.error (.link fault), w)
        | .ok image =>
          ((install image runner directory name w.disk).2.mapError .io,
            { w with disk := (install image runner directory name w.disk).1 }) := by
  have hresolve : resolve (modules.map fun m => { lastUnit modules m with mutations := [] })
      = resolve (kept modules) := by
    rw [← resolve_plain (kept modules), kept, List.map_map]
    rfl
  show ((modules.map _).mapM _ >>= _ : Session String).run w = _
  rw [run_bind_of_ok (run_loadObjects fun m hm => hstores.load hm), hresolve]
  cases resolve (kept modules) with
  | error fault => rfl
  | ok image => exact (run_bind_of_ok rfl).trans (run_onDisk _)

/-! ## Building -/

variable (hroom : Room w.disk made directory name modules) (happart : Apart modules)

include hroom happart

/-- Building modules that are fit for it. -/
theorem run_build (runner : String) (hverify : ∀ m ∈ modules, m.verify = .ok ()) :
    (∃ fault, resolve (kept modules) = .error fault ∧
      ∃ w', (build modules runner directory name).run w = (.error (.link fault), w')) ∨
    ∃ image, resolve (kept modules) = .ok image ∧
      ∃ w', (build modules runner directory name).run w = (.ok (Path.join directory name), w') ∧
        Image.load w'.disk (imagePath directory name) = .ok image := by
  obtain ⟨d', hcompiled, hstores⟩ :=
    run_compileAll hroom.objects happart hverify (stores_nil hroom.created)
  have hbuild : (build modules runner directory name).run w
      = (link (modules.map (·.objectPath directory)) runner directory name).run
        { w with disk := d' } :=
    run_bind_of_ok hcompiled
  cases hresolve : resolve (kept modules) with
  | error fault =>
    refine Or.inl ⟨fault, rfl, { w with disk := d' }, ?_⟩
    rw [hbuild, run_link hstores, hresolve]
  | ok image =>
    obtain ⟨made', hmade, hkeeps⟩ := hstores.ready
    obtain ⟨place, himage⟩ := hroom.image
    obtain ⟨place', hscript⟩ := hroom.script
    obtain ⟨d'', hinstall, hload⟩ := install_eq_ok image runner hmade (hkeeps himage) (hkeeps hscript)
    refine Or.inr ⟨image, rfl, { w with disk := d'' }, ?_, hload⟩
    rw [hbuild, run_link hstores, hresolve]
    simp only [hinstall]
    rfl

/-- A program is built exactly if its modules are fit and those that stand for their units resolve,
and what is built is the image that they resolve to. -/
theorem builds_image_iff {image : Image} :
    (∃ path w', (build modules runner directory name).run w = (.ok path, w') ∧
      Image.load w'.disk (imagePath directory name) = .ok image) ↔
      (∀ m ∈ modules, m.verify = .ok ()) ∧ resolve (kept modules) = .ok image := by
  constructor
  · rintro ⟨path, w', hbuild, hload⟩
    have hverify := verify_of_build hbuild
    refine ⟨hverify, ?_⟩
    rcases run_build hroom happart runner hverify with
      ⟨fault, -, _, hrun⟩ | ⟨image', hresolve, _, hrun, hload'⟩
    · rw [hrun] at hbuild
      cases hbuild
    · rw [hrun] at hbuild
      cases hbuild
      rw [hload'] at hload
      rwa [Except.ok.inj hload] at hresolve
  · rintro ⟨hverify, hresolve⟩
    rcases run_build hroom happart runner hverify with
      ⟨fault, hfault, -⟩ | ⟨image', himage, w', hrun, hload⟩
    · rw [hresolve] at hfault
      cases hfault
    · rw [hresolve] at himage
      cases himage
      exact ⟨_, w', hrun, hload⟩

/-- A program that is built has an image. -/
theorem exists_image_of_build {w' : World} {path : String}
    (h : (build modules runner directory name).run w = (.ok path, w')) :
    ∃ image, Image.load w'.disk (imagePath directory name) = .ok image := by
  rcases run_build hroom happart runner (verify_of_build h) with
    ⟨fault, -, _, hrun⟩ | ⟨image, -, _, hrun, hload⟩
  · rw [hrun] at h
    cases h
  · rw [hrun] at h
    cases h
    exact ⟨image, hload⟩

/-- **What is built, and when.** A program is built exactly if its modules are fit and those that
stand for their units, the last one of each, resolve to an image; what is built is this image. If
modules that share a name and a source file have the same functions and trampolines, it is the image
that all modules resolve to. -/
theorem builds_kept :
    (∀ image : Image, (∃ path w', (build modules runner directory name).run w = (.ok path, w') ∧
        Image.load w'.disk (imagePath directory name) = .ok image) ↔
      (∀ m ∈ modules, m.verify = .ok ()) ∧ resolve (kept modules) = .ok image) ∧
    (∀ path w', (build modules runner directory name).run w = (.ok path, w') →
      ∃ image, Image.load w'.disk (imagePath directory name) = .ok image) ∧
    ((∀ m ∈ modules, ∀ m' ∈ modules, m.SameUnit m' →
        m.functions = m'.functions ∧ m.trampolines = m'.trampolines) →
      ∀ image : Image, resolve (kept modules) = .ok image ↔ resolve modules = .ok image) :=
  ⟨fun _ => builds_image_iff hroom happart, fun _ _ => exists_image_of_build hroom happart,
    fun hsame _ => resolve_kept_iff hsame⟩

omit hroom happart

/-! ### Two modules of one name -/

/-- Two modules of one name, the second one from this source file. -/
def halves (sourceFile : String) : List Module := [
  { name := "unit"
    sourceFile := "unit.c"
    functions := [
      { name := "main"
        params := 0
        blocks := [⟨[⟨.call (some 0) "step" [], none⟩, ⟨.ret (.register 0), none⟩]⟩] },
      { name := "step", params := 0, blocks := [] }] },
  { name := "unit"
    sourceFile
    functions := [{ name := "step", params := 0, blocks := [⟨[⟨.ret (.constant 1), none⟩]⟩] }] }]

/-- A module with a name of this many letters. -/
def longNamed (letters : Nat) : Module where
  name := String.ofList (List.replicate letters 'n')
  sourceFile := "long.c"
  functions := [{ name := "main", params := 0, blocks := [⟨[⟨.ret (.constant 0), none⟩]⟩] }]

/-- A disk with a directory to work in. -/
def workshop : Disk :=
  ({} : Disk).put ["work"] .directory

theorem room_halves : ∀ sourceFile ∈ ["step.c", "unit.c"],
    Room {} workshop "work" "program" (halves sourceFile) := by
  intro sourceFile hfile
  have hobjects : ∀ file ∈ ["step.c", "unit.c"], ∀ m ∈ halves file,
      workshop.Takes (m.objectPath "work") ["work", m.objectName .program] := by
    decide +kernel
  exact ⟨rfl, fun m hm => ⟨_, hobjects sourceFile hfile m hm⟩,
    ⟨["work", "program.image.json"], by decide +kernel⟩, ⟨["work", "program"], by decide +kernel⟩⟩

/-- From two source files both halves are built. -/
theorem builds_halves :
    Room {} workshop "work" "program" (halves "step.c") ∧ Apart (halves "step.c") ∧
      ∃ path w', (build (halves "step.c") "/opt/runner" "work" "program").run
          { disk := {}, diagnostics := .silent } = (.ok path, w') ∧
        Image.load w'.disk (imagePath "work" "program") = .ok (imageOf (halves "step.c")) := by
  have hroom := room_halves "step.c" (by decide)
  have happart : Apart (halves "step.c") := by decide +kernel
  refine ⟨hroom, happart, ?_⟩
  refine ((builds_kept (w := { disk := {}, diagnostics := .silent }) hroom happart).1 _).mpr
    ⟨by decide +kernel, ?_⟩
  exact (resolve_kept_iff (by decide +kernel)).mpr (by decide +kernel)

/-- From one source file the halves are not built, and neither is a module with a very long name,
although these modules are fit and resolve. -/
theorem not_builds_halves_of_one_file :
    ((∀ m ∈ halves "unit.c", m.verify = .ok ()) ∧
      resolve (halves "unit.c") = .ok (imageOf (halves "unit.c")) ∧ Apart (halves "unit.c") ∧
      ∀ path w', (build (halves "unit.c") "/opt/runner" "work" "program").run
        { disk := {}, diagnostics := .silent } ≠ (.ok path, w')) ∧
    (longNamed 232).verify = .ok () ∧
      resolve [longNamed 232] = .ok (imageOf [longNamed 232]) ∧
      ∀ path w', (build [longNamed 232] "/opt/runner" "work" "program").run
        { disk := {}, diagnostics := .silent } ≠ (.ok path, w') := by
  have hroom := room_halves "unit.c" (by decide)
  have happart : Apart (halves "unit.c") := by decide +kernel
  have hlong : 231 < (longNamed 232).name.length := by
    rw [longNamed, String.length_ofList, List.length_replicate]
    decide
  refine ⟨⟨by decide +kernel, by decide +kernel, happart, fun path w' h => ?_⟩, by decide +kernel,
    by decide +kernel, fun path w' => not_build_of_longName List.mem_cons_self hlong⟩
  -- the second half stands for both, so there is no main function and one function twice
  have hfault : resolve (kept (halves "unit.c"))
      = .error (.duplicateSymbol "step" "unit" "unit") := by
    decide +kernel
  obtain ⟨image, hload⟩ :=
    exists_image_of_build (w := { disk := {}, diagnostics := .silent }) hroom happart h
  have himage := ((builds_image_iff (w := { disk := {}, diagnostics := .silent }) hroom happart).mp
    ⟨path, w', h, hload⟩).2
  rw [hfault] at himage
  cases himage

end Session

end MutationTesting
