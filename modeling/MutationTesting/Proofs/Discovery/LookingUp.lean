import MutationTesting.Proofs.Discovery.Found

/-!
# Looking functions up

A reference is the index of a module and a name, so functions of one name in one module have one
reference, and looking it up gives the first of them. A program as it is loaded may have such
functions; it is only the compiler that rejects them.

* `Definition.IsFirst` — no other function of its name stands before it in its module
* `Program.find?_defined` — the first item with a reference
* `Program.exists_function?_ref`, `Program.function?_ref_of_isFirst` — what a reference leads to
* `Program.hasFunction_of_function?_ref`, `Program.exists_defined_of_hasFunction` — which names are
  had
* `Program.finds_defined` — **looking a defined function up gives the first of its name**
-/

namespace MutationTesting

/-! ## The first of its name -/

/-- No other function of its name stands before it in its module. -/
def Definition.IsFirst (d : Definition) : Prop :=
  ∃ front rest, d.owner.functions = front ++ d.function :: rest ∧
    ∀ g ∈ front, g.name ≠ d.function.name

theorem Definition.isFirst_iff {d : Definition} :
    d.IsFirst ↔ d.owner.function? d.function.name = some d.function := by
  simp [IsFirst, Module.function?, List.find?_eq_some_iff_append]

/-- If the first function of a name has a body, it is the first of its name with a body. -/
theorem Module.find?_body {m : Module} {name : String} {f : Function}
    (h : m.function? name = some f) (hbody : f.isDeclaration = false) :
    m.functions.find? (fun g => !g.isDeclaration && g.name == name) = some f := by
  obtain ⟨hname, front, rest, hsplit, hfront⟩ := List.find?_eq_some_iff_append.mp h
  refine List.find?_eq_some_iff_append.mpr ⟨by simp [hbody, hname], front, rest, hsplit, ?_⟩
  intro g hg
  have hother := hfront g hg
  simp_all

/-! ## The items of a program -/

/-- Only the element at one index counts: an induction on the list, for whatever the first index. -/
theorem findSome?_zipIdx {α β : Type} {g : α × Nat → Option β} {k : Nat}
    (h : ∀ x i, i ≠ k → g (x, i) = none) : ∀ (l : List α) (start : Nat), start ≤ k →
      (l.zipIdx start).findSome? g = l[k - start]?.bind fun x => g (x, k)
  | [], _, _ => rfl
  | x :: l, start, hstart => by
    rw [List.zipIdx_cons, List.findSome?_cons]
    rcases Nat.eq_or_lt_of_le hstart with rfl | hlt
    · cases hx : g (x, start) with
      | some y => simp [hx]
      | none =>
        have hrest : (l.zipIdx (start + 1)).findSome? g = none := by
          refine List.findSome?_eq_none_iff.mpr fun ⟨y, i⟩ hy => h y i ?_
          have := List.le_snd_of_mem_zipIdx hy
          omega
        simp [hx, hrest]
    · have hindex : k - start = k - (start + 1) + 1 := by omega
      rw [h x start (by omega), findSome?_zipIdx h l (start + 1) hlt, hindex,
        List.getElem?_cons_succ]

namespace Program

variable {p : Program} {name : String}

/-- **The first item with a reference** is made from the first function with a body that has the
name in the module. -/
theorem find?_defined (ref : FunctionRef) :
    p.defined.find? (·.ref == ref) = p.modules[ref.module]?.bind fun owner =>
      (owner.functions.find? fun f => !f.isDeclaration && f.name == ref.name).map
        fun function => ⟨ref, owner, function⟩ := by
  -- items of another module have other references
  have hother (owner : Module) (module : Nat) (hne : module ≠ ref.module) :
      ((owner.functions.filter fun f => !f.isDeclaration).map fun function =>
        (⟨⟨module, function.name⟩, owner, function⟩ : Definition)).find? (·.ref == ref)
          = none := by
    refine List.find?_eq_none.mpr fun d hd => ?_
    obtain ⟨f, -, rfl⟩ := List.mem_map.mp hd
    exact fun he => hne (congrArg FunctionRef.module (beq_iff_eq.mp he))
  rw [defined, List.find?_flatMap, findSome?_zipIdx hother _ 0 (Nat.zero_le _), Nat.sub_zero]
  congr 1
  funext owner
  have hsame (f : Function) :
      ((⟨ref.module, f.name⟩ : FunctionRef) == ref) = (f.name == ref.name) := by
    rw [Bool.eq_iff_iff, beq_iff_eq, beq_iff_eq]
    exact ⟨congrArg FunctionRef.name, fun h => by rw [h]⟩
  simp only [List.find?_map, List.find?_filter, Function.comp_def, hsame, Bool.decide_and,
    Bool.decide_eq_true]
  refine Option.map_congr fun f hf => ?_
  have hname := List.find?_some hf
  simp_all

/-- A name is had if the first function of the name in some module has a body. -/
theorem hasFunction_iff : p.hasFunction name = true ↔
    ∃ m ∈ p.modules, ∃ f, m.function? name = some f ∧ f.isDeclaration = false := by
  simp [hasFunction, Option.any_eq_true]

/-! ## What is looked up -/

variable {d : Definition}

/-- What a reference leads to has the name that was asked for, and if it has a body, it is the
function of the first item with that reference. -/
theorem exists_function?_ref (hd : d ∈ p.defined) :
    ∃ f ∈ d.owner.functions, f.name = d.function.name ∧ p.function? d.ref = some f ∧
      (f.isDeclaration = false →
        p.defined.find? (·.ref == d.ref) = some ⟨d.ref, d.owner, f⟩) := by
  obtain ⟨howner, hmem, -, hname⟩ := mem_defined.mp hd
  obtain ⟨f, hf⟩ : ∃ f, d.owner.function? d.function.name = some f :=
    Option.isSome_iff_exists.mp (List.find?_isSome.mpr ⟨_, hmem, beq_self_eq_true _⟩)
  refine ⟨f, List.mem_of_find?_eq_some hf, by simpa using List.find?_some hf,
    (function?_ref_eq hd).trans hf, fun hbody => ?_⟩
  rw [find?_defined, howner, Option.bind_some, hname, Module.find?_body hf hbody, Option.map_some]

theorem function?_ref_of_isFirst (hd : d ∈ p.defined) (h : d.IsFirst) :
    p.function? d.ref = some d.function :=
  (function?_ref_eq hd).trans (Definition.isFirst_iff.mp h)

/-- The name of an item is had if its reference leads to it. -/
theorem hasFunction_of_function?_ref (hd : d ∈ p.defined)
    (h : p.function? d.ref = some d.function) : p.hasFunction d.ref.name = true := by
  obtain ⟨howner, -, hbody, hname⟩ := mem_defined.mp hd
  rw [function?_ref_eq hd] at h
  exact hasFunction_iff.mpr ⟨_, List.mem_of_getElem? howner, _, hname ▸ h, hbody⟩

/-- Only names of items are had. -/
theorem exists_defined_of_hasFunction (h : p.hasFunction name = true) :
    ∃ d ∈ p.defined, d.ref.name = name := by
  obtain ⟨m, hm, f, hf, hbody⟩ := hasFunction_iff.mp h
  obtain ⟨index, hindex⟩ := List.mem_iff_getElem?.mp hm
  have hname : f.name = name := by simpa using List.find?_some hf
  exact ⟨⟨⟨index, name⟩, m, f⟩,
    mem_defined.mpr ⟨hindex, List.mem_of_find?_eq_some hf, hbody, hname.symm⟩, rfl⟩

/-- **Looking a defined function up gives the first function of its name** in its module, so the
function itself if no other of its name stands before it, and otherwise, if what is found has a
body, the function of the first item with the reference. A name is had only if some item has it, and
is had if an item of the name is the first of its name. Where no module has two functions of one
name, every item is found and every name of an item is had. -/
theorem finds_defined (p : Program) :
    (∀ d ∈ p.defined, ∃ f ∈ d.owner.functions, f.name = d.function.name ∧
      p.function? d.ref = some f ∧
      (f.isDeclaration = false →
        p.defined.find? (·.ref == d.ref) = some ⟨d.ref, d.owner, f⟩)) ∧
    (∀ d ∈ p.defined, d.IsFirst →
      p.function? d.ref = some d.function ∧ p.hasFunction d.ref.name = true) ∧
    (∀ name, p.hasFunction name = true → ∃ d ∈ p.defined, d.ref.name = name) ∧
    ((∀ m ∈ p.modules, (m.functions.map (·.name)).Nodup) →
      (∀ d ∈ p.defined, p.function? d.ref = some d.function) ∧
      ∀ name, p.hasFunction name = true ↔ ∃ d ∈ p.defined, d.ref.name = name) := by
  refine ⟨fun d hd => exists_function?_ref hd, fun d hd hfirst => ?_,
    fun name hname => exists_defined_of_hasFunction hname, fun hnames => ?_⟩
  · have hlooked := function?_ref_of_isFirst hd hfirst
    exact ⟨hlooked, hasFunction_of_function?_ref hd hlooked⟩
  · have hlooked (d : Definition) (hd : d ∈ p.defined) : p.function? d.ref = some d.function :=
      function?_ref hnames hd
    refine ⟨hlooked, fun name => ⟨exists_defined_of_hasFunction, ?_⟩⟩
    rintro ⟨d, hd, rfl⟩
    exact hasFunction_of_function?_ref hd (hlooked d hd)

/-- A function that gives back one of its parameters. -/
def giving (name : String) (params index : UInt32) : Function :=
  ⟨name, params, [⟨[⟨.ret (.parameter index), none⟩]⟩], none⟩

/-- A program with a function that is declared before it is defined, and one defined twice. -/
def repeating : Program :=
  ⟨[⟨"unit", "unit.c", [⟨"main", 0, [], none⟩, ⟨"main", 0, [⟨[⟨.ret (.constant 0), none⟩]⟩], none⟩,
    giving "step" 1 0, giving "step" 2 1], [], []⟩], [], []⟩

/-- The first of two functions is found, also for the item of the other. -/
theorem repeating_finds :
    (∀ d ∈ repeating.defined, d.ref = ⟨0, "step"⟩ →
      repeating.function? d.ref = some (giving "step" 1 0) ∧
      repeating.defined.find? (·.ref == d.ref) = some ⟨d.ref, d.owner, giving "step" 1 0⟩) ∧
    repeating.hasFunction "step" = true := by
  obtain ⟨hsame, hfirst, -⟩ := finds_defined repeating
  have hstep : ∃ d ∈ repeating.defined, d.ref = ⟨0, "step"⟩ ∧
      d.function = giving "step" 1 0 ∧ d.owner.function? "step" = some d.function := by
    decide
  obtain ⟨first, hmem, href, hfunction, hlookup⟩ := hstep
  have hisFirst : first.IsFirst :=
    Definition.isFirst_iff.mpr (by rw [hfunction] at hlookup ⊢; exact hlookup)
  obtain ⟨hfound, hhad⟩ := hfirst first hmem hisFirst
  rw [href, hfunction] at hfound
  rw [href] at hhad
  refine ⟨fun d hd hd' => ?_, hhad⟩
  obtain ⟨f, -, -, hf, hitem⟩ := hsame d hd
  rw [hd'] at hf hitem ⊢
  obtain rfl : giving "step" 1 0 = f := Option.some.inj (hfound.symm.trans hf)
  exact ⟨hfound, hitem rfl⟩

/-- The second function of a name is not what its reference leads to, nor is a name had whose
function is declared before it is defined. -/
theorem repeating_misses :
    ¬ (∀ d ∈ repeating.defined, repeating.function? d.ref = some d.function) ∧
    ¬ (∀ name, repeating.hasFunction name = true ↔
      ∃ d ∈ repeating.defined, d.ref.name = name) := by
  constructor
  · decide
  · exact fun h => absurd ((h "main").mpr (by decide)) (by decide)

end Program

end MutationTesting
