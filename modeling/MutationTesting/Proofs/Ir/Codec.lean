import MutationTesting.Machine.Image
import MutationTesting.Proofs.Json.Kept
import MutationTesting.Proofs.Json.RoundTrip

/-!
# Stored programs

Every record of a program is found again in its stored form, and stored forms are printed without
decimals. So the text of a module or an image denotes what it was made from; only the mutation points
of a module are not stored.

* `Instruction.ofJson?_toJson`, `Function.ofJson?_toJson` — the records of a program
* `Module.decode?_encode`, `Image.decode?_encode` — **texts of modules and images**
-/

namespace MutationTesting

/-! ## Values of the stored forms -/

namespace Json

theorem word32?_word32 (n : UInt32) : word32? (.word32 n) = some n := by
  have hlt := n.toNat_lt
  have hbetween : (0 : Int) ≤ n.toNat ∧ (n.toNat : Int) ≤ UInt32.size - 1 := by
    simp only [UInt32.size]
    omega
  simp only [word32?, word32, nat, intBetween?, if_pos hbetween, Option.map_some,
    Int.toNat_natCast, UInt32.ofNat_toNat]

theorem word64?_word64 (n : UInt64) : word64? (.word64 n) = some n := by
  have hlt := n.toNat_lt
  have hbetween : (0 : Int) ≤ n.toNat ∧ (n.toNat : Int) ≤ UInt64.size - 1 := by
    simp only [UInt64.size]
    omega
  simp only [word64?, word64, nat, intBetween?, if_pos hbetween, Option.map_some,
    Int.toNat_natCast, UInt64.ofNat_toNat]

theorem int64?_int64 (n : Int64) : int64? (.int64 n) = some n := by
  have hbetween : Int64.minValue.toInt ≤ n.toInt ∧ n.toInt ≤ Int64.maxValue.toInt :=
    ⟨n.minValue_le_toInt, n.toInt_le⟩
  simp only [int64?, int64, intBetween?, if_pos hbetween, Option.map_some, Int64.ofInt_toInt]

/-- A list whose items are found again is found again. -/
theorem list?_ofList {α : Type} {decode : Json → Option α} {encode : α → Json} {items : List α}
    (h : ∀ a ∈ items, decode (encode a) = some a) : list? decode (ofList encode items) = some items := by
  show (items.map encode).mapM decode = some items
  induction items with
  | nil => rfl
  | cons a items ih =>
    rw [List.forall_mem_cons] at h
    rw [List.map_cons, List.mapM_cons, h.1, ih h.2]
    rfl

/-- The members of an object whose names are distinct are looked up by their names. -/
theorem membersNamed_ofMembers {members : List (String × Json)} (name : String)
    (h : (members.map (·.1)).Nodup) :
    membersNamed name (members.map fun m => (some m.1, m.2)) = (members.lookup name).toList := by
  induction members with
  | nil => rfl
  | cons m members ih =>
    rw [List.map_cons, List.nodup_cons] at h
    have hcons : membersNamed name ((m :: members).map fun m => (some m.1, m.2))
        = (if m.1 = name then [m.2] else []) ++ (members.lookup name).toList := by
      rw [← ih h.2, membersNamed, List.map_cons, List.filterMap_cons]
      by_cases hname : m.1 = name <;> simp [hname, membersNamed]
    rw [hcons, List.lookup_cons]
    by_cases hname : m.1 = name
    · subst hname
      have hrest : members.lookup m.1 = none := by
        rw [List.lookup_eq_none_iff]
        intro m' hm'
        have hne : m.1 ≠ m'.1 := fun hsame => h.1 (hsame ▸ List.mem_map_of_mem hm')
        simpa using hne
      simp [hrest]
    · simp [hname, beq_eq_false_iff_ne.mpr (Ne.symm hname)]

theorem single?_ofMembers {members : List (String × Json)} (name : String)
    (h : (members.map (·.1)).Nodup) :
    single? name (members.map fun m => (some m.1, m.2)) = some (members.lookup name) := by
  rw [single?, membersNamed_ofMembers name h]
  cases members.lookup name <;> rfl

theorem fields?_ofMembers {members : List (String × Json)} (names : List String)
    (h : (members.map (·.1)).Nodup) :
    (ofMembers members).fields? names = some (names.map fun name => members.lookup name) := by
  have hplain : (members.map fun m => (some m.1, m.2)).all (·.1.isSome) = true := by simp
  show (if (members.map fun m => (some m.1, m.2)).all (·.1.isSome) = true then _ else _) = _
  rw [if_pos hplain]
  induction names with
  | nil => rfl
  | cons name names ih =>
    rw [List.mapM_cons, single?_ofMembers name h, ih]
    rfl

theorem areExact_iff {items : List Json} : AreExact items ↔ ∀ item ∈ items, item.IsExact := by
  induction items with
  | nil => simp [AreExact]
  | cons item items ih => rw [AreExact, ih, List.forall_mem_cons]

theorem membersExact_iff {members : List (Option String × Json)} :
    MembersExact members ↔ ∀ m ∈ members, m.2.IsExact := by
  induction members with
  | nil => simp [MembersExact]
  | cons m members ih => rw [MembersExact, ih, List.forall_mem_cons]

theorem isExact_ofList {α : Type} {encode : α → Json} {items : List α}
    (h : ∀ a, (encode a).IsExact) : (ofList encode items).IsExact := by
  show AreExact (items.map encode)
  simp [areExact_iff, h]

theorem isExact_ofMembers {members : List (String × Json)} :
    (ofMembers members).IsExact ↔ ∀ m ∈ members, m.2.IsExact := by
  show MembersExact (members.map _) ↔ _
  rw [membersExact_iff, List.forall_mem_map]

/-! ### Values that can be kept -/

theorem isKeepable_int (levels : Nat) {n : Int} (h : n.natAbs < UInt64.size) :
    isKeepable levels (.int n) = true := by
  simp only [isKeepable]
  exact isFiniteInteger_of_lt h

theorem isKeepable_word32 (levels : Nat) (n : UInt32) : isKeepable levels (.word32 n) = true := by
  have hlt := n.toNat_lt
  refine isKeepable_int levels ?_
  simp only [Int.natAbs_natCast, UInt64.size]
  omega

theorem isKeepable_word64 (levels : Nat) (n : UInt64) : isKeepable levels (.word64 n) = true := by
  have hlt := n.toNat_lt
  refine isKeepable_int levels ?_
  simp only [Int.natAbs_natCast, UInt64.size]
  omega

theorem isKeepable_int64 (levels : Nat) (n : Int64) : isKeepable levels (.int64 n) = true := by
  have hlow := n.le_toInt
  have hhigh := n.toInt_lt
  refine isKeepable_int levels ?_
  simp only [UInt64.size]
  omega

theorem isKeepable_ofList {α : Type} {encode : α → Json} {levels : Nat}
    (h : ∀ a, isKeepable levels (encode a) = true) (items : List α) :
    isKeepable (levels + 1) (ofList encode items) = true := by
  show areKeepable levels (items.map encode) = true
  induction items with
  | nil => rfl
  | cons a items ih => rw [List.map_cons, areKeepable, h, ih, Bool.true_and]

end Json

open Json

/-! ## Locations -/

namespace Location

theorem isExact_toJson (l : Location) : l.toJson.IsExact := by
  simp [toJson, isExact_ofMembers, IsExact, word32, nat]

theorem ofJson?_toJson (l : Location) : ofJson? l.toJson = some l := by
  rw [ofJson?, toJson, fields?_ofMembers _ (by simp)]
  simp [List.lookup_cons, required?, text?, word32?_word32]

theorem isExact_member (l : Option Location) : ∀ m ∈ member l, m.2.IsExact := by
  cases l with
  | none => simp [member]
  | some l => simpa [member] using l.isExact_toJson

theorem lookup_member (l : Option Location) : (member l).lookup "location" = l.map toJson := by
  cases l <;> rfl

/-- The field of a location that may be absent. -/
theorem optional?_map_toJson (l : Option Location) :
    optional? none (nullable? ofJson?) (l.map toJson) = some l := by
  cases l with
  | none => rfl
  | some l =>
    show (ofJson? l.toJson).map some = some (some l)
    rw [ofJson?_toJson, Option.map_some]

end Location

/-! ## Instructions -/

namespace Operand

theorem isExact_toJson (o : Operand) : o.toJson.IsExact := by
  cases o <;> simp [toJson, isExact_ofMembers, IsExact, word32, int64, nat]

theorem isKeepable_toJson (levels : Nat) (o : Operand) :
    isKeepable (levels + 1) o.toJson = true := by
  cases o <;>
    simp [toJson, ofMembers, isKeepable, membersKeepable, isKeepable_word32, isKeepable_int64]

theorem ofJson?_toJson (o : Operand) : ofJson? o.toJson = some o := by
  cases o with
  | register index => exact congrArg (Option.map _) (word32?_word32 index)
  | parameter index => exact congrArg (Option.map _) (word32?_word32 index)
  | constant value => exact congrArg (Option.map _) (int64?_int64 value)

theorem list?_ofList (operands : List Operand) :
    list? ofJson? (ofList toJson operands) = some operands :=
  Json.list?_ofList fun o _ => o.ofJson?_toJson

end Operand

namespace Action

theorem isExact_members (a : Action) : ∀ m ∈ a.members, m.2.IsExact := by
  have hoperands (args : List Operand) : (ofList Operand.toJson args).IsExact :=
    isExact_ofList Operand.isExact_toJson
  cases a with
  | call dst callee args =>
    cases dst <;> simp [members, IsExact, word32, nat, hoperands, ofOption]
  | _ => simp [members, IsExact, word32, word64, nat, Operand.isExact_toJson, hoperands]

/-- No action has a member named like that of a location. -/
theorem name_ne_of_mem_members (a : Action) : ∀ m ∈ a.members, m.1 ≠ "location" := by
  cases a <;> simp [members]

theorem membersKeepable_members (a : Action) :
    membersKeepable Instruction.memberLevels (a.members.map fun m => (some m.1, m.2)) = true := by
  have hoperand (o : Operand) : isKeepable Instruction.memberLevels o.toJson = true :=
    o.isKeepable_toJson 119
  have hoperands (args : List Operand) :
      isKeepable Instruction.memberLevels (ofList Operand.toJson args) = true :=
    isKeepable_ofList (Operand.isKeepable_toJson 118) args
  have hstr (text : String) : isKeepable Instruction.memberLevels (.str text) = true := rfl
  cases a with
  | call dst callee args =>
    have hdst : isKeepable Instruction.memberLevels (ofOption word32 dst) = true := by
      cases dst with
      | none => rfl
      | some dst => exact isKeepable_word32 _ dst
    simp [members, membersKeepable, hdst, hstr, hoperands]
  | _ => simp [members, membersKeepable, hstr, hoperand, hoperands, isKeepable_word32,
      isKeepable_word64]

theorem nodup_members (a : Action) : (a.members.map (·.1)).Nodup := by
  cases a <;> simp [members]

/-- The fields of an action are looked up by their names. -/
theorem field?_members {α : Type} (a : Action) (name : String) (decode : Json → Option α) :
    field? (a.members.map fun m => (some m.1, m.2)) name decode
      = required? decode (a.members.lookup name) := by
  rw [field?, single?_ofMembers name a.nodup_members, Option.bind_some]

theorem ofMembers?_members (a : Action) :
    ofMembers? (a.members.map fun m => (some m.1, m.2)) = some a := by
  unfold ofMembers?
  simp only [field?_members, single?_ofMembers _ a.nodup_members]
  cases a with
  | binary dst op lhs rhs =>
    simp [members, List.lookup_cons, required?, kind?, word32?_word32, Operator.ofJson?,
      Operator.ofName?_name, Operand.ofJson?_toJson]
  | call dst callee args =>
    have hdst : optional? none (nullable? word32?) (some (ofOption word32 dst)) = some dst := by
      cases dst with
      | none => rfl
      | some dst => exact congrArg (Option.map some) (word32?_word32 dst)
    simp [members, List.lookup_cons, required?, kind?, hdst, text?, Operand.list?_ofList]
  | dispatch dst trampoline args =>
    simp [members, List.lookup_cons, required?, kind?, word32?_word32, text?, Operand.list?_ofList]
  | print value => simp [members, List.lookup_cons, required?, kind?, Operand.ofJson?_toJson]
  | jump target => simp [members, List.lookup_cons, required?, kind?, word64?_word64]
  | branch cond thenBlock elseBlock =>
    simp [members, List.lookup_cons, required?, kind?, word64?_word64, Operand.ofJson?_toJson]
  | ret value => simp [members, List.lookup_cons, required?, kind?, Operand.ofJson?_toJson]

end Action

namespace Instruction

theorem isExact_toJson (i : Instruction) : i.toJson.IsExact := by
  rw [toJson, isExact_ofMembers, List.forall_mem_append]
  exact ⟨i.action.isExact_members, Location.isExact_member i.location⟩

theorem ofJson?_toJson (i : Instruction) : ofJson? i.toJson = some i := by
  obtain ⟨action, location⟩ := i
  have hkept : ((action.members ++ Location.member location).map
        fun m => (some m.1, m.2)).filter (fun m : Option String × Json => m.1 != some "location")
      = action.members.map fun m => (some m.1, m.2) := by
    rw [List.map_append, List.filter_append, List.filter_eq_self.mpr, List.filter_eq_nil_iff.mpr,
      List.append_nil]
    · cases location <;> simp [Location.member]
    · rw [List.forall_mem_map]
      exact fun m hm => by simpa using action.name_ne_of_mem_members m hm
  have hlookup : (action.members ++ Location.member location).lookup "location"
      = location.map Location.toJson := by
    have hnone : action.members.lookup "location" = none := by
      rw [List.lookup_eq_none_iff]
      exact fun m hm => by simpa using (action.name_ne_of_mem_members m hm).symm
    rw [List.lookup_append, hnone, Option.none_or, Location.lookup_member]
  have hnodup : ((action.members ++ Location.member location).map (·.1)).Nodup := by
    rw [List.map_append]
    refine action.nodup_members.append (by cases location <;> simp [Location.member]) ?_
    intro name hname hlocation
    obtain ⟨m, hm, rfl⟩ := List.mem_map.mp hname
    refine action.name_ne_of_mem_members m hm ?_
    cases location <;> simp_all [Location.member]
  have hlocation := single?_ofMembers "location" hnodup
  rw [hlookup] at hlocation
  simp only [toJson, ofMembers, ofJson?, hkept, action.membersKeepable_members, if_true,
    action.ofMembers?_members, hlocation]
  show (Location.ofJson? |> nullable? |> optional? none) (location.map Location.toJson) >>= _ = _
  rw [Location.optional?_map_toJson]
  rfl

end Instruction

/-! ## Functions -/

namespace Block

theorem isExact_toJson (b : Block) : b.toJson.IsExact := by
  rw [toJson, isExact_ofMembers, List.forall_mem_singleton]
  exact isExact_ofList Instruction.isExact_toJson

theorem ofJson?_toJson (b : Block) : ofJson? b.toJson = some b := by
  have hinstructions :
      list? Instruction.ofJson? (ofList Instruction.toJson b.instructions) = some b.instructions :=
    list?_ofList fun i _ => i.ofJson?_toJson
  rw [ofJson?, toJson, fields?_ofMembers _ (by simp)]
  simp [List.lookup_cons, required?, hinstructions]

end Block

namespace Function

theorem isExact_toJson (f : Function) : f.toJson.IsExact := by
  rw [toJson, isExact_ofMembers, List.forall_mem_append]
  refine ⟨?_, Location.isExact_member f.location⟩
  have hblocks : (ofList Block.toJson f.blocks).IsExact := isExact_ofList Block.isExact_toJson
  simp [IsExact, word32, nat, hblocks]

theorem ofJson?_toJson (f : Function) : ofJson? f.toJson = some f := by
  have hblocks : optional? [] (list? Block.ofJson?) (some (ofList Block.toJson f.blocks))
      = some f.blocks :=
    list?_ofList fun b _ => b.ofJson?_toJson
  have hnodup : (([("name", str f.name), ("params", word32 f.params),
      ("blocks", ofList Block.toJson f.blocks)] ++ Location.member f.location).map (·.1)).Nodup := by
    cases f.location <;> simp [Location.member]
  have hlocation : optional? none (nullable? Location.ofJson?)
      ((Location.member f.location).lookup "location") = some f.location := by
    rw [Location.lookup_member, Location.optional?_map_toJson]
  rw [ofJson?, toJson, fields?_ofMembers _ hnodup]
  simp [List.lookup_cons, required?, text?, word32?_word32, hblocks, hlocation]

end Function

/-! ## Modules and images -/

namespace Mutant

theorem isExact_toJson (m : Mutant) : m.toJson.IsExact := by
  simp [toJson, isExact_ofMembers, IsExact]

theorem ofJson?_toJson (m : Mutant) : ofJson? m.toJson = some m := by
  rw [ofJson?, toJson, fields?_ofMembers _ (by simp)]
  simp [List.lookup_cons, required?, text?]

end Mutant

namespace Trampoline

theorem isExact_toJson (t : Trampoline) : t.toJson.IsExact := by
  have hmutants : (ofList Mutant.toJson t.mutants).IsExact := isExact_ofList Mutant.isExact_toJson
  simp [toJson, isExact_ofMembers, IsExact, hmutants]

theorem ofJson?_toJson (t : Trampoline) : ofJson? t.toJson = some t := by
  have hmutants : list? Mutant.ofJson? (ofList Mutant.toJson t.mutants) = some t.mutants :=
    list?_ofList fun m _ => m.ofJson?_toJson
  rw [ofJson?, toJson, fields?_ofMembers _ (by simp)]
  simp [List.lookup_cons, required?, text?, hmutants]

theorem list?_ofList (trampolines : List Trampoline) :
    list? ofJson? (ofList toJson trampolines) = some trampolines :=
  Json.list?_ofList fun t _ => t.ofJson?_toJson

end Trampoline

theorem Function.list?_ofList (functions : List Function) :
    list? ofJson? (ofList toJson functions) = some functions :=
  Json.list?_ofList fun f _ => f.ofJson?_toJson

namespace Module

theorem isExact_toJson (m : Module) : m.toJson.IsExact := by
  have hfunctions : (ofList Function.toJson m.functions).IsExact :=
    isExact_ofList Function.isExact_toJson
  have htrampolines : (ofList Trampoline.toJson m.trampolines).IsExact :=
    isExact_ofList Trampoline.isExact_toJson
  rw [toJson, isExact_ofMembers, List.forall_mem_append]
  refine ⟨by simp [IsExact, hfunctions], ?_⟩
  split
  · simp
  · simp [htrampolines]

/-- The points of a module are not stored. -/
theorem ofJson?_toJson (m : Module) : ofJson? m.toJson = some { m with mutations := [] } := by
  rw [ofJson?, toJson]
  cases m.trampolines with
  | nil =>
    rw [List.isEmpty_nil, if_pos rfl, List.append_nil, fields?_ofMembers _ (by simp)]
    simp [List.lookup_cons, required?, text?, optional?, Function.list?_ofList]
  | cons t ts =>
    rw [List.isEmpty_cons, if_neg Bool.false_ne_true, fields?_ofMembers _ (by simp)]
    simp [List.lookup_cons, required?, text?, optional?, Function.list?_ofList,
      Trampoline.list?_ofList]

/-- **The text of a module denotes the module,** without its points. -/
theorem decode?_encode (m : Module) : decode? m.encode = some { m with mutations := [] } := by
  rw [decode?, encode, read?_print .pretty m.isExact_toJson, Option.bind_some, ofJson?_toJson]

theorem mutations_of_ofJson? {value : Json} {m : Module} (h : ofJson? value = some m) :
    m.mutations = [] := by
  simp only [ofJson?, Option.bind_eq_bind, Option.bind_eq_some_iff] at h
  obtain ⟨fields, -, h⟩ := h
  split at h
  · simp only [Option.bind_eq_some_iff, Option.pure_def, Option.some.injEq] at h
    obtain ⟨_, -, _, -, _, -, _, -, rfl⟩ := h
    rfl
  · cases h

/-- A text does not bring points. -/
theorem mutations_of_decode? {text : String} {m : Module} (h : decode? text = some m) :
    m.mutations = [] := by
  obtain ⟨value, -, hvalue⟩ := Option.bind_eq_some_iff.mp h
  exact mutations_of_ofJson? hvalue

end Module

namespace Image

theorem isExact_toJson (i : Image) : i.toJson.IsExact := by
  have hfunctions : (ofList Function.toJson i.functions).IsExact :=
    isExact_ofList Function.isExact_toJson
  have htrampolines : (ofList Trampoline.toJson i.trampolines).IsExact :=
    isExact_ofList Trampoline.isExact_toJson
  simp [toJson, isExact_ofMembers, hfunctions, htrampolines]

theorem ofJson?_toJson (i : Image) : ofJson? i.toJson = some i := by
  rw [ofJson?, toJson, fields?_ofMembers _ (by simp)]
  simp [List.lookup_cons, required?, optional?, Function.list?_ofList, Trampoline.list?_ofList]

/-- **The text of an image denotes the image.** -/
theorem decode?_encode (i : Image) : decode? i.encode = some i := by
  rw [decode?, encode, read?_print .compact i.isExact_toJson, Option.bind_some, ofJson?_toJson]

end Image

end MutationTesting
