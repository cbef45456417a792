import Mathlib.Data.List.Basic
import MutationTesting.Discovery.Coverage
import MutationTesting.Proofs.Text.Marks

/-!
# What coverage data covers

A record is read in one way only: its name is cut at the first colon, and without one it is the name
of a function. So a function with a colon in its name is not found under its plain name, nor a unit
with a colon in its file name under a scoped one. All that counts about a list of records is which
names have an executed record.

* `CoverageRecord.Executed` — some record of a name has been executed
* `Covered.contains_insert` — what one more record covers
* `Covered.contains_ofRecords_iff` — what coverage data covers
* `Covered.shows_executed_iff` — **a function is found under its name unless that has a colon**
* `Covered.contains_only_executed` — **only what has an executed record is covered**
-/

namespace MutationTesting

/-- Some record of a name counts executions. -/
def CoverageRecord.Executed (records : List CoverageRecord) (text : String) : Prop :=
  ∃ r ∈ records, r.count ≠ 0 ∧ r.name = text

open CoverageRecord (Executed)

namespace Covered

/-! ## Reading a name -/

theorem splitScope?_append {scope : String} (h : ':' ∉ scope.toList) (name : String) :
    splitScope? (scope ++ ":" ++ name) = some (scope, name) := by
  have hlist : (scope ++ ":" ++ name).toList = scope.toList ++ ':' :: name.toList := by simp
  simp only [splitScope?, hlist, span_append_cons h, String.ofList_toList]

theorem splitScope?_of_plain {name : String} (h : ':' ∉ name.toList) : splitScope? name = none := by
  simp only [splitScope?, span_of_not_mem h]

/-- A name has a first colon or none. -/
theorem scoped_or_plain (text : String) :
    (∃ scope name, ':' ∉ scope.toList ∧ text = scope ++ ":" ++ name) ∨ ':' ∉ text.toList := by
  by_cases h : ':' ∈ text.toList
  · obtain ⟨front, rest, hsplit, hfront⟩ := List.eq_append_cons_of_mem h
    refine Or.inl ⟨String.ofList front, String.ofList rest, by simpa using hfront, ?_⟩
    rw [← String.toList_inj, hsplit]
    simp
  · exact Or.inr h

/-- Scoped names are cut at the same place. -/
theorem scoped_inj {scope scope' name name' : String} (h : ':' ∉ scope.toList)
    (h' : ':' ∉ scope'.toList) :
    scope ++ ":" ++ name = scope' ++ ":" ++ name' ↔ scope = scope' ∧ name = name' := by
  refine ⟨fun heq => ?_, fun ⟨hscope, hname⟩ => by rw [hscope, hname]⟩
  have hl : scope.toList ++ ':' :: name.toList = scope'.toList ++ ':' :: name'.toList := by
    simpa using congrArg String.toList heq
  obtain ⟨hscope, hname⟩ := append_cons_inj_left hl h h'
  exact ⟨String.toList_inj.mp hscope, String.toList_inj.mp hname⟩

theorem colon_mem_scoped (scope name : String) : ':' ∈ (scope ++ ":" ++ name).toList := by
  simp

/-! ## Covering -/

/-- A record of this name covers a function of a unit: it is the plain name, or the name behind the
first colon, with nothing or the file name of the unit in front of it. -/
def Covers (text name unitFile : String) : Prop :=
  (text = name ∧ ':' ∉ name.toList) ∨
    ∃ scope, (scope = "" ∨ scope = unitFile) ∧ ':' ∉ scope.toList ∧ text = scope ++ ":" ++ name

theorem covers_plain_iff {text name unitFile : String} (h : ':' ∉ text.toList) :
    Covers text name unitFile ↔ text = name := by
  constructor
  · rintro (⟨htext, -⟩ | ⟨scope, -, -, rfl⟩)
    · exact htext
    · exact absurd (colon_mem_scoped scope name) h
  · rintro rfl
    exact Or.inl ⟨rfl, h⟩

theorem covers_scoped_iff {scope rest name unitFile : String} (h : ':' ∉ scope.toList) :
    Covers (scope ++ ":" ++ rest) name unitFile ↔
      (scope = "" ∨ scope = unitFile) ∧ rest = name := by
  constructor
  · rintro (⟨rfl, hplain⟩ | ⟨scope', hscope, hcolon, htext⟩)
    · exact absurd (colon_mem_scoped scope rest) hplain
    · obtain ⟨rfl, hrest⟩ := (scoped_inj h hcolon).mp htext
      exact ⟨hscope, hrest⟩
  · rintro ⟨hscope, rfl⟩
    exact Or.inr ⟨scope, hscope, h, rfl⟩

variable {records : List CoverageRecord} {name unitFile : String}

/-- **One more record covers what its name covers,** and takes nothing away. -/
theorem contains_insert (covered : Covered) (text : String) :
    (covered.insert text).contains name unitFile = true ↔
      Covers text name unitFile ∨ covered.contains name unitFile = true := by
  rcases scoped_or_plain text with ⟨scope, rest, hscope, rfl⟩ | hplain
  · rw [covers_scoped_iff hscope, insert, splitScope?_append hscope]
    by_cases hempty : scope = ""
    · simp only [hempty, if_true, contains, List.contains_cons, Bool.or_eq_true, beq_iff_eq,
        or_assoc, true_or, true_and]
      rw [eq_comm]
    · simp only [hempty, if_false, contains, List.contains_cons, Bool.or_eq_true, beq_iff_eq,
        Prod.mk.injEq, false_or]
      rw [or_left_comm, eq_comm, @eq_comm _ name]
  · rw [covers_plain_iff hplain, insert, splitScope?_of_plain hplain]
    simp only [contains, List.contains_cons, Bool.or_eq_true, beq_iff_eq, or_assoc]
    rw [eq_comm]

/-- Records one after the other: an induction on the records, for whatever was covered before. -/
theorem contains_foldl_insert : ∀ (records : List CoverageRecord) (covered : Covered),
    (records.foldl (fun covered r => covered.insert r.name) covered).contains name unitFile = true ↔
      (∃ r ∈ records, Covers r.name name unitFile) ∨ covered.contains name unitFile = true
  | [], covered => by simp
  | r :: records, covered => by
    rw [List.foldl_cons, contains_foldl_insert records, contains_insert, List.exists_mem_cons_iff,
      or_left_comm, or_assoc]

/-- **Coverage data covers what the name of some executed record covers.** -/
theorem contains_ofRecords_iff : (ofRecords records).contains name unitFile = true ↔
    ∃ text, Executed records text ∧ Covers text name unitFile := by
  have hnothing : ({} : Covered).contains name unitFile = false := rfl
  rw [ofRecords, contains_foldl_insert, hnothing]
  constructor
  · rintro (⟨r, hr, hcovers⟩ | h)
    · rw [List.mem_filter, bne_iff_ne] at hr
      exact ⟨r.name, ⟨r, hr.1, hr.2, rfl⟩, hcovers⟩
    · cases h
  · rintro ⟨-, ⟨r, hr, hcount, rfl⟩, hcovers⟩
    exact Or.inl ⟨r, List.mem_filter.mpr ⟨hr, bne_iff_ne.mpr hcount⟩, hcovers⟩

/-- All that counts about records is which names have an executed one. -/
theorem contains_ofRecords_congr {records' : List CoverageRecord}
    (h : ∀ text, Executed records' text ↔ Executed records text) (name unitFile : String) :
    (ofRecords records').contains name unitFile = (ofRecords records).contains name unitFile := by
  rw [Bool.eq_iff_iff, contains_ofRecords_iff, contains_ofRecords_iff]
  simp only [h]

/-! ## What is found -/

/-- A record that has been executed once. -/
def once (text : String) : CoverageRecord :=
  ⟨text, 1⟩

theorem executed_once_iff {text text' : String} : Executed [once text] text' ↔ text = text' := by
  simp [Executed, once]

/-- **An executed function is found under its name unless that has a colon,** and under the file
name of its unit and its name unless the file name has one; no other record plays a part in this. -/
theorem shows_executed_iff (name unitFile : String) :
    ((∀ records, Executed records name → (ofRecords records).contains name unitFile = true) ↔
      ':' ∉ name.toList) ∧
    ((∀ records, Executed records (unitFile ++ ":" ++ name) →
        (ofRecords records).contains name unitFile = true) ↔ ':' ∉ unitFile.toList) := by
  refine ⟨⟨fun h hcolon => ?_, fun hplain records hrecord => ?_⟩,
    ⟨fun h hcolon => ?_, fun hplain records hrecord => ?_⟩⟩
  · obtain ⟨text, htext, hcovers⟩ :=
      contains_ofRecords_iff.mp (h [once name] (executed_once_iff.mpr rfl))
    obtain rfl := executed_once_iff.mp htext
    rcases hcovers with ⟨-, hplain⟩ | ⟨scope, -, -, hname⟩
    · exact hplain hcolon
    · -- nothing can stand in front of a name that is itself
      have hlength := congrArg String.length hname
      simp at hlength
  · exact contains_ofRecords_iff.mpr ⟨name, hrecord, Or.inl ⟨rfl, hplain⟩⟩
  · obtain ⟨text, htext, hcovers⟩ :=
      contains_ofRecords_iff.mp (h [once (unitFile ++ ":" ++ name)] (executed_once_iff.mpr rfl))
    obtain rfl := executed_once_iff.mp htext
    rcases hcovers with ⟨htext, hplain⟩ | ⟨scope, hscope, hfront, htext⟩
    · exact hplain (htext ▸ colon_mem_scoped unitFile name)
    · -- behind the colon stands the name both times, so the scope is the file name
      have hsame : unitFile = scope := by simpa using htext
      exact hfront (hsame ▸ hcolon)
  · exact contains_ofRecords_iff.mpr
      ⟨_, hrecord, Or.inr ⟨unitFile, Or.inr rfl, hplain, rfl⟩⟩

/-- A qualified name is read as a function of a unit, and a file name with a colon in it is cut. -/
theorem qualified_not_shown :
    Executed [once "ns::f"] "ns::f" ∧
      (ofRecords [once "ns::f"]).contains "ns::f" "unit.cpp" = false ∧
    Executed [once "a:b.c:f"] ("a:b.c" ++ ":" ++ "f") ∧
      (ofRecords [once "a:b.c:f"]).contains "f" "a:b.c" = false :=
  ⟨executed_once_iff.mpr rfl, by decide, executed_once_iff.mpr (by decide), by decide⟩

/-! ## What is not found -/

/-- **Only what has an executed record is covered:** a record of the name, or of the name behind a
colon, with nothing or the file name of the unit in front of it. Where no name has a colon, each
of these records covers the function. Whatever else the list holds, how often and in which order,
plays no part. -/
theorem contains_only_executed (records : List CoverageRecord) (name unitFile : String) :
    ((ofRecords records).contains name unitFile = true →
      Executed records name ∨ Executed records (":" ++ name) ∨
        Executed records (unitFile ++ ":" ++ name)) ∧
    (':' ∉ name.toList → ':' ∉ unitFile.toList →
      (Executed records name ∨ Executed records (":" ++ name) ∨
        Executed records (unitFile ++ ":" ++ name)) →
      (ofRecords records).contains name unitFile = true) ∧
    ∀ records', (∀ text, Executed records' text ↔ Executed records text) →
      (ofRecords records').contains name unitFile = (ofRecords records).contains name unitFile := by
  refine ⟨fun h => ?_, fun hname hunit h => ?_, fun records' h =>
    contains_ofRecords_congr h name unitFile⟩
  · obtain ⟨text, htext, hcovers⟩ := contains_ofRecords_iff.mp h
    rcases hcovers with ⟨rfl, -⟩ | ⟨scope, rfl | rfl, -, rfl⟩
    · exact Or.inl htext
    · exact Or.inr (Or.inl (by simpa using htext))
    · exact Or.inr (Or.inr htext)
  · refine contains_ofRecords_iff.mpr ?_
    rcases h with h | h | h
    · exact ⟨_, h, Or.inl ⟨rfl, hname⟩⟩
    · exact ⟨_, h, Or.inr ⟨"", Or.inl rfl, by simp, by simp⟩⟩
    · exact ⟨_, h, Or.inr ⟨unitFile, Or.inr rfl, hunit, rfl⟩⟩

/-- Records of which one has not been executed and one comes twice. -/
def mixed : List CoverageRecord :=
  [⟨"idle", 0⟩, ⟨"a.c:helper", 2⟩, ⟨":main", 1⟩, ⟨"a.c:helper", 5⟩]

/-- The other way round and without the idle function and the repetition, nothing else is covered. -/
theorem mixed_contains :
    (ofRecords mixed).contains "helper" "a.c" = true ∧
    (ofRecords mixed).contains "helper" "b.c" = false ∧
    (ofRecords mixed).contains "main" "b.c" = true ∧
    (ofRecords mixed).contains "idle" "a.c" = false ∧
    (ofRecords [once ":main", once "a.c:helper"]).contains "helper" "a.c"
      = (ofRecords mixed).contains "helper" "a.c" := by
  have hexecuted : ∀ text, Executed mixed text ↔ text = "a.c:helper" ∨ text = ":main" := by
    intro text
    simp [Executed, mixed, eq_comm, or_comm, or_left_comm]
  have hsame : ∀ text, Executed [once ":main", once "a.c:helper"] text ↔ Executed mixed text := by
    intro text
    rw [hexecuted]
    simp [Executed, once, eq_comm, or_comm]
  refine ⟨(contains_only_executed mixed "helper" "a.c").2.1 (by decide) (by decide) ?_,
    Bool.eq_false_iff.mpr fun h => ?_,
    (contains_only_executed mixed "main" "b.c").2.1 (by decide) (by decide) ?_,
    Bool.eq_false_iff.mpr fun h => ?_,
    (contains_only_executed mixed "helper" "a.c").2.2 _ hsame⟩
  · exact Or.inr (Or.inr ((hexecuted _).mpr (Or.inl rfl)))
  · have hrecord := (contains_only_executed mixed "helper" "b.c").1 h
    simp only [hexecuted] at hrecord
    exact absurd hrecord (by decide)
  · exact Or.inr (Or.inl ((hexecuted _).mpr (Or.inr rfl)))
  · have hrecord := (contains_only_executed mixed "idle" "a.c").1 h
    simp only [hexecuted] at hrecord
    exact absurd hrecord (by decide)

end Covered

end MutationTesting
