import MutationTesting.Configuration.Basic
import MutationTesting.Proofs.Discovery.Remembering

/-!
# What include patterns require

The patterns of a configuration become one path filter in each chain. A text that is no pattern is
reported and left out. What is left of the include patterns is a requirement as long as something is
left: without any include pattern a path filter asks for none. So a configuration all of whose
include patterns are mistyped includes everything.

* `PatternLanguage.Matches` — a path matches a text, which is a pattern then
* `Configuration.Excluded`, `Configuration.Included` — some pattern of the configuration matches
* `Configuration.Admits` — what a chain lets through
* `Configuration.Requires` — a chain lets nothing through but what is included and not excluded
* `Configuration.filters_require_iff` — **the chains of a configuration require what it includes
  exactly if one of its include patterns is valid, or if everything is excluded anyway**
-/

namespace MutationTesting

variable {ρ : Type}

/-- A text is a pattern, and a path matches it. -/
def PatternLanguage.Matches (lang : PatternLanguage ρ) (text path : String) : Prop :=
  ∃ r, lang.compile? text = some r ∧ lang.isMatch r path = true

/-! ## The path filter of two lists of texts -/

namespace PathFilter

variable {lang : PatternLanguage ρ}

/-- Texts are added one by one: each is a request, and the rejected ones change nothing. -/
theorem addAll_eq_serveAll
    (add : PathFilter ρ → String → Except InvalidPattern (PathFilter ρ)) (kind : String → Request)
    (hserve : ∀ f text, serve lang f (kind text) = settle f (add f text)) (f : PathFilter ρ)
    (texts : List String) :
    (addAll add f texts).1 = (f.serveAll lang (texts.map kind)).2 := by
  induction texts generalizing f with
  | nil => rfl
  | cons text texts ih =>
    simp only [addAll, List.map_cons, serveAll, hserve]
    cases add f text with
    | ok f' => exact ih f'
    | error fault => exact ih f

/-- The requests that two lists of texts stand for. -/
def additions (includes excludes : List String) : List Request :=
  includes.map .addInclude ++ excludes.map .addExclude

theorem added_include_iff {includes excludes : List String} {r : ρ} :
    Added lang .addInclude (additions includes excludes) r ↔
      ∃ text ∈ includes, lang.compile? text = some r := by
  simp [Added, additions]

theorem added_exclude_iff {includes excludes : List String} {r : ρ} :
    Added lang .addExclude (additions includes excludes) r ↔
      ∃ text ∈ excludes, lang.compile? text = some r := by
  simp [Added, additions]

theorem skips_additions_iff {includes excludes : List String} {path : String} :
    Skips lang (additions includes excludes) path ↔
      (∃ text ∈ excludes, lang.Matches text path) ∨
        (∃ text ∈ includes, (lang.compile? text).isSome) ∧
          ¬∃ text ∈ includes, lang.Matches text path := by
  simp only [Skips, added_include_iff, added_exclude_iff, PatternLanguage.Matches,
    Option.isSome_iff_exists]
  constructor
  · rintro (⟨r, ⟨text, htext, hr⟩, hmatch⟩ | ⟨⟨r, text, htext, hr⟩, hnone⟩)
    · exact .inl ⟨text, htext, r, hr, hmatch⟩
    · refine .inr ⟨⟨text, htext, r, hr⟩, ?_⟩
      rintro ⟨text, htext, r, hr, hmatch⟩
      rw [hnone r ⟨text, htext, hr⟩] at hmatch
      cases hmatch
  · rintro (⟨text, htext, r, hr, hmatch⟩ | ⟨⟨text, htext, r, hr⟩, hnone⟩)
    · exact .inl ⟨r, ⟨text, htext, hr⟩, hmatch⟩
    · refine .inr ⟨⟨r, text, htext, hr⟩, ?_⟩
      rintro r ⟨text, htext, hr⟩
      by_contra hmatch
      exact hnone ⟨text, htext, r, hr, eq_true_of_ne_false hmatch⟩

end PathFilter

/-! ## Chains -/

/-- The path that an item with this location is judged by: the empty one if it has none. -/
def pathOf (location : Option Location) : String :=
  (location.map (·.file)).getD ""

/-- An item passes a chain of filters. -/
def Passes {α : Type} (chain : List (Filter α)) (a : α) : Prop :=
  chain.any (·.skips a) = false

namespace Configuration

/-- A path matches a valid include pattern. -/
def Included (lang : PatternLanguage ρ) (c : Configuration) (path : String) : Prop :=
  ∃ text ∈ c.includePaths, lang.Matches text path

/-- A path matches a valid exclude pattern. -/
def Excluded (lang : PatternLanguage ρ) (c : Configuration) (path : String) : Prop :=
  ∃ text ∈ c.excludePaths, lang.Matches text path

/-- Some include pattern is valid. -/
def IncludesSome (lang : PatternLanguage ρ) (c : Configuration) : Prop :=
  ∃ text ∈ c.includePaths, (lang.compile? text).isSome

/-- The items that a chain lets through, told by their locations: what is excluded does not pass,
and only what is included does if some include pattern is valid. -/
def Admits (lang : PatternLanguage ρ) (c : Configuration) {α : Type} (chain : List (Filter α))
    (location : α → Option Location) : Prop :=
  ∀ a, Passes chain a ↔
    (c.skipNoDebugInfo = true → (location a).isSome) ∧
      ¬c.Excluded lang (pathOf (location a)) ∧
      (c.IncludesSome lang → c.Included lang (pathOf (location a)))

/-- Every item that passes a chain has a path that is included and not excluded. -/
def Requires (lang : PatternLanguage ρ) (c : Configuration) {α : Type} (chain : List (Filter α))
    (location : α → Option Location) : Prop :=
  ∀ a, Passes chain a →
    c.Included lang (pathOf (location a)) ∧ ¬c.Excluded lang (pathOf (location a))

/-- An item with this location is skipped: by the filter for what has no location, or by the path
filter, if there is one. -/
def skipsLocation (lang : PatternLanguage ρ) (c : Configuration) (location : Option Location) :
    Bool :=
  (c.skipNoDebugInfo && location.isNone) ||
    (!(c.includePaths.isEmpty && c.excludePaths.isEmpty) &&
      (({} : PathFilter ρ).serveAll lang
        (PathFilter.additions c.includePaths c.excludePaths)).2.skipsLocation lang location)

/-- The three chains judge an item by its location, and alike. -/
theorem any_skips (lang : PatternLanguage ρ) (c : Configuration) :
    (∀ p, (c.filters lang).1.mutation.any (·.skips p) = c.skipsLocation lang p.location) ∧
    (∀ f, (c.filters lang).1.function.any (·.skips f) = c.skipsLocation lang f.location) ∧
    (∀ i, (c.filters lang).1.instruction.any (·.skips i) = c.skipsLocation lang i.location) := by
  have hfilter : (PathFilter.addAll (PathFilter.addExclude lang)
        (PathFilter.addAll (PathFilter.addInclude lang) {} c.includePaths).1 c.excludePaths).1
      = (({} : PathFilter ρ).serveAll lang
          (PathFilter.additions c.includePaths c.excludePaths)).2 := by
    rw [PathFilter.addAll_eq_serveAll (PathFilter.addExclude lang) .addExclude (fun _ _ => rfl),
      PathFilter.addAll_eq_serveAll (PathFilter.addInclude lang) .addInclude (fun _ _ => rfl),
      PathFilter.additions, PathFilter.serveAll_append]
  unfold filters skipsLocation
  rw [← hfilter]
  cases c.skipNoDebugInfo <;> cases c.includePaths.isEmpty && c.excludePaths.isEmpty <;>
    simp [Filters.addNoDebugInfo, Filters.addLocationFilter]

variable {lang : PatternLanguage ρ} {c : Configuration}

theorem skipsLocation_iff {location : Option Location} :
    c.skipsLocation lang location = true ↔
      (c.skipNoDebugInfo = true ∧ location.isNone = true) ∨
        c.Excluded lang (pathOf location) ∨
        (c.IncludesSome lang ∧ ¬c.Included lang (pathOf location)) := by
  have hfollows : PathFilter.Follows lang (PathFilter.additions c.includePaths c.excludePaths)
      (({} : PathFilter ρ).serveAll lang
        (PathFilter.additions c.includePaths c.excludePaths)).2 :=
    PathFilter.follows_nil.serveAll _
  have hpath := hfollows.skipsLocation_iff location
  rw [PathFilter.skips_additions_iff] at hpath
  rw [skipsLocation, Bool.or_eq_true, Bool.and_eq_true, Bool.and_eq_true, Bool.not_eq_true', hpath]
  refine or_congr_right ⟨fun h => h.2, fun h => ⟨?_, h⟩⟩
  -- Where there is no text at all, there is no path filter; but then nothing matches either.
  rw [← Bool.not_eq_true, Bool.and_eq_true, List.isEmpty_iff, List.isEmpty_iff]
  rintro ⟨hincludes, hexcludes⟩
  obtain ⟨text, htext, -⟩ | ⟨⟨text, htext, -⟩, -⟩ := h
  · rw [hexcludes] at htext
    cases htext
  · rw [hincludes] at htext
    cases htext

section Chain

variable {α : Type} {chain : List (Filter α)} {location : α → Option Location}

/-- What a chain lets through if it judges every item by its location. -/
theorem admits_of_any_skips (h : ∀ a, chain.any (·.skips a) = c.skipsLocation lang (location a)) :
    c.Admits lang chain location := by
  intro a
  rw [Passes, h, ← Bool.not_eq_true, skipsLocation_iff, ← Option.not_isSome, Bool.not_eq_true']
  have hsome : (location a).isSome = false ↔ ¬(location a).isSome = true := by
    rw [Bool.not_eq_true]
  rw [hsome]
  tauto

/-- A chain that admits items as the configuration says requires what is included, unless no include
pattern is valid: then something that is not excluded passes without being included. -/
theorem Admits.requires_iff (h : c.Admits lang chain location)
    (hevery : ∀ l, ∃ a, location a = some l) :
    c.Requires lang chain location ↔
      c.IncludesSome lang ∨ ∀ path, c.Excluded lang path := by
  constructor
  · intro hrequires
    by_contra hneither
    rw [not_or, not_forall] at hneither
    obtain ⟨hinvalid, path, hpath⟩ := hneither
    obtain ⟨a, ha⟩ := hevery ⟨path, 0, 0⟩
    have hpathOf : pathOf (location a) = path := by rw [ha]; rfl
    have hpasses : Passes chain a := by
      rw [h a, hpathOf, ha]
      exact ⟨fun _ => rfl, hpath, fun hsome => absurd hsome hinvalid⟩
    obtain ⟨⟨text, htext, r, hr, -⟩, -⟩ := hrequires a hpasses
    exact hinvalid ⟨text, htext, Option.isSome_iff_exists.mpr ⟨r, hr⟩⟩
  · rintro hcase a hpasses
    obtain ⟨-, hexcluded, hincluded⟩ := (h a).mp hpasses
    obtain hsome | hall := hcase
    · exact ⟨hincluded hsome, hexcluded⟩
    · exact absurd (hall _) hexcluded

end Chain

/-- **What the chains of a configuration require.** Whatever mix of valid and invalid patterns a
configuration holds, its three chains let through what is not excluded, and of that only what is
included if one include pattern is valid. So they require what it includes exactly if one of its
include patterns is valid, or if every path is excluded. -/
theorem filters_require_iff (lang : PatternLanguage ρ) (c : Configuration) :
    let chains := (c.filters lang).1
    (c.Admits lang chains.mutation Point.location ∧
      c.Admits lang chains.function Function.location ∧
      c.Admits lang chains.instruction Instruction.location) ∧
    (c.Requires lang chains.mutation Point.location ↔
      c.IncludesSome lang ∨ ∀ path, c.Excluded lang path) ∧
    (c.Requires lang chains.function Function.location ↔
      c.IncludesSome lang ∨ ∀ path, c.Excluded lang path) ∧
    (c.Requires lang chains.instruction Instruction.location ↔
      c.IncludesSome lang ∨ ∀ path, c.Excluded lang path) := by
  dsimp only
  obtain ⟨hmutation, hfunction, hinstruction⟩ := any_skips lang c
  have hpoint := admits_of_any_skips hmutation
  have hfun := admits_of_any_skips hfunction
  have hinst := admits_of_any_skips hinstruction
  refine ⟨⟨hpoint, hfun, hinst⟩, hpoint.requires_iff fun l => ?_, hfun.requires_iff fun l => ?_,
    hinst.requires_iff fun l => ?_⟩
  · exact ⟨⟨"", ⟨0, ""⟩, ⟨0, 0⟩, some l, "", [], false⟩, rfl⟩
  · exact ⟨⟨"", 0, [], some l⟩, rfl⟩
  · exact ⟨⟨.jump 0, some l⟩, rfl⟩

/-- A configuration whose only include pattern lacks a parenthesis. -/
def mistyped : Configuration where
  executable := "tests"
  workers := 1
  includePaths := ["("]

/-- None of its chains requires what it includes: whatever comes from `other.c` passes. -/
theorem mistyped_includes_everything :
    let chains := (mistyped.filters Pattern.language).1
    mistyped.includePaths ≠ [] ∧
    ¬mistyped.Requires Pattern.language chains.mutation Point.location ∧
    ¬mistyped.Requires Pattern.language chains.function Function.location ∧
    ¬mistyped.Requires Pattern.language chains.instruction Instruction.location := by
  dsimp only
  have hstray : mistyped.skipsLocation Pattern.language (some ⟨"other.c", 1, 1⟩) = false := by
    decide +kernel
  have hinvalid : Pattern.language.compile? "(" = none := by decide +kernel
  have hincluded : ¬mistyped.Included Pattern.language "other.c" := by
    rintro ⟨text, htext, r, hr, -⟩
    rw [mistyped, List.mem_singleton] at htext
    rw [htext, hinvalid] at hr
    cases hr
  obtain ⟨hmutation, hfunction, hinstruction⟩ := any_skips Pattern.language mistyped
  refine ⟨by decide, fun h => hincluded ?_, fun h => hincluded ?_, fun h => hincluded ?_⟩
  · exact (h ⟨"cxx_add_to_sub", ⟨0, "main"⟩, ⟨0, 0⟩, some ⟨"other.c", 1, 1⟩, "-", [], false⟩
      ((hmutation _).trans hstray)).1
  · exact (h ⟨"main", 0, [], some ⟨"other.c", 1, 1⟩⟩ ((hfunction _).trans hstray)).1
  · exact (h ⟨.jump 0, some ⟨"other.c", 1, 1⟩⟩ ((hinstruction _).trans hstray)).1

end Configuration

end MutationTesting
