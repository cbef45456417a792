import MutationTesting.Campaign.Stages
import MutationTesting.Proofs.Mutation.Apart

/-!
# What the process of a mutant finds in its environment

The process of a mutant gets the environment that its sandbox leaves of the surroundings, and the
variable of its point on top. No other variable is taken away, so whatever the sandbox leaves is
there too.

* `Launch.has_receivedAll_set` — what a process finds when a variable has been set for it
* `MutantRuns.environment_has` — what the process of a mutant finds
* `MutantRuns.inherited_isolated` — an isolated process finds no variable of a point on its own
-/

namespace MutationTesting

/-! ## Received variables -/

namespace Launch

/-- A name that a program finds as it is given. -/
def IsPlain (name : String) : Prop :=
  name ≠ "" ∧ '=' ∉ name.toList

theorem received?_of_plain {name : String} (h : IsPlain name) (value : String) :
    received? (name, value) = some (name, value) := by
  obtain ⟨hne, heq⟩ := h
  cases hname : name.toList with
  | nil => exact absurd (String.toList_eq_nil_iff.mp hname) hne
  | cons c rest =>
    rw [hname, List.mem_cons, not_or] at heq
    have hlist : (name ++ "=" ++ value).toList = c :: (rest ++ '=' :: value.toList) := by
      simp [hname]
    simp only [received?, hlist, span_append_cons heq.2, ← hname, String.ofList_toList]

theorem receivedAll_append (env env' : Environment) :
    receivedAll (env ++ env') = receivedAll env ++ receivedAll env' :=
  List.filterMap_append

theorem has_append (env env' : Environment) (name : String) :
    Environment.has (env ++ env') name = (env.has name || env'.has name) :=
  List.any_append

/-- Variables of one plain name have no part in whether another name is found. -/
theorem has_receivedAll_filter {name other : String} (hname : IsPlain name) (hne : other ≠ name) :
    ∀ env : Environment,
      (receivedAll (env.filter (·.1 != name))).has other = (receivedAll env).has other
  | [] => rfl
  | (key, value) :: env => by
    have ih := has_receivedAll_filter hname hne env
    by_cases hkey : key = name
    · subst hkey
      rw [List.filter_cons_of_neg (by simp), ih]
      simp [receivedAll, received?_of_plain hname, Environment.has, hne.symm]
    · rw [List.filter_cons_of_pos (by simpa using hkey), ← List.singleton_append,
        ← List.singleton_append (l := env), receivedAll_append, receivedAll_append, has_append,
        has_append, ih]

/-- **A process finds the variable that has been set for it, and what it would have found
anyway.** -/
theorem has_receivedAll_set {name : String} (hname : IsPlain name) (env : Environment)
    (value other : String) :
    (receivedAll (env.set name value)).has other
      = (other == name || (receivedAll env).has other) := by
  have hset : receivedAll [(name, value)] = [(name, value)] := by
    simp [receivedAll, received?_of_plain hname]
  rw [Environment.set, receivedAll_append, has_append, hset]
  by_cases hne : other = name
  · subst hne
    simp [Environment.has]
  · rw [has_receivedAll_filter hname hne]
    simp [Environment.has, beq_eq_false_iff_ne.mpr hne, beq_eq_false_iff_ne.mpr (Ne.symm hne)]

end Launch

/-! ## Names of selecting variables -/

namespace Point

theorem plain_selector (p : Point) : Launch.IsPlain p.selector := by
  obtain ⟨tail, hselector, hchars⟩ := p.nameChars_selector
  rw [hselector]
  constructor
  · intro h
    exact absurd (String.append_eq_empty_iff.mp h).1 (by decide)
  · rw [String.toList_append, List.mem_append]
    rintro (h | h)
    · exact absurd h (by decide)
    · exact absurd (hchars _ h) (by decide)

theorem selector_ne_path (p : Point) : p.selector ≠ "PATH" := by
  intro h
  have hlist := p.toList_selector
  rw [h] at hlist
  cases hlist

end Point

/-! ## The processes of mutants -/

namespace MutantRuns

/-- The environment that processes find before any variable is set for them. -/
def inherited (r : MutantRuns) : Environment :=
  Launch.receivedAll (r.sandbox.prepare r.around).2

/-- How the process of a mutant is launched. -/
def launch (r : MutantRuns) (p : Point) : Launch where
  program := r.executable
  env := (r.sandbox.prepare r.around).2.set p.selector "1"
  limit := r.timeout.toNat

/-- The environment that the process of a mutant finds. -/
def environment (r : MutantRuns) (p : Point) : Environment :=
  Launch.receivedAll (r.launch p).env

/-- A mutant that is run is launched so. -/
theorem run_eq (r : MutantRuns) {p : Point} (hp : p.applied = true) :
    r.run p = match Launch.run (r.sandbox.prepare r.around).1 (r.launch p) with
      | .ok ended =>
        let execution := Execution.ofEnded ended r.capture (r.timeout.toNat * 1000000)
        { ending := .done [{ point := p, execution }], item := p, state := ()
          notes := if execution.status = .timedOut then [r.executable ++ " timed out"] else [] }
      | .error reason =>
        { ending := .failed (.process r.executable reason), item := p, state := () } := by
  have hlaunch : execute r.around r.sandbox r.executable [] [(p.selector, "1")] r.timeout r.capture
      = Launch.run (r.sandbox.prepare r.around).1 (r.launch p) >>= fun ended =>
          let execution := Execution.ofEnded ended r.capture (r.timeout.toNat * 1000000)
          return (execution,
            if execution.status = .timedOut then [r.executable ++ " timed out"] else []) := rfl
  rw [run, if_pos hp, hlaunch]
  cases Launch.run (r.sandbox.prepare r.around).1 (r.launch p) <;> rfl

/-- **The process of a mutant finds the variable of its point, and whatever the sandbox leaves.** -/
theorem environment_has (r : MutantRuns) (p : Point) (name : String) :
    (r.environment p).has name = (name == p.selector || r.inherited.has name) :=
  Launch.has_receivedAll_set p.plain_selector _ "1" name

/-- An isolated process finds nothing but the search path on its own. -/
theorem inherited_isolated {r : MutantRuns} (h : r.sandbox = .isolated) {name : String}
    (hname : r.inherited.has name = true) : name = "PATH" := by
  obtain ⟨v, hv, hvname⟩ := List.any_eq_true.mp hname
  simp only [inherited, h, Sandbox.prepare] at hv
  obtain ⟨⟨key, value⟩, hkey, hreceived⟩ := List.mem_filterMap.mp hv
  obtain ⟨-, hpath⟩ := List.mem_filter.mp hkey
  have hkeyPath : key = "PATH" := by simpa using hpath
  subst hkeyPath
  rw [Launch.received?_of_plain ⟨by decide, by decide⟩, Option.some.injEq] at hreceived
  rw [← hreceived] at hvname
  exact (by simpa using hvname : "PATH" = name).symm

end MutantRuns

end MutationTesting
