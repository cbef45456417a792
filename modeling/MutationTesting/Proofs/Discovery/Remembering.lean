import Mathlib.Data.List.Forall2
import MutationTesting.Pattern.Language

/-!
# What a path filter remembers

A path filter is asked for things one after the other: patterns are added to it, some of which are
rejected, and the workers of a stage ask it about paths. It answers one request before it takes the
next, so however workers take turns, their queries come in some order. Every remembered answer is
the one that the patterns at hand give, since adding a pattern makes the filter forget; so nobody
can tell whether an answer was remembered.

* `PathFilter.Skips` — a path is skipped, by the patterns that requests have added
* `PathFilter.Follows` — a filter holds these patterns and remembers nothing else
* `PathFilter.Follows.serve` — one request: it is answered by the patterns, and the filter follows
* `PathFilter.Follows.serveAll` — many requests
* `PathFilter.remembering_is_invisible` — **every query is answered by the patterns added so far**
-/

namespace MutationTesting.PathFilter

/-! ## Requests -/

/-- What a path filter is asked for. -/
inductive Request where
  /-- To hold an include pattern. -/
  | addInclude (pattern : String)
  /-- To hold an exclude pattern. -/
  | addExclude (pattern : String)
  /-- To tell a worker whether a path is skipped. -/
  | query (worker : Nat) (path : String)
  deriving DecidableEq, Repr

/-- What it says to that. -/
inductive Reply where
  /-- It holds the pattern from now on. -/
  | added
  /-- The text is no pattern. -/
  | rejected (fault : InvalidPattern)
  /-- The path is skipped, or it is not. -/
  | skips (answer : Bool)
  deriving DecidableEq, Repr

variable {ρ : Type}

/-- The reply to an addition, and the filter afterwards: a rejected pattern leaves it as it is. -/
def settle (f : PathFilter ρ) : Except InvalidPattern (PathFilter ρ) → Reply × PathFilter ρ
  | .ok f' => (.added, f')
  | .error fault => (.rejected fault, f)

/-- The reply to a request, and the filter afterwards. -/
def serve (lang : PatternLanguage ρ) (f : PathFilter ρ) : Request → Reply × PathFilter ρ
  | .addInclude pattern => f.settle (f.addInclude lang pattern)
  | .addExclude pattern => f.settle (f.addExclude lang pattern)
  | .query _ path => (.skips (f.query lang path).1, (f.query lang path).2)

/-- The replies to requests in their order, and the filter afterwards. -/
def serveAll (lang : PatternLanguage ρ) (f : PathFilter ρ) :
    List Request → List Reply × PathFilter ρ
  | [] => ([], f)
  | request :: requests =>
    let (reply, f) := f.serve lang request
    let (replies, f) := f.serveAll lang requests
    (reply :: replies, f)

variable {lang : PatternLanguage ρ} {f : PathFilter ρ}

theorem serveAll_append (before after : List Request) :
    f.serveAll lang (before ++ after) =
      ((f.serveAll lang before).1 ++ ((f.serveAll lang before).2.serveAll lang after).1,
        ((f.serveAll lang before).2.serveAll lang after).2) := by
  induction before generalizing f with
  | nil => rfl
  | cons request before ih => simp only [List.cons_append, serveAll, ih]

theorem length_serveAll (requests : List Request) :
    (f.serveAll lang requests).1.length = requests.length := by
  induction requests generalizing f with
  | nil => rfl
  | cons request requests ih => simp only [serveAll, List.length_cons, ih]

/-! ## Patterns that requests have added -/

/-- A pattern has been added by requests of some kind. -/
def Added (lang : PatternLanguage ρ) (kind : String → Request) (requests : List Request) (r : ρ) :
    Prop :=
  ∃ pattern, kind pattern ∈ requests ∧ lang.compile? pattern = some r

/-- A path is skipped: an exclude pattern matches it, or there are include patterns and none of them
does. -/
def Skips (lang : PatternLanguage ρ) (requests : List Request) (path : String) : Prop :=
  (∃ r, Added lang .addExclude requests r ∧ lang.isMatch r path = true) ∨
    ((∃ r, Added lang .addInclude requests r) ∧
      ∀ r, Added lang .addInclude requests r → lang.isMatch r path = false)

/-- The reply that a request has to get after others. -/
def Request.IsAnswered (lang : PatternLanguage ρ) (before : List Request) : Request → Reply → Prop
  | .addInclude pattern, reply | .addExclude pattern, reply =>
    reply = if (lang.compile? pattern).isSome then .added else .rejected ⟨pattern⟩
  | .query _ path, reply =>
    ∃ answer, reply = .skips answer ∧ (answer = true ↔ Skips lang before path)

variable {requests : List Request}

theorem added_concat_iff {kind : String → Request} {request : Request} {r : ρ} :
    Added lang kind (requests ++ [request]) r ↔
      Added lang kind requests r ∨
        ∃ pattern, request = kind pattern ∧ lang.compile? pattern = some r := by
  simp only [Added, List.mem_append, List.mem_singleton, or_and_right, exists_or, eq_comm]

/-! ## The filter after requests -/

/-- A filter after requests: it holds the patterns that they have added, and every answer that it
remembers is the one that these give. -/
structure Follows (lang : PatternLanguage ρ) (requests : List Request) (f : PathFilter ρ) : Prop where
  includes : ∀ r, r ∈ f.includes ↔ Added lang .addInclude requests r
  excludes : ∀ r, r ∈ f.excludes ↔ Added lang .addExclude requests r
  cache : ∀ entry ∈ f.cache, entry.2 = f.evaluate lang entry.1

theorem follows_nil : Follows lang [] {} where
  includes r := by simp [Added]
  excludes r := by simp [Added]
  cache := by simp

namespace Follows

variable (h : Follows lang requests f)

include h

theorem evaluate_iff (path : String) : f.evaluate lang path = true ↔ Skips lang requests path := by
  have hsome : f.includes.isEmpty = false ↔ ∃ r, Added lang .addInclude requests r := by
    rw [List.isEmpty_eq_false_iff_exists_mem]
    simp only [h.includes]
  simp only [evaluate, Skips, Bool.or_eq_true, Bool.and_eq_true, Bool.not_eq_true', hsome,
    List.any_eq_true, List.any_eq_false, h.includes, h.excludes, Bool.not_eq_true]

/-- An answer is the same whether it is remembered or not. -/
theorem query_eq (path : String) : (f.query lang path).1 = f.evaluate lang path := by
  unfold query
  cases hremembered : f.cache.lookup path with
  | none => rfl
  | some skip =>
    obtain ⟨before, after, hcache, -⟩ := List.lookup_eq_some_iff.mp hremembered
    exact h.cache (path, skip) (by rw [hcache]; simp)

/-- A stage of filters asks the filter as it was before the stage. -/
theorem skipsLocation_iff (location : Option Location) :
    f.skipsLocation lang location = true ↔
      Skips lang requests ((location.map (·.file)).getD "") := by
  rw [skipsLocation, h.query_eq, h.evaluate_iff]

/-- An include pattern is added and all answers are forgotten, or the filter stays as it is. -/
theorem addInclude (pattern : String) :
    Request.IsAnswered lang requests (.addInclude pattern)
        (f.serve lang (.addInclude pattern)).1 ∧
      Follows lang (requests ++ [.addInclude pattern]) (f.serve lang (.addInclude pattern)).2 := by
  simp only [serve, PathFilter.addInclude]
  cases hcompile : lang.compile? pattern with
  | none =>
    refine ⟨by simp [Request.IsAnswered, settle, hcompile], ?_, ?_, h.cache⟩
    · simp [settle, added_concat_iff, hcompile, h.includes]
    · simp [settle, added_concat_iff, h.excludes]
  | some r =>
    refine ⟨by simp [Request.IsAnswered, settle, hcompile], ?_, ?_, by simp [settle]⟩
    · simp [settle, added_concat_iff, hcompile, h.includes, eq_comm]
    · simp [settle, added_concat_iff, h.excludes]

/-- An exclude pattern likewise. -/
theorem addExclude (pattern : String) :
    Request.IsAnswered lang requests (.addExclude pattern)
        (f.serve lang (.addExclude pattern)).1 ∧
      Follows lang (requests ++ [.addExclude pattern]) (f.serve lang (.addExclude pattern)).2 := by
  simp only [serve, PathFilter.addExclude]
  cases hcompile : lang.compile? pattern with
  | none =>
    refine ⟨by simp [Request.IsAnswered, settle, hcompile], ?_, ?_, h.cache⟩
    · simp [settle, added_concat_iff, h.includes]
    · simp [settle, added_concat_iff, hcompile, h.excludes]
  | some r =>
    refine ⟨by simp [Request.IsAnswered, settle, hcompile], ?_, ?_, by simp [settle]⟩
    · simp [settle, added_concat_iff, h.includes]
    · simp [settle, added_concat_iff, hcompile, h.excludes, eq_comm]

/-- A query adds no pattern, and only its own answer is remembered. -/
theorem query (worker : Nat) (path : String) :
    Request.IsAnswered lang requests (.query worker path)
        (f.serve lang (.query worker path)).1 ∧
      Follows lang (requests ++ [.query worker path]) (f.serve lang (.query worker path)).2 := by
  refine ⟨⟨_, rfl, by rw [h.query_eq, h.evaluate_iff]⟩, ?_⟩
  simp only [serve, PathFilter.query]
  cases hremembered : f.cache.lookup path with
  | none =>
    refine ⟨by simp [added_concat_iff, h.includes], by simp [added_concat_iff, h.excludes], ?_⟩
    rw [List.forall_mem_cons]
    exact ⟨rfl, h.cache⟩
  | some skip =>
    exact ⟨by simp [added_concat_iff, h.includes], by simp [added_concat_iff, h.excludes], h.cache⟩

/-- **A request is answered by the patterns added so far,** and the filter follows it. -/
theorem serve (request : Request) :
    request.IsAnswered lang requests (f.serve lang request).1 ∧
      Follows lang (requests ++ [request]) (f.serve lang request).2 := by
  cases request with
  | addInclude pattern => exact h.addInclude pattern
  | addExclude pattern => exact h.addExclude pattern
  | query worker path => exact h.query worker path

end Follows

/-- The filter follows any number of requests. -/
theorem Follows.serveAll (more : List Request) (h : Follows lang requests f) :
    Follows lang (requests ++ more) (f.serveAll lang more).2 := by
  induction more generalizing requests f with
  | nil =>
    rw [List.append_nil]
    exact h
  | cons request more ih =>
    rw [List.append_cons]
    exact ih (h.serve request).2

/-! ## Taking turns -/

/-- The turns of workers put their queues together: each worker asks what its queue holds, in this
order. -/
def Interleaves (turns : List (Nat × String)) (queues : Nat → List String) : Prop :=
  ∀ worker, (turns.filter (·.1 == worker)).map (·.2) = queues worker

/-- The queries of workers in turn. -/
def queries (turns : List (Nat × String)) : List Request :=
  turns.map fun (worker, path) => .query worker path

/-- What a worker hears: the replies to its own turns. -/
def heard (worker : Nat) (turns : List (Nat × String)) (replies : List Reply) : List Reply :=
  ((turns.zip replies).filter (·.1.1 == worker)).map (·.2)

theorem heard_map (worker : Nat) (reply : Nat × String → Reply) : ∀ turns : List (Nat × String),
    heard worker turns (turns.map reply) = (turns.filter (·.1 == worker)).map reply
  | [] => rfl
  | turn :: turns => by
    have ih := heard_map worker reply turns
    unfold heard at ih ⊢
    simp only [List.map_cons, List.zip_cons_cons, List.filter_cons]
    cases turn.1 == worker with
    | true => simp only [if_true, List.map_cons, ih]
    | false => simp only [Bool.false_eq_true, if_false, ih]

/-- In the course of queries the patterns stay the same, and so do all answers. -/
theorem Follows.replies_queries (h : Follows lang requests f) (turns : List (Nat × String)) :
    (f.serveAll lang (queries turns)).1 = turns.map fun turn => .skips (f.evaluate lang turn.2) := by
  induction turns generalizing requests f with
  | nil => rfl
  | cons turn turns ih =>
    have hsame : (f.query lang turn.2).2.evaluate lang = f.evaluate lang := by
      unfold PathFilter.query
      split <;> rfl
    have hrest := ih (h.query turn.1 turn.2).2
    simp only [PathFilter.serve, hsame] at hrest
    show Reply.skips (f.query lang turn.2).1 :: _ = _
    rw [h.query_eq, List.map_cons, ← hrest]
    rfl

/-- Each worker is answered by the patterns, whatever the others ask in between. -/
theorem Follows.forall₂_heard (h : Follows lang requests f) {turns : List (Nat × String)}
    {queues : Nat → List String} (hturns : Interleaves turns queues) (worker : Nat) :
    List.Forall₂ (fun path reply => (Request.query worker path).IsAnswered lang requests reply)
      (queues worker) (heard worker turns (f.serveAll lang (queries turns)).1) := by
  rw [h.replies_queries, heard_map, ← hturns worker, List.forall₂_map_left_iff,
    List.forall₂_map_right_iff, List.forall₂_same]
  exact fun turn _ => ⟨_, rfl, h.evaluate_iff turn.2⟩

/-! ## The whole life of a filter -/

/-- A request for something that is no pattern. -/
def Request.IsRejected (lang : PatternLanguage ρ) : Request → Prop
  | .addInclude pattern | .addExclude pattern => lang.compile? pattern = none
  | .query _ _ => False

/-- A rejected pattern leaves the filter as it is. -/
theorem serve_of_isRejected {request : Request} (h : request.IsRejected lang) :
    (f.serve lang request).2 = f := by
  cases request with
  | addInclude pattern =>
    have hcompile : lang.compile? pattern = none := h
    simp only [serve, addInclude, hcompile, settle]
  | addExclude pattern =>
    have hcompile : lang.compile? pattern = none := h
    simp only [serve, addExclude, hcompile, settle]
  | query worker path => exact h.elim

/-- **Every query is answered by the patterns added so far,** whatever was asked before, and so is
every query of the workers of a stage, however they take turns; the answers are those of the filter
as it was before the stage. A rejected pattern changes no later answer. -/
theorem remembering_is_invisible (lang : PatternLanguage ρ) (requests : List Request) :
    let f : PathFilter ρ := {}
    (∀ before request after, requests = before ++ request :: after →
      ∃ reply, (f.serveAll lang requests).1[before.length]? = some reply ∧
        request.IsAnswered lang before reply) ∧
    (∀ before request after, requests = before ++ request :: after → request.IsRejected lang →
      (f.serveAll lang requests).1.eraseIdx before.length
        = (f.serveAll lang (before ++ after)).1) ∧
    (∀ turns queues, Interleaves turns queues → ∀ worker,
      List.Forall₂ (fun path reply => (Request.query worker path).IsAnswered lang requests reply)
        (queues worker)
        (heard worker turns ((f.serveAll lang requests).2.serveAll lang (queries turns)).1)) ∧
    ∀ location, (f.serveAll lang requests).2.skipsLocation lang location = true ↔
      Skips lang requests ((location.map (·.file)).getD "") := by
  dsimp only
  have hfollows : ∀ requests, Follows lang requests (({} : PathFilter ρ).serveAll lang requests).2 :=
    fun requests => follows_nil.serveAll requests
  refine ⟨?_, ?_, fun turns queues hturns worker => (hfollows requests).forall₂_heard hturns worker,
    (hfollows requests).skipsLocation_iff⟩
  · rintro before request after rfl
    refine ⟨_, ?_, ((hfollows before).serve request).1⟩
    rw [serveAll_append, List.getElem?_append_right (Nat.le_of_eq (length_serveAll before)),
      length_serveAll, Nat.sub_self]
    rfl
  · rintro before request after rfl hrejected
    rw [serveAll_append, serveAll_append,
      List.eraseIdx_append_of_length_le (Nat.le_of_eq (length_serveAll before)), length_serveAll,
      Nat.sub_self]
    simp only [serveAll, serve_of_isRejected hrejected, List.eraseIdx_zero, List.tail_cons]

/-- A path is asked about before and after the directory that it is in is excluded; in between
something is to be excluded that is no pattern. -/
def excludeLate : List Request :=
  [.addInclude "src/", .query 0 "src/gen/a.c", .addExclude "(", .addExclude "gen/",
    .query 1 "src/gen/a.c"]

/-- Two workers that ask afterwards. -/
def asking : List (Nat × String) :=
  [(1, "src/gen/a.c"), (0, "src/gen/a.c"), (1, "src/b.c")]

/-- The first answer is not remembered for the last query, the rejected pattern might be left out,
and the second worker is not told what the first one asked. -/
theorem excludeLate_answers :
    let f : PathFilter Pattern := {}
    (f.serveAll Pattern.language excludeLate).1
      = [.added, .skips false, .rejected ⟨"("⟩, .added, .skips true] ∧
    Skips Pattern.language (excludeLate.take 4) "src/gen/a.c" ∧
    (f.serveAll Pattern.language (excludeLate.eraseIdx 2)).1
      = [.added, .skips false, .added, .skips true] ∧
    List.Forall₂
      (fun path reply => (Request.query 1 path).IsAnswered Pattern.language excludeLate reply)
      ["src/gen/a.c", "src/b.c"] (heard 1 asking
        ((f.serveAll Pattern.language excludeLate).2.serveAll Pattern.language
          (queries asking)).1) := by
  dsimp only
  have hreplies : (({} : PathFilter Pattern).serveAll Pattern.language excludeLate).1
      = [.added, .skips false, .rejected ⟨"("⟩, .added, .skips true] := by decide +kernel
  have hparenthesis : (Request.addExclude "(").IsRejected Pattern.language := by
    rw [Request.IsRejected, ← Option.isNone_iff_eq_none]
    decide +kernel
  obtain ⟨hanswered, hrejected, hworkers, -⟩ :=
    remembering_is_invisible Pattern.language excludeLate
  have hturns : Interleaves asking fun worker => (asking.filter (·.1 == worker)).map (·.2) :=
    fun _ => rfl
  refine ⟨hreplies, ?_, ?_, hworkers asking _ hturns 1⟩
  · obtain ⟨_, hreply, answer, rfl, hanswer⟩ :=
      hanswered (excludeLate.take 4) (.query 1 "src/gen/a.c") [] rfl
    rw [hreplies] at hreply
    injection hreply with hreply
    injection hreply with hreply
    exact hanswer.mp hreply.symm
  · have herased := hrejected (excludeLate.take 2) (.addExclude "(") _ rfl hparenthesis
    rw [hreplies] at herased
    exact herased.symm

end MutationTesting.PathFilter
