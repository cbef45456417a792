import Mathlib.Data.List.Forall2

/-!
# Lists of checks

A check that goes through a list and stops at the first fault succeeds exactly if it succeeds for
every item.
-/

namespace MutationTesting.Checks

variable {ε α β : Type}

theorem bind_eq_ok_iff {x : Except ε α} {f : α → Except ε β} {b : β} :
    (x >>= f) = .ok b ↔ ∃ a, x = .ok a ∧ f a = .ok b := by
  cases x with
  | error e => simp [bind, Except.bind]
  | ok a => simp [bind, Except.bind]

theorem seq_eq_ok_iff {x : Except ε Unit} {y : Except ε β} {b : β} :
    (x >>= fun _ => y) = .ok b ↔ x = .ok () ∧ y = .ok b := by
  rw [bind_eq_ok_iff]
  exact ⟨fun ⟨_, h⟩ => h, fun h => ⟨(), h⟩⟩

theorem mapError_eq_ok_iff {ε' : Type} {x : Except ε α} {wrap : ε → ε'} {a : α} :
    x.mapError wrap = .ok a ↔ x = .ok a := by
  cases x <;> simp [Except.mapError]

theorem forM_eq_ok_iff {f : α → Except ε Unit} :
    ∀ {items : List α}, items.forM f = .ok () ↔ ∀ a ∈ items, f a = .ok ()
  | [] => by simp [List.forM, pure, Except.pure]
  | a :: items => by
    show (f a >>= fun _ => items.forM f) = .ok () ↔ _
    rw [seq_eq_ok_iff, List.forall_mem_cons, forM_eq_ok_iff]

/-- A traversal that succeeds gives one result for each item, in order. -/
theorem mapM_eq_ok_iff {f : α → Except ε β} : ∀ {items : List α} {results : List β},
    items.mapM f = .ok results ↔ List.Forall₂ (fun a b => f a = .ok b) items results
  | [], results => by
    rw [List.mapM_nil, List.forall₂_nil_left_iff]
    show Except.ok [] = Except.ok results ↔ _
    rw [Except.ok.injEq, eq_comm]
  | a :: items, results => by
    rw [List.mapM_cons, bind_eq_ok_iff, List.forall₂_cons_left_iff]
    refine exists_congr fun b => ?_
    rw [bind_eq_ok_iff]
    simp only [mapM_eq_ok_iff]
    constructor
    · rintro ⟨hb, bs, hbs, h⟩
      cases h
      exact ⟨bs, hb, hbs, rfl⟩
    · rintro ⟨bs, hb, hbs, rfl⟩
      exact ⟨hb, bs, hbs, rfl⟩

/-- A traversal that fails gives the fault of the first item that has one. -/
theorem mapM_eq_error_iff {f : α → Except ε β} {e : ε} : ∀ {items : List α},
    items.mapM f = .error e ↔ ∃ a, items.find? (fun a => !(f a).isOk) = some a ∧ f a = .error e
  | [] => by
    rw [List.mapM_nil, List.find?_nil]
    simp [pure, Except.pure]
  | a :: items => by
    rw [List.mapM_cons, List.find?_cons]
    cases h : f a with
    | error e' => simp [h, bind, Except.bind, Except.isOk, Except.toBool]
    | ok b =>
      have hrest : (items.mapM f >>= fun bs => pure (b :: bs)) = .error e
          ↔ items.mapM f = .error e := by
        cases items.mapM f <;> simp [bind, Except.bind, pure, Except.pure]
      exact hrest.trans mapM_eq_error_iff

/-- Where every item has a partner, there is a list of partners. -/
theorem exists_forall₂ {R : α → β → Prop} : ∀ {items : List α}, (∀ a ∈ items, ∃ b, R a b) →
    ∃ results, List.Forall₂ R items results
  | [], _ => ⟨[], .nil⟩
  | a :: items, h => by
    rw [List.forall_mem_cons] at h
    obtain ⟨b, hb⟩ := h.1
    obtain ⟨results, hresults⟩ := exists_forall₂ h.2
    exact ⟨b :: results, .cons hb hresults⟩

/-- Every item of one list has its partner in the other. -/
theorem exists_mem_of_forall₂ {R : α → β → Prop} {items : List α} {results : List β}
    (h : List.Forall₂ R items results) {a : α} (ha : a ∈ items) : ∃ b ∈ results, R a b := by
  induction h with
  | nil => cases ha
  | cons hR _ ih =>
    rcases List.mem_cons.mp ha with rfl | ha
    · exact ⟨_, List.mem_cons_self, hR⟩
    · obtain ⟨b, hb, hR⟩ := ih ha
      exact ⟨b, List.mem_cons_of_mem _ hb, hR⟩

theorem map_eq_map_of_forall₂ {γ : Type} {f : α → γ} {g : β → γ} {items : List α}
    {results : List β} (h : List.Forall₂ (fun a b => f a = g b) items results) :
    items.map f = results.map g := by
  rwa [← List.forall₂_eq_eq_eq, List.forall₂_map_left_iff, List.forall₂_map_right_iff]

theorem getElem?_of_forall₂ {R : α → β → Prop} {items : List α} {results : List β}
    (h : List.Forall₂ R items results) {i : Nat} {a : α} (ha : items[i]? = some a) :
    ∃ b, results[i]? = some b ∧ R a b := by
  induction h generalizing i with
  | nil => simp at ha
  | cons hR _ ih =>
    cases i with
    | zero =>
      obtain rfl := Option.some.inj ha
      exact ⟨_, rfl, hR⟩
    | succ i => exact ih ha

end MutationTesting.Checks
