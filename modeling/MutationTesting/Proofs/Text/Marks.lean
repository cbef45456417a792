import Mathlib.Data.List.TakeDrop
import Mathlib.Data.List.TakeWhile

/-!
# Texts with marks

A text whose parts have a mark between them can be taken apart at the mark again, provided that the
part on one side of it is without the mark.

* `span_append_cons`, `span_of_not_mem` — where a text is cut
* `append_cons_inj`, `append_cons_inj_left` — the parts behind the last mark and in front of the
  first one are determined by the text
* `mark_induction` — from mark to mark
-/

namespace MutationTesting

variable {c : Char} {l : List Char}

theorem bne_of_not_mem (h : c ∉ l) : ∀ d ∈ l, (d != c) = true := by
  intro d hd
  rw [bne_iff_ne]
  rintro rfl
  exact h hd

/-- A text is cut at its first mark. -/
theorem span_append_cons (h : c ∉ l) (r : List Char) :
    (l ++ c :: r).span (· != c) = (l, c :: r) := by
  rw [List.span_eq_takeWhile_dropWhile, List.takeWhile_append_of_pos (bne_of_not_mem h),
    List.dropWhile_append_of_pos (bne_of_not_mem h), List.takeWhile_cons_of_neg (by simp),
    List.dropWhile_cons_of_neg (by simp), List.append_nil]

/-- A text without a mark stays whole. -/
theorem span_of_not_mem (h : c ∉ l) : l.span (· != c) = (l, []) := by
  rw [List.span_eq_takeWhile_dropWhile, List.takeWhile_eq_self_iff.mpr (bne_of_not_mem h),
    List.dropWhile_eq_nil_iff.mpr (bne_of_not_mem h)]

/-- Texts that end in a part without some character can be cut before that part. -/
theorem append_cons_inj {α : Type} {c : α} {l₁ l₂ r₁ r₂ : List α}
    (h : l₁ ++ c :: r₁ = l₂ ++ c :: r₂) (h₁ : c ∉ r₁) (h₂ : c ∉ r₂) : l₁ = l₂ ∧ r₁ = r₂ := by
  rcases List.append_eq_append_iff.mp h with ⟨t, rfl, ht⟩ | ⟨t, rfl, ht⟩
  · cases t with
    | nil => simpa using ht
    | cons d t =>
      rw [List.cons_append, List.cons.injEq] at ht
      exact absurd (by rw [ht.2]; simp) h₁
  · cases t with
    | nil => simpa using ht.symm
    | cons d t =>
      rw [List.cons_append, List.cons.injEq] at ht
      exact absurd (by rw [ht.2]; simp) h₂

/-- Texts that begin with a part without some character can be cut behind that part. -/
theorem append_cons_inj_left {α : Type} {c : α} {l₁ l₂ r₁ r₂ : List α}
    (h : l₁ ++ c :: r₁ = l₂ ++ c :: r₂) (h₁ : c ∉ l₁) (h₂ : c ∉ l₂) : l₁ = l₂ ∧ r₁ = r₂ := by
  have hreverse : r₁.reverse ++ c :: l₁.reverse = r₂.reverse ++ c :: l₂.reverse := by
    simpa using congrArg List.reverse h
  obtain ⟨hr, hl⟩ := append_cons_inj hreverse (by simpa using h₁) (by simpa using h₂)
  exact ⟨List.reverse_inj.mp hl, List.reverse_inj.mp hr⟩

/-- A text has no mark, or a first one with a text behind it: an induction on the length. -/
theorem mark_induction (c : Char) {motive : List Char → Prop}
    (plain : ∀ text, c ∉ text → motive text)
    (marked : ∀ front back, c ∉ front → motive back → motive (front ++ c :: back))
    (text : List Char) : motive text := by
  induction hlength : text.length using Nat.strong_induction_on generalizing text with
  | _ n ih =>
    subst hlength
    by_cases h : c ∈ text
    · obtain ⟨front, back, rfl, hfront⟩ := List.eq_append_cons_of_mem h
      exact marked front back hfront (ih _ (by simp; omega) back rfl)
    · exact plain text h

end MutationTesting
