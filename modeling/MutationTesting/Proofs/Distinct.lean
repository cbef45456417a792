import Mathlib.Data.List.Nodup
import MutationTesting.Distinct

/-!
# Lists without later repetitions

What is kept of a list: nothing else, something for every key, and nothing twice; what is found
first stays first.
-/

namespace MutationTesting

variable {α : Type} {key : α → String}

theorem mem_appendNew {kept : List α} {a b : α} (h : b ∈ appendNew key kept a) :
    b ∈ kept ∨ b = a := by
  unfold appendNew at h
  split at h
  · exact Or.inl h
  · simpa using h

theorem appendNew_keeps {kept : List α} {a b : α} (h : b ∈ kept) : b ∈ appendNew key kept a := by
  unfold appendNew
  split
  · exact h
  · exact List.mem_append_left _ h

/-- The key of an item is there after it has been appended. -/
theorem key_mem_appendNew (kept : List α) (a : α) : key a ∈ (appendNew key kept a).map key := by
  unfold appendNew
  split
  · next h =>
    obtain ⟨b, hb, hkey⟩ := List.any_eq_true.mp h
    rw [beq_iff_eq] at hkey
    exact List.mem_map.mpr ⟨b, hb, hkey⟩
  · simp

theorem nodup_appendNew {kept : List α} (h : (kept.map key).Nodup) (a : α) :
    ((appendNew key kept a).map key).Nodup := by
  unfold appendNew
  split
  · exact h
  · next hnew =>
    rw [List.map_append, List.nodup_append]
    refine ⟨h, by simp, ?_⟩
    intro k hk k' hk'
    obtain rfl : k' = key a := by simpa using hk'
    rintro rfl
    obtain ⟨b, hb, hkey⟩ := List.mem_map.mp hk
    exact hnew (List.any_eq_true.mpr ⟨b, hb, by simpa using hkey⟩)

/-! ## Whole lists -/

theorem mem_distinctBy {items : List α} {a : α} (h : a ∈ distinctBy key items) : a ∈ items := by
  have hkept : ∀ b ∈ distinctBy key items, b ∈ items := by
    refine List.foldlRecOn (motive := fun kept => ∀ b ∈ kept, b ∈ items) items (appendNew key)
      (List.forall_mem_nil _) fun kept hkept b hb c hc => ?_
    rcases mem_appendNew hc with hc | rfl
    · exact hkept c hc
    · exact hb
  exact hkept a h

/-- Something is kept for every key. -/
theorem key_mem_distinctBy {items : List α} {a : α} (h : a ∈ items) :
    key a ∈ (distinctBy key items).map key := by
  obtain ⟨before, after, rfl⟩ := List.append_of_mem h
  rw [distinctBy, List.foldl_append, List.foldl_cons]
  -- the key is there once the item has been appended, and what is kept once stays
  refine List.foldlRecOn (motive := fun kept => key a ∈ kept.map key) after (appendNew key)
    (key_mem_appendNew _ a) fun kept hkept b _ => ?_
  obtain ⟨c, hc, hkey⟩ := List.mem_map.mp hkept
  exact List.mem_map.mpr ⟨c, appendNew_keeps hc, hkey⟩

/-- **Nothing is kept twice.** -/
theorem nodup_distinctBy (key : α → String) (items : List α) :
    ((distinctBy key items).map key).Nodup :=
  List.foldlRecOn (motive := fun kept => (kept.map key).Nodup) items (appendNew key)
    List.nodup_nil fun _ hkept b _ => nodup_appendNew hkept b

/-- A list without repetitions is kept as it is. -/
theorem distinctBy_eq_self {items : List α} (h : (items.map key).Nodup) :
    distinctBy key items = items := by
  have hfold : ∀ (items kept : List α), ((kept ++ items).map key).Nodup →
      items.foldl (appendNew key) kept = kept ++ items := by
    intro items
    induction items with
    | nil => simp
    | cons b items ih =>
      intro kept h
      have hnew : appendNew key kept b = kept ++ [b] := by
        unfold appendNew
        rw [if_neg]
        intro hany
        obtain ⟨c, hc, hkey⟩ := List.any_eq_true.mp hany
        rw [beq_iff_eq] at hkey
        rw [List.map_append, List.nodup_append] at h
        exact h.2.2 _ (List.mem_map_of_mem hc) _ (List.mem_map_of_mem List.mem_cons_self) hkey
      rw [List.foldl_cons, hnew, ih _ (by simpa using h), List.append_assoc, List.singleton_append]
  simpa [distinctBy] using hfold items [] h

/-- Items that are appended unless they are there already come behind what was there: the first
occurrences of those that are new. -/
theorem foldl_append_if_new {β : Type} [BEq β] [LawfulBEq β] : ∀ items kept : List β,
    items.foldl (fun kept b => if kept.contains b then kept else kept ++ [b]) kept
      = kept ++ (items.removeAll kept).eraseDups
  | [], kept => by simp [List.removeAll]
  | b :: items, kept => by
    rw [List.foldl_cons, foldl_append_if_new items]
    by_cases h : kept.contains b
    · have hskip : (b :: items).removeAll kept = items.removeAll kept := by
        rw [List.removeAll, List.filter_cons_of_neg (by simpa using h), List.removeAll]
      rw [if_pos h, hskip]
    · -- what is new behind the item is what is new at first, but for copies of the item
      have htake : ((b :: items).removeAll kept).eraseDups
          = b :: (items.removeAll (kept ++ [b])).eraseDups := by
        rw [List.removeAll, List.filter_cons_of_pos (by simpa using h), List.eraseDups_cons,
          List.filter_filter, List.removeAll]
        congr 2
        refine List.filter_congr fun a _ => ?_
        by_cases hab : a = b <;> simp [hab]
      rw [if_neg h, htake, List.append_assoc, List.singleton_append]

/-- Of a list without repetitions all items are first occurrences. -/
theorem eraseDups_eq_self {β : Type} [BEq β] [LawfulBEq β] : ∀ {items : List β}, items.Nodup →
    items.eraseDups = items
  | [], _ => List.eraseDups_nil
  | b :: items, h => by
    rw [List.nodup_cons] at h
    have hkeep : (items.filter fun a => !a == b) = items := by
      refine List.filter_eq_self.mpr fun a ha => ?_
      have hne : a ≠ b := fun he => h.1 (he ▸ ha)
      simpa using hne
    rw [List.eraseDups_cons, hkeep, eraseDups_eq_self h.2]

/-- Of texts the first occurrences are kept. -/
theorem distinctBy_id_eq_eraseDups (items : List String) :
    distinctBy id items = items.eraseDups := by
  have happend : appendNew (id : String → String)
      = fun kept b => if kept.contains b then kept else kept ++ [b] := by
    funext kept b
    simp [appendNew]
  rw [distinctBy, happend, foldl_append_if_new, List.nil_append, List.removeAll_nil]

/-- What is found first in a list of texts is found first in what is kept of it. -/
theorem find?_distinctBy_id (p : String → Bool) (items : List String) :
    (distinctBy id items).find? p = items.find? p := by
  have hfold : ∀ (items kept : List String),
      (items.foldl (appendNew id) kept).find? p = (kept ++ items).find? p := by
    intro items
    induction items with
    | nil => simp
    | cons b items ih =>
      intro kept
      rw [List.foldl_cons, ih]
      by_cases h : b ∈ kept
      · have hnew : appendNew id kept b = kept := by simp [appendNew, h]
        rw [hnew, List.find?_append, List.find?_append, List.find?_cons]
        cases hfound : kept.find? p with
        | some a => rfl
        | none =>
          have hb : p b = false := by simpa using List.find?_eq_none.mp hfound b h
          rw [hb]
      · have hnew : appendNew id kept b = kept ++ [b] := by simp [appendNew, h]
        rw [hnew, List.append_assoc, List.singleton_append]
  exact hfold items []

theorem mem_distinctBy_id {items : List String} {a : String} :
    a ∈ distinctBy id items ↔ a ∈ items := by
  constructor
  · exact mem_distinctBy
  · intro h
    have hkey : id a ∈ (distinctBy id items).map id := key_mem_distinctBy h
    rwa [List.map_id] at hkey

end MutationTesting
