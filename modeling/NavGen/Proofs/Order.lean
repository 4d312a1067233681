import Mathlib.Data.List.Nodup
import Mathlib.Data.String.Basic
import NavGen.Name

/-!
# Lists up to the order of their items

Sorting a list rearranges it, and the result is in order. Two rearrangements of the same items that are in order are the same list, provided no
two different items compare equal both ways; this is so of names, and of items that are compared by a key that is distinct for each of them.
-/

namespace NavGen

/-! ## Rearranged lists -/

/-- Whether some item of a list has a property does not depend on the order of the list. -/
theorem any_eq_of_perm {α : Type} {items items' : List α} (h : items.Perm items') (p : α → Bool) :
    items.any p = items'.any p := by
  rw [Bool.eq_iff_iff, List.any_eq_true, List.any_eq_true]
  simp only [h.mem_iff]

/-- Lists with one item at most that are the same up to order are the same. -/
theorem eq_of_perm_of_length_le_one {α : Type} {items items' : List α} (h : items.Perm items') (hlength : items.length ≤ 1) :
    items = items' := by
  match items, hlength with
  | [], _ => exact h.nil_eq
  | [item], _ => exact List.singleton_perm.1 h

/-! ## Sorting -/

section

variable {α : Type} {le : α → α → Bool}

theorem perm_insertSorted (item : α) (items : List α) : (insertSorted le item items).Perm (item :: items) := by
  induction items with
  | nil => exact List.Perm.refl _
  | cons other rest ih =>
    unfold insertSorted
    split
    · exact List.Perm.refl _
    · exact (List.Perm.cons other ih).trans (List.Perm.swap item other rest)

/-- A sorted list has the items of the list it was made of. -/
theorem perm_sortBy (items : List α) : (sortBy le items).Perm items := by
  induction items with
  | nil => exact List.Perm.refl _
  | cons item rest ih => exact (perm_insertSorted item _).trans (List.Perm.cons item ih)

theorem pairwise_insertSorted (htotal : ∀ a b, le a b = false → le b a = true)
    (htrans : ∀ a b c, le a b = true → le b c = true → le a c = true) (item : α) {items : List α}
    (h : items.Pairwise (le · ·)) : (insertSorted le item items).Pairwise (le · ·) := by
  induction items with
  | nil => exact List.pairwise_singleton _ _
  | cons other rest ih =>
    rw [List.pairwise_cons] at h
    unfold insertSorted
    cases hle : le item other with
    | true =>
      rw [if_pos rfl, List.pairwise_cons, List.forall_mem_cons]
      exact ⟨⟨hle, fun third hmem => htrans _ _ _ hle (h.1 third hmem)⟩, List.pairwise_cons.2 h⟩
    | false =>
      rw [if_neg Bool.false_ne_true, List.pairwise_cons]
      refine ⟨fun third hmem => ?_, ih h.2⟩
      rcases List.mem_cons.1 ((perm_insertSorted item rest).mem_iff.1 hmem) with rfl | hrest
      · exact htotal _ _ hle
      · exact h.1 third hrest

/-- A list that is sorted by a total and transitive comparison is in order. -/
theorem pairwise_sortBy (htotal : ∀ a b, le a b = false → le b a = true)
    (htrans : ∀ a b c, le a b = true → le b c = true → le a c = true) (items : List α) :
    (sortBy le items).Pairwise (le · ·) := by
  induction items with
  | nil => exact List.Pairwise.nil
  | cons item rest ih => exact pairwise_insertSorted htotal htrans item ih

/-- Sorting gives the same for lists with the same items, if no two different items compare equal. -/
theorem sortBy_eq_of_perm (htotal : ∀ a b, le a b = false → le b a = true)
    (htrans : ∀ a b c, le a b = true → le b c = true → le a c = true) {items items' : List α} (h : items.Perm items')
    (hantisymm : ∀ a ∈ items, ∀ b ∈ items, le a b = true → le b a = true → a = b) :
    sortBy le items = sortBy le items' := by
  refine List.Perm.eq_of_pairwise (fun a b ha hb => hantisymm a ?_ b ?_) (pairwise_sortBy htotal htrans items)
    (pairwise_sortBy htotal htrans items') ?_
  · exact (perm_sortBy items).mem_iff.1 ha
  · exact h.mem_iff.2 ((perm_sortBy items').mem_iff.1 hb)
  · exact (perm_sortBy items).trans (h.trans (perm_sortBy items').symm)

end

/-! ## Distinct items -/

theorem mem_dropRepeats {α : Type} [DecidableEq α] {items : List α} {wanted : α} : wanted ∈ dropRepeats items ↔ wanted ∈ items := by
  fun_induction dropRepeats items with
  | case1 => rfl
  | case2 => rfl
  | case3 item rest ih =>
    rw [ih]
    simp
  | case4 item next rest hne ih =>
    rw [List.mem_cons, ih, List.mem_cons (a := wanted) (b := item)]

/-- No item is left twice of a list that is in order. -/
theorem nodup_dropRepeats {α : Type} [DecidableEq α] {le : α → α → Bool} (hantisymm : ∀ a b, le a b = true → le b a = true → a = b)
    {items : List α} (h : items.Pairwise (le · ·)) : (dropRepeats items).Nodup := by
  fun_induction dropRepeats items with
  | case1 => exact List.nodup_nil
  | case2 item => exact List.nodup_singleton item
  | case3 item rest ih => exact ih (List.pairwise_cons.1 h).2
  | case4 item next rest hne ih =>
    obtain ⟨hitem, hrest⟩ := List.pairwise_cons.1 h
    refine List.nodup_cons.2 ⟨fun hmem => ?_, ih hrest⟩
    -- An item that came again behind its successor would come both before and after it.
    rcases List.mem_cons.1 (mem_dropRepeats.1 hmem) with heq | hlater
    · exact hne heq
    · exact hne (hantisymm item next (hitem next List.mem_cons_self) ((List.pairwise_cons.1 hrest).1 item hlater))

theorem dropRepeats_sublist {α : Type} [DecidableEq α] (items : List α) : (dropRepeats items).Sublist items := by
  fun_induction dropRepeats items with
  | case1 => exact List.Sublist.slnil
  | case2 item => exact List.Sublist.refl _
  | case3 item rest ih => exact ih.cons item
  | case4 item next rest hne ih => exact ih.cons_cons item

/-- Of a list that is in order, the distinct items are strictly in order. -/
theorem pairwise_dropRepeats {α : Type} [DecidableEq α] {le : α → α → Bool} (hantisymm : ∀ a b, le a b = true → le b a = true → a = b)
    {items : List α} (h : items.Pairwise (le · ·)) : (dropRepeats items).Pairwise fun a b => le a b = true ∧ a ≠ b :=
  (h.sublist (dropRepeats_sublist items)).and (nodup_dropRepeats hantisymm h)

/-! ## Texts -/

theorem textLe_total (a b : String) (h : textLe a b = false) : textLe b a = true := by
  simp only [textLe, decide_eq_false_iff_not, decide_eq_true_eq] at h ⊢
  exact le_of_not_ge h

theorem textLe_trans (a b c : String) (hab : textLe a b = true) (hbc : textLe b c = true) : textLe a c = true := by
  simp only [textLe, decide_eq_true_eq] at hab hbc ⊢
  exact le_trans hab hbc

theorem textLe_antisymm {a b : String} (hab : textLe a b = true) (hba : textLe b a = true) : a = b := by
  simp only [textLe, decide_eq_true_eq] at hab hba
  exact le_antisymm hab hba

theorem mem_sortedTexts {texts : List String} {text : String} : text ∈ sortedTexts texts ↔ text ∈ texts := by
  rw [sortedTexts, mem_dropRepeats, (perm_sortBy texts).mem_iff]

theorem nodup_sortedTexts (texts : List String) : (sortedTexts texts).Nodup :=
  nodup_dropRepeats (fun _ _ => textLe_antisymm) (pairwise_sortBy textLe_total textLe_trans texts)

theorem pairwise_lt_sortedTexts (texts : List String) : (sortedTexts texts).Pairwise (· < ·) := by
  refine (pairwise_dropRepeats (fun _ _ => textLe_antisymm) (pairwise_sortBy textLe_total textLe_trans texts)).imp ?_
  rintro a b ⟨hle, hne⟩
  exact lt_of_le_of_ne (of_decide_eq_true hle) hne

/-- Items with distinct keys are sorted the same whatever order they come in. -/
theorem sortBy_key_eq_of_perm {α : Type} {key : α → String} {items items' : List α} (h : items.Perm items')
    (hkeys : (items.map key).Nodup) :
    sortBy (fun a b => textLe (key a) (key b)) items = sortBy (fun a b => textLe (key a) (key b)) items' :=
  sortBy_eq_of_perm (fun a b => textLe_total (key a) (key b)) (fun a b c => textLe_trans (key a) (key b) (key c)) h
    fun _ ha _ hb hab hba => List.inj_on_of_nodup_map hkeys ha hb (textLe_antisymm hab hba)

/-! ## Names -/

namespace Name

/-- The order of names is the order of pairs. -/
theorem le_iff (a b : Name) : a.le b = true ↔ a.simple < b.simple ∨ a.simple = b.simple ∧ a.qualified ≤ b.qualified := by
  simp [le]

theorem le_total (a b : Name) (h : a.le b = false) : b.le a = true := by
  rw [← Bool.not_eq_true, le_iff] at h
  rw [le_iff]
  rcases lt_trichotomy a.simple b.simple with hlt | heq | hgt
  · exact absurd (Or.inl hlt) h
  · refine Or.inr ⟨heq.symm, le_of_not_ge fun hle => h (Or.inr ⟨heq, hle⟩)⟩
  · exact Or.inl hgt

theorem le_trans (a b c : Name) (hab : a.le b = true) (hbc : b.le c = true) : a.le c = true := by
  rw [le_iff] at hab hbc ⊢
  rcases hab with hab | ⟨hab, hqab⟩ <;> rcases hbc with hbc | ⟨hbc, hqbc⟩
  · exact Or.inl (lt_trans hab hbc)
  · exact Or.inl (hbc ▸ hab)
  · exact Or.inl (hab ▸ hbc)
  · exact Or.inr ⟨hab.trans hbc, hqab.trans hqbc⟩

theorem le_antisymm {a b : Name} (hab : a.le b = true) (hba : b.le a = true) : a = b := by
  rw [le_iff] at hab hba
  rcases hab with hab | ⟨hab, hqab⟩ <;> rcases hba with hba | ⟨hba, hqba⟩
  · exact absurd hab (lt_asymm hba)
  · exact absurd hba hab.ne'
  · exact absurd hab hba.ne'
  · rw [Name.mk.injEq]
    exact ⟨hab, hqab.antisymm hqba⟩

end Name

/-- Names are sorted the same whatever order they come in. -/
theorem sortBy_nameLe_eq_of_perm {names names' : List Name} (h : names.Perm names') :
    sortBy Name.le names = sortBy Name.le names' :=
  sortBy_eq_of_perm Name.le_total Name.le_trans h fun _ _ _ _ => Name.le_antisymm

end NavGen
