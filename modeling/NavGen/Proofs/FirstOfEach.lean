import NavGen.Proofs.Keys

/-!
# The first of each key

Some searches pass over what has a key that they have met before, and some results are the first of their key in a longer list. Which items of a list
these are, how they are found piece by piece, and that their keys are distinct, does not depend on what the items are.
-/

namespace NavGen

variable {α κ : Type} [BEq κ] [LawfulBEq κ] {key : α → κ} {seen : List κ} {items : List α}

/-- The first item of each key in a list, less the keys that were seen before. -/
def firstOfEach (key : α → κ) (seen : List κ) : List α → List α
  | [] => []
  | item :: rest => if key item ∈ seen then firstOfEach key seen rest else item :: firstOfEach key (key item :: seen) rest

/-! ## What is kept -/

/-- What is kept are the first items of keys that were not seen. -/
theorem mem_firstOfEach {item : α} :
    item ∈ firstOfEach key seen items ↔ key item ∉ seen ∧ items.find? (key · == key item) = some item := by
  induction items generalizing seen with
  | nil => simp [firstOfEach]
  | cons first rest ih =>
    rw [firstOfEach, List.find?_cons]
    by_cases hkey : key first = key item
    · rw [beq_iff_eq.2 hkey]
      by_cases hseen : key first ∈ seen
      · rw [if_pos hseen, ih]
        simp [← hkey, hseen]
      · rw [if_neg hseen, List.mem_cons, ih]
        simp [← hkey, hseen, eq_comm]
    · rw [beq_eq_false_iff_ne.2 hkey]
      by_cases hseen : key first ∈ seen
      · rw [if_pos hseen, ih]
      · have hne : item ≠ first := fun heq => hkey (heq ▸ rfl)
        rw [if_neg hseen, List.mem_cons, ih]
        simp [hne, Ne.symm hkey]

/-- A key is kept if it occurs and was not seen. -/
theorem mem_keys_firstOfEach {wanted : κ} : wanted ∈ (firstOfEach key seen items).map key ↔ wanted ∈ items.map key ∧ wanted ∉ seen := by
  constructor
  · intro h
    obtain ⟨item, hmem, rfl⟩ := List.mem_map.1 h
    obtain ⟨hseen, hfind⟩ := mem_firstOfEach.1 hmem
    exact ⟨List.mem_map_of_mem (List.mem_of_find?_eq_some hfind), hseen⟩
  · rintro ⟨hmem, hseen⟩
    obtain ⟨item, hitem, hkey⟩ := List.mem_map.1 hmem
    obtain ⟨first, hfirst⟩ := Option.isSome_iff_exists.1 (find?_key_isSome.2 ⟨item, hitem, hkey⟩)
    obtain ⟨-, rfl⟩ := mem_of_find?_key hfirst
    exact List.mem_map_of_mem (mem_firstOfEach.2 ⟨hseen, hfirst⟩)

theorem nodup_keys_firstOfEach (key : α → κ) (seen : List κ) (items : List α) : ((firstOfEach key seen items).map key).Nodup := by
  induction items generalizing seen with
  | nil => simp [firstOfEach]
  | cons first rest ih =>
    rw [firstOfEach]
    split
    · exact ih seen
    · rw [List.map_cons, List.nodup_cons, mem_keys_firstOfEach]
      exact ⟨fun h => h.2 List.mem_cons_self, ih _⟩

theorem firstOfEach_sublist (key : α → κ) (seen : List κ) (items : List α) : (firstOfEach key seen items).Sublist items := by
  induction items generalizing seen with
  | nil => exact List.Sublist.slnil
  | cons first rest ih =>
    rw [firstOfEach]
    split
    · exact (ih seen).cons first
    · exact (ih _).cons_cons first

/-- Nothing is left out of a list with distinct keys that were not seen. -/
theorem firstOfEach_of_freshAfter (h : FreshAfter seen (items.map key)) : firstOfEach key seen items = items := by
  induction items generalizing seen with
  | nil => rfl
  | cons first rest ih =>
    obtain ⟨hfirst, hrest⟩ := freshAfter_cons.1 h
    rw [firstOfEach, if_neg hfirst, ih hrest]

/-! ## Piece by piece -/

/-- What is kept of two lists is what is kept of the first, and then what is kept of the second when the first was seen. -/
theorem firstOfEach_append (key : α → κ) (seen : List κ) (items others : List α) :
    firstOfEach key seen (items ++ others) =
      firstOfEach key seen items ++ firstOfEach key (((firstOfEach key seen items).map key).reverse ++ seen) others := by
  induction items generalizing seen with
  | nil => rfl
  | cons first rest ih =>
    rw [List.cons_append, firstOfEach, firstOfEach]
    split
    · exact ih seen
    · rw [ih, List.map_cons, List.reverse_cons, List.append_assoc]
      rfl

/-- Items of keys that were seen can be left out. -/
theorem firstOfEach_append_of_seen (h : ∀ item ∈ items, key item ∈ seen) (others : List α) :
    firstOfEach key seen (items ++ others) = firstOfEach key seen others := by
  induction items with
  | nil => rfl
  | cons first rest ih =>
    obtain ⟨hfirst, hrest⟩ := List.forall_mem_cons.1 h
    rw [List.cons_append, firstOfEach, if_pos hfirst, ih hrest]

/-- Where each key stands for a list of items, repeats and keys that were seen can be left out before the lists are taken, if what the keys seen
stand for is seen afterwards. -/
theorem firstOfEach_flatMap (named : κ → List α) {seen' : List κ} (h : ∀ wanted ∈ seen, ∀ item ∈ named wanted, key item ∈ seen') :
    firstOfEach key seen' ((firstOfEach key seen items).flatMap fun item => named (key item)) =
      firstOfEach key seen' (items.flatMap fun item => named (key item)) := by
  induction items generalizing seen seen' with
  | nil => rfl
  | cons first rest ih =>
    rw [firstOfEach, List.flatMap_cons]
    split
    · rename_i hseen
      rw [firstOfEach_append_of_seen (h _ hseen), ih h]
    · rw [List.flatMap_cons, firstOfEach_append, firstOfEach_append]
      refine congrArg _ (ih fun wanted hwanted item hitem => ?_)
      -- what the first item stands for is seen by now
      rw [List.mem_append, List.mem_reverse, mem_keys_firstOfEach]
      by_cases hseen : key item ∈ seen'
      · exact .inr hseen
      · rcases List.mem_cons.1 hwanted with rfl | hwanted
        · exact .inl ⟨List.mem_map_of_mem hitem, hseen⟩
        · exact absurd (h wanted hwanted item hitem) hseen

end NavGen
