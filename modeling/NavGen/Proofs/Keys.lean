import Mathlib.Data.List.Nodup

/-!
# Lists with distinct keys

Names are looked up in lists, and most checks of a model ask that no two items of a list have the same name. The statements here say what
a search gives when the keys of a list are distinct, and how a check that goes through a list with the keys it has seen amounts to this.
-/

namespace NavGen

variable {α κ : Type}

/-- Whether keys are distinct and none of them was seen before. -/
def FreshAfter (seen keys : List κ) : Prop :=
  keys.Nodup ∧ ∀ key ∈ keys, key ∉ seen

theorem freshAfter_nil (seen : List κ) : FreshAfter seen [] := by
  simp [FreshAfter]

/-- The first key was not seen, and the others are fresh once it counts as seen. -/
theorem freshAfter_cons {seen keys : List κ} {key : κ} :
    FreshAfter seen (key :: keys) ↔ key ∉ seen ∧ FreshAfter (key :: seen) keys := by
  simp only [FreshAfter, List.nodup_cons, List.forall_mem_cons]
  constructor
  · rintro ⟨⟨hkey, hnodup⟩, hseen, hrest⟩
    refine ⟨hseen, hnodup, fun other hother hmem => ?_⟩
    rcases List.mem_cons.1 hmem with rfl | hmem
    · exact hkey hother
    · exact hrest other hother hmem
  · rintro ⟨hseen, hnodup, hrest⟩
    exact ⟨⟨fun hkey => hrest key hkey List.mem_cons_self, hnodup⟩, hseen,
      fun other hother hmem => hrest other hother (List.mem_cons_of_mem key hmem)⟩

/-- Before anything was seen, keys are fresh as soon as they are distinct. -/
theorem freshAfter_nil_iff {keys : List κ} : FreshAfter [] keys ↔ keys.Nodup := by
  simp [FreshAfter]

/-- One more key leaves keys distinct if it is not among them. -/
theorem nodup_keys_concat {key : α → κ} {items : List α} {item : α} :
    ((items ++ [item]).map key).Nodup ↔ (items.map key).Nodup ∧ key item ∉ items.map key := by
  rw [List.map_append, List.map_singleton, List.nodup_append_comm, List.singleton_append, List.nodup_cons, and_comm]

/-! ## Searching by key -/

variable [BEq κ] [LawfulBEq κ]

/-- A search by key finds something exactly if some item has the key. -/
theorem find?_key_isSome {key : α → κ} {items : List α} {wanted : κ} :
    (items.find? (key · == wanted)).isSome = true ↔ ∃ item ∈ items, key item = wanted := by
  simp

theorem find?_key_eq_none {key : α → κ} {items : List α} {wanted : κ} :
    items.find? (key · == wanted) = none ↔ wanted ∉ items.map key := by
  simp

/-- What a search by key finds is an item of the list that has the key. -/
theorem mem_of_find?_key {key : α → κ} {items : List α} {wanted : κ} {found : α}
    (h : items.find? (key · == wanted) = some found) : found ∈ items ∧ key found = wanted :=
  ⟨List.mem_of_find?_eq_some h, by simpa using List.find?_some h⟩

/-- Of items with distinct keys, a search finds the one that has the key. -/
theorem find?_key_eq_some {key : α → κ} {items : List α} (hkeys : (items.map key).Nodup) {wanted : κ} {found : α} :
    items.find? (key · == wanted) = some found ↔ found ∈ items ∧ key found = wanted := by
  constructor
  · exact mem_of_find?_key
  · rintro ⟨hmem, rfl⟩
    have hsome : (items.find? (key · == key found)).isSome = true := find?_key_isSome.2 ⟨found, hmem, rfl⟩
    obtain ⟨other, hother⟩ := Option.isSome_iff_exists.1 hsome
    have heq : other = found :=
      List.inj_on_of_nodup_map hkeys (mem_of_find?_key hother).1 hmem (mem_of_find?_key hother).2
    rw [hother, heq]

/-- So a search among items with distinct keys does not depend on their order. -/
theorem find?_key_eq_of_perm {key : α → κ} {items items' : List α} (h : items.Perm items') (hkeys : (items.map key).Nodup)
    (wanted : κ) : items.find? (key · == wanted) = items'.find? (key · == wanted) := by
  refine Option.ext fun found => ?_
  rw [find?_key_eq_some hkeys, find?_key_eq_some ((h.map key).nodup hkeys), h.mem_iff]

end NavGen
