import Mathlib.Data.List.Nodup
import NavGen.Proofs.Pass.Results

/-!
# Lists that enumerate

A list of results is exact if nothing is missing and nothing is there twice. Results themselves may be equal, so this is said of where they come
from: the list goes through the places that have a result, each once, and holds at each turn the result of the place.
-/

namespace NavGen

/-- Whether places and values correspond one to one: the places are distinct, and the pairs of a place and a value at the same turn are those that are
related. -/
structure Enumerates {σ β : Type} (R : σ → β → Prop) (places : List σ) (values : List β) : Prop where
  nodup : places.Nodup
  length : places.length = values.length
  mem_zip : ∀ place value, (place, value) ∈ places.zip values ↔ R place value

namespace Enumerates

variable {σ τ α β γ : Type} {R R' : σ → β → Prop} {places places' : List σ} {values values' : List β}

theorem nil (h : ∀ place value, ¬R place value) : Enumerates R [] [] where
  nodup := List.nodup_nil
  length := rfl
  mem_zip place value := by simp [h place value]

theorem singleton (place : σ) (value : β) : Enumerates (fun p v => p = place ∧ v = value) [place] [value] where
  nodup := List.nodup_singleton place
  length := rfl
  mem_zip p v := by simp

theorem congr (h : Enumerates R places values) (hR : ∀ place value, R place value ↔ R' place value) :
    Enumerates R' places values where
  nodup := h.nodup
  length := h.length
  mem_zip place value := (h.mem_zip place value).trans (hR place value)

/-- Each place has a value. -/
theorem exists_of_mem (h : Enumerates R places values) {place : σ} (hmem : place ∈ places) : ∃ value, R place value := by
  obtain ⟨i, hi, rfl⟩ := List.getElem_of_mem hmem
  have hvalue : i < values.length := h.length ▸ hi
  refine ⟨values[i], (h.mem_zip _ _).1 ?_⟩
  have hzip : i < (places.zip values).length := List.length_zip ▸ Nat.lt_min.2 ⟨hi, hvalue⟩
  rw [← List.getElem_zip (h := hzip)]
  exact List.getElem_mem hzip

/-- The values are those that have a place. -/
theorem mem_values_iff (h : Enumerates R places values) {value : β} : value ∈ values ↔ ∃ place, R place value := by
  constructor
  · intro hmem
    obtain ⟨i, hi, rfl⟩ := List.getElem_of_mem hmem
    have hplace : i < places.length := h.length ▸ hi
    refine ⟨places[i], (h.mem_zip _ _).1 ?_⟩
    have hzip : i < (places.zip values).length := List.length_zip ▸ Nat.lt_min.2 ⟨hplace, hi⟩
    rw [← List.getElem_zip (h := hzip)]
    exact List.getElem_mem hzip
  · rintro ⟨place, hR⟩
    exact (List.of_mem_zip ((h.mem_zip place value).2 hR)).2

/-- Lists that go through different places can be put together. -/
theorem append (h : Enumerates R places values) (h' : Enumerates R' places' values')
    (hdisjoint : ∀ place value value', R place value → ¬R' place value') :
    Enumerates (fun place value => R place value ∨ R' place value) (places ++ places') (values ++ values') where
  nodup := by
    refine List.nodup_append.2 ⟨h.nodup, h'.nodup, fun place hmem place' hmem' heq => ?_⟩
    subst heq
    obtain ⟨value, hvalue⟩ := h.exists_of_mem hmem
    obtain ⟨value', hvalue'⟩ := h'.exists_of_mem hmem'
    exact hdisjoint place value value' hvalue hvalue'
  length := by rw [List.length_append, List.length_append, h.length, h'.length]
  mem_zip place value := by rw [List.zip_append h.length, List.mem_append, h.mem_zip, h'.mem_zip]

/-- Places may be called by other names, and values changed. -/
theorem map (h : Enumerates R places values) {rename : σ → τ} (hinjective : Function.Injective rename) (change : β → γ) :
    Enumerates (fun place value => ∃ p v, R p v ∧ rename p = place ∧ change v = value) (places.map rename) (values.map change) where
  nodup := h.nodup.map hinjective
  length := by rw [List.length_map, List.length_map, h.length]
  mem_zip place value := by
    rw [List.zip_map, List.mem_map]
    constructor
    · rintro ⟨⟨p, v⟩, hmem, heq⟩
      obtain ⟨rfl, rfl⟩ := Prod.mk.inj heq
      exact ⟨p, v, (h.mem_zip p v).1 hmem, rfl, rfl⟩
    · rintro ⟨p, v, hR, rfl, rfl⟩
      exact ⟨(p, v), (h.mem_zip p v).2 hR, rfl⟩

end Enumerates

/-- The items of a list that satisfy a test are enumerated by their positions. -/
theorem exists_enumerates_filter {α : Type} (test : α → Bool) (items : List α) :
    ∃ positions, Enumerates (fun (i : Nat) item => items[i]? = some item ∧ test item = true) positions (items.filter test) := by
  induction items with
  | nil => exact ⟨[], Enumerates.nil fun i item h => by simp at h⟩
  | cons first rest ih =>
    obtain ⟨positions, hrest⟩ := ih
    have hlater := hrest.map (fun _ _ => Nat.succ.inj) id
    by_cases htest : test first = true
    · rw [List.filter_cons_of_pos htest]
      have hboth := (Enumerates.singleton 0 first).append hlater (by rintro i item item' ⟨rfl, -⟩ ⟨j, -, -, hj, -⟩; omega)
      rw [List.map_id] at hboth
      refine ⟨_, hboth.congr fun i item => ?_⟩
      cases i with
      | zero =>
        simp only [List.getElem?_cons_zero, Option.some.injEq]
        constructor
        · rintro (⟨-, rfl⟩ | ⟨j, -, -, hj, -⟩)
          · exact ⟨rfl, htest⟩
          · exact absurd hj (Nat.succ_ne_zero j)
        · rintro ⟨rfl, -⟩
          exact Or.inl ⟨trivial, rfl⟩
      | succ i => simp
    · rw [List.filter_cons_of_neg htest]
      rw [List.map_id] at hlater
      refine ⟨_, hlater.congr fun i item => ?_⟩
      cases i with
      | zero =>
        simp only [List.getElem?_cons_zero, Option.some.injEq]
        constructor
        · rintro ⟨j, -, -, hj, -⟩
          exact absurd hj (Nat.succ_ne_zero j)
        · rintro ⟨rfl, htrue⟩
          exact absurd htrue htest
      | succ i => simp

/-- What a computation gives for the items of a list that satisfy a test is enumerated if it is for each such item, by places that tell its
position. -/
theorem exists_enumerates_flatten {ε σ α β : Type} {compute : α → Except ε (List β)} {test : α → Bool} {items : List α}
    {lists : List (List β)} (h : (items.filter test).mapM compute = .ok lists) {R : Nat → σ → β → Prop}
    (hitem : ∀ i item found, items[i]? = some item → test item = true → compute item = .ok found →
      ∃ places, Enumerates (R i) places found)
    (hskipped : ∀ i item, items[i]? = some item → test item = false → ∀ place value, ¬R i place value)
    (hposition : ∀ i j place value value', R i place value → R j place value' → i = j) :
    ∃ places, Enumerates (fun place value => ∃ i < items.length, R i place value) places lists.flatten := by
  induction items generalizing R lists with
  | nil =>
    cases h
    exact ⟨[], Enumerates.nil fun place value h => by simp at h⟩
  | cons first rest ih =>
    have hlater := fun {others : List (List β)} (hothers : (rest.filter test).mapM compute = .ok others) =>
      ih (R := fun i => R (i + 1)) hothers (fun i => hitem (i + 1)) (fun i => hskipped (i + 1))
        fun i j place value value' hi hj => Nat.succ_inj.1 (hposition _ _ place value value' hi hj)
    have hsplit : ∀ place value, (∃ i < (first :: rest).length, R i place value) ↔
        R 0 place value ∨ ∃ i < rest.length, R (i + 1) place value := by
      intro place value
      constructor
      · rintro ⟨i, hi, hR⟩
        cases i with
        | zero => exact Or.inl hR
        | succ i => exact Or.inr ⟨i, Nat.lt_of_succ_lt_succ hi, hR⟩
      · rintro (hR | ⟨i, hi, hR⟩)
        · exact ⟨0, Nat.succ_pos _, hR⟩
        · exact ⟨i + 1, Nat.succ_lt_succ hi, hR⟩
    cases htest : test first with
    | true =>
      rw [List.filter_cons_of_pos htest] at h
      obtain ⟨found, others, hfound, hothers, rfl⟩ := mapM_cons_eq_ok.1 h
      obtain ⟨places, hplaces⟩ := hitem 0 first found rfl htest hfound
      obtain ⟨places', hplaces'⟩ := hlater hothers
      have hdisjoint : ∀ place value value', R 0 place value → ¬∃ i < rest.length, R (i + 1) place value' := by
        rintro place value value' hzero ⟨i, -, hi⟩
        exact absurd (hposition 0 (i + 1) place value value' hzero hi) (Nat.succ_ne_zero i).symm
      exact ⟨_, (hplaces.append hplaces' hdisjoint).congr fun place value => (hsplit place value).symm⟩
    | false =>
      rw [List.filter_cons_of_neg (by simp [htest])] at h
      obtain ⟨places, hplaces⟩ := hlater h
      refine ⟨places, hplaces.congr fun place value => ?_⟩
      rw [hsplit]
      exact ⟨Or.inr, fun hR => hR.resolve_left (hskipped 0 first rfl htest place value)⟩

end NavGen
