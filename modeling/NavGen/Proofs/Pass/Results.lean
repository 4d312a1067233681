import Mathlib.Data.List.Forall2
import Mathlib.Data.List.Perm.Basic
import NavGen.Pass.Setup

/-!
# Results of computations

A computation of several steps gives a value if each step does. Two computations end alike if both stop at an error or both give a value, and the
values are related. Which error it is does not matter: a pass stops at the first one it meets, so that depends on the order in which it looks. A
computation for each item of a list ends alike for all orders of the items, up to the order of the values.
-/

namespace NavGen

/-- A computation of two steps gives a value if the first gives one from which the second gives it. -/
theorem bind_eq_ok {ε α β : Type} {first : Except ε α} {next : α → Except ε β} {value : β} :
    (first >>= next) = .ok value ↔ ∃ middle, first = .ok middle ∧ next middle = .ok value := by
  cases first with
  | error error => simp [bind, Except.bind]
  | ok middle => simp [bind, Except.bind]

/-- A computation of two steps stops at an error if the first does, or the second with what the first gives. -/
theorem bind_eq_error {ε α β : Type} {first : Except ε α} {next : α → Except ε β} {error : ε} :
    (first >>= next) = .error error ↔ first = .error error ∨ ∃ middle, first = .ok middle ∧ next middle = .error error := by
  cases first with
  | error error' => simp [bind, Except.bind]
  | ok middle => simp [bind, Except.bind]

/-- A value that is changed afterwards was given before. -/
theorem map_eq_ok {ε α β : Type} {f : α → β} {result : Except ε α} {value : β} :
    result.map f = .ok value ↔ ∃ before, result = .ok before ∧ f before = value := by
  cases result with
  | error error => simp [Except.map]
  | ok before => simp [Except.map]

theorem map_eq_error {ε α β : Type} {f : α → β} {result : Except ε α} {error : ε} :
    result.map f = .error error ↔ result = .error error := by
  cases result with
  | error error => simp [Except.map]
  | ok before => simp [Except.map]

theorem mapM_cons_eq_ok {ε α β : Type} {f : α → Except ε β} {item : α} {rest : List α} {values : List β} :
    (item :: rest).mapM f = .ok values ↔
      ∃ value others, f item = .ok value ∧ rest.mapM f = .ok others ∧ values = value :: others := by
  rw [List.mapM_cons]
  constructor
  · intro h
    obtain ⟨value, hvalue, h⟩ := bind_eq_ok.1 h
    obtain ⟨others, hothers, h⟩ := bind_eq_ok.1 h
    cases h
    exact ⟨value, others, hvalue, hothers, rfl⟩
  · rintro ⟨value, others, hvalue, hothers, rfl⟩
    exact bind_eq_ok.2 ⟨value, hvalue, bind_eq_ok.2 ⟨others, hothers, rfl⟩⟩

/-- A computation gives values for the items of a list exactly if it gives them one by one. -/
theorem mapM_eq_ok_iff_forall₂ {ε α β : Type} {f : α → Except ε β} {items : List α} {values : List β} :
    items.mapM f = .ok values ↔ List.Forall₂ (fun item value => f item = .ok value) items values := by
  induction items generalizing values with
  | nil =>
    rw [List.forall₂_nil_left_iff, List.mapM_nil]
    exact ⟨fun h => (Except.ok.inj h).symm, fun h => congrArg Except.ok h.symm⟩
  | cons item rest ih =>
    rw [mapM_cons_eq_ok, List.forall₂_cons_left_iff]
    simp only [ih]

/-- Items that are given back one by one are given back as a list. -/
theorem mapM_map_eq_ok {ε α β : Type} {f : β → Except ε α} {item : α → β} (h : ∀ a, f (item a) = .ok a) (items : List α) :
    (items.map item).mapM f = .ok items := by
  induction items with
  | nil => rfl
  | cons first rest ih => exact mapM_cons_eq_ok.2 ⟨first, rest, h first, ih, rfl⟩

/-- Each value that a computation gives for the items of a list comes from one of them. -/
theorem exists_of_mem_mapM {ε α β : Type} {f : α → Except ε β} {items : List α} {values : List β} (h : items.mapM f = .ok values)
    {value : β} (hmem : value ∈ values) : ∃ item ∈ items, f item = .ok value := by
  induction items generalizing values with
  | nil =>
    cases h
    contradiction
  | cons item rest ih =>
    obtain ⟨first, others, hfirst, hothers, rfl⟩ := mapM_cons_eq_ok.1 h
    rcases List.mem_cons.1 hmem with rfl | hmem
    · exact ⟨item, List.mem_cons_self, hfirst⟩
    · obtain ⟨other, hother, hvalue⟩ := ih hothers hmem
      exact ⟨other, List.mem_cons_of_mem item hother, hvalue⟩

/-- If a computation gives values for the items of a list, then it gives one of them for each item. -/
theorem exists_value_of_mapM {ε α β : Type} {f : α → Except ε β} {items : List α} {values : List β} (h : items.mapM f = .ok values)
    {item : α} (hmem : item ∈ items) : ∃ value ∈ values, f item = .ok value := by
  induction items generalizing values with
  | nil => contradiction
  | cons first rest ih =>
    obtain ⟨value, others, hvalue, hothers, rfl⟩ := mapM_cons_eq_ok.1 h
    rcases List.mem_cons.1 hmem with rfl | hmem
    · exact ⟨value, List.mem_cons_self, hvalue⟩
    · obtain ⟨other, hother, hitem⟩ := ih hothers hmem
      exact ⟨other, List.mem_cons_of_mem value hother, hitem⟩

/-- A computation gives values for the items of a list exactly if it gives one for each item. -/
theorem exists_mapM_eq_ok_iff {ε α β : Type} {f : α → Except ε β} {items : List α} :
    (∃ values, items.mapM f = .ok values) ↔ ∀ item ∈ items, ∃ value, f item = .ok value := by
  constructor
  · rintro ⟨values, h⟩ item hmem
    obtain ⟨value, -, hvalue⟩ := exists_value_of_mapM h hmem
    exact ⟨value, hvalue⟩
  · intro h
    induction items with
    | nil => exact ⟨[], rfl⟩
    | cons first rest ih =>
      obtain ⟨⟨value, hvalue⟩, hrest⟩ := List.forall_mem_cons.1 h
      obtain ⟨others, hothers⟩ := ih hrest
      exact ⟨value :: others, mapM_cons_eq_ok.2 ⟨value, others, hvalue, hothers, rfl⟩⟩

/-- If a computation stops at an error in a list, then it does so at an item. -/
theorem exists_of_mapM_eq_error {ε α β : Type} {f : α → Except ε β} {items : List α} {error : ε} (h : items.mapM f = .error error) :
    ∃ item ∈ items, f item = .error error := by
  induction items with
  | nil => contradiction
  | cons first rest ih =>
    rw [List.mapM_cons] at h
    cases hfirst : f first with
    | error error' =>
      rw [hfirst] at h
      cases h
      exact ⟨first, List.mem_cons_self, hfirst⟩
    | ok value =>
      rw [hfirst] at h
      cases hrest : rest.mapM f with
      | error error' =>
        rw [hrest] at h
        cases h
        obtain ⟨item, hitem, herror⟩ := ih hrest
        exact ⟨item, List.mem_cons_of_mem first hitem, herror⟩
      | ok others =>
        rw [hrest] at h
        contradiction

/-- What can be decided of the value of a computation holds of a value that it gives. -/
theorem exists_ok_of_any {ε α : Type} (result : Except ε α) (p : α → Prop) [DecidablePred p]
    (h : result.toOption.any (fun value => decide (p value)) = true) : ∃ value, result = .ok value ∧ p value := by
  cases result with
  | error error => contradiction
  | ok value => exact ⟨value, rfl, of_decide_eq_true h⟩

/-! ## Ending alike -/

/-- Whether two results are both errors or are both values that are related. -/
inductive EndAlike {ε α β : Type} (R : α → β → Prop) : Except ε α → Except ε β → Prop where
  | ok {a : α} {b : β} (related : R a b) : EndAlike R (.ok a) (.ok b)
  | error (e e' : ε) : EndAlike R (.error e) (.error e')

namespace EndAlike

variable {ε α β γ δ : Type}

theorem refl {R : α → α → Prop} (h : ∀ a, R a a) (x : Except ε α) : EndAlike R x x := by
  cases x with
  | ok a => exact .ok (h a)
  | error e => exact .error e e

theorem of_eq {x y : Except ε α} (h : x = y) : EndAlike Eq x y :=
  h ▸ refl (fun _ => rfl) x

theorem trans {R : α → β → Prop} {S : β → γ → Prop} {T : α → γ → Prop} {x : Except ε α} {y : Except ε β} {z : Except ε γ}
    (hxy : EndAlike R x y) (hyz : EndAlike S y z) (hT : ∀ a b c, R a b → S b c → T a c) : EndAlike T x z := by
  cases hxy with
  | ok hR =>
    cases hyz with
    | ok hS => exact .ok (hT _ _ _ hR hS)
  | error e e' =>
    cases hyz with
    | error _ e'' => exact .error e e''

/-- Computations that end alike go on alike if they do for all related values. -/
theorem bind {R : α → β → Prop} {S : γ → δ → Prop} {x : Except ε α} {y : Except ε β} {f : α → Except ε γ}
    {g : β → Except ε δ} (h : EndAlike R x y) (hnext : ∀ a b, R a b → EndAlike S (f a) (g b)) :
    EndAlike S (x >>= f) (y >>= g) := by
  cases h with
  | ok related => exact hnext _ _ related
  | error e e' => exact .error e e'

theorem map {R : α → β → Prop} {S : γ → δ → Prop} {x : Except ε α} {y : Except ε β} {f : α → γ} {g : β → δ}
    (h : EndAlike R x y) (hmap : ∀ a b, R a b → S (f a) (g b)) : EndAlike S (x.map f) (y.map g) := by
  cases h with
  | ok related => exact .ok (hmap _ _ related)
  | error e e' => exact .error e e'

/-- Results end alike if each value of one has a related value of the other. -/
theorem of_ok {R : α → β → Prop} {x : Except ε α} {y : Except ε β} (hx : ∀ a, x = .ok a → ∃ b, y = .ok b ∧ R a b)
    (hy : ∀ b, y = .ok b → ∃ a, x = .ok a) : EndAlike R x y := by
  cases x with
  | ok a =>
    obtain ⟨b, rfl, related⟩ := hx a rfl
    exact .ok related
  | error e =>
    cases y with
    | ok b =>
      obtain ⟨a, ha⟩ := hy b rfl
      contradiction
    | error e' => exact .error e e'

/-- Results with equal values, if any, end alike. -/
theorem of_toOption_eq {x y : Except ε α} (h : x.toOption = y.toOption) : EndAlike Eq x y := by
  cases x with
  | ok a =>
    cases y with
    | ok b => exact .ok (Option.some.inj h)
    | error e' => contradiction
  | error e =>
    cases y with
    | ok b => contradiction
    | error e' => exact .error e e'

/-- Where the first of two results that end alike is a value, so is the second. -/
theorem exists_ok_right {R : α → β → Prop} {x : Except ε α} {y : Except ε β} (h : EndAlike R x y) {a : α} (hx : x = .ok a) :
    ∃ b, y = .ok b ∧ R a b := by
  cases h with
  | ok related =>
    cases hx
    exact ⟨_, rfl, related⟩
  | error e e' => cases hx

/-- Where the second of two results that end alike is a value, so is the first. -/
theorem exists_ok_left {R : α → β → Prop} {x : Except ε α} {y : Except ε β} (h : EndAlike R x y) {b : β} (hy : y = .ok b) :
    ∃ a, x = .ok a ∧ R a b := by
  cases h with
  | ok related =>
    cases hy
    exact ⟨_, rfl, related⟩
  | error e e' => cases hy

/-! ## Lists -/

/-- Computations that end alike for each item of a list end alike for the list, value by value. -/
theorem mapM {R : β → γ → Prop} {f : α → Except ε β} {g : α → Except ε γ} {items : List α}
    (h : ∀ item ∈ items, EndAlike R (f item) (g item)) : EndAlike (List.Forall₂ R) (items.mapM f) (items.mapM g) := by
  induction items with
  | nil => exact .ok .nil
  | cons item rest ih =>
    rw [List.forall_mem_cons] at h
    rw [List.mapM_cons, List.mapM_cons]
    refine bind h.1 fun b c hbc => ?_
    refine bind (ih h.2) fun bs cs hrest => ?_
    exact .ok (.cons hbc hrest)

/-- A computation for each item of a list gives the same values in another order if the items come in another order. -/
theorem mapM_same_perm (f : α → Except ε β) {items items' : List α} (h : items.Perm items') :
    EndAlike List.Perm (items.mapM f) (items'.mapM f) := by
  induction h with
  | nil => exact .ok (List.Perm.refl _)
  | cons item _ ih =>
    rw [List.mapM_cons, List.mapM_cons]
    refine bind (of_eq rfl) fun b c hbc => ?_
    refine bind ih fun bs cs hrest => ?_
    exact .ok (hbc ▸ List.Perm.cons b hrest)
  | swap item item' rest =>
    simp only [List.mapM_cons]
    cases f item with
    | error e =>
      cases f item' with
      | error e' => exact .error e' e
      | ok b' => exact .error e e
    | ok b =>
      cases f item' with
      | error e' => exact .error e' e'
      | ok b' =>
        cases rest.mapM f with
        | error e => exact .error e e
        | ok bs => exact .ok (List.Perm.swap b b' bs)
  | trans _ _ ih ih' => exact ih.trans ih' fun _ _ _ => List.Perm.trans

/-- Computations that end alike for each item give the same values up to order, for all orders of the items. -/
theorem mapM_perm {f g : α → Except ε β} {items items' : List α} (hitems : items.Perm items')
    (h : ∀ item ∈ items, EndAlike Eq (f item) (g item)) : EndAlike List.Perm (items.mapM f) (items'.mapM g) := by
  have hsame := mapM h
  rw [List.forall₂_eq_eq_eq] at hsame
  exact hsame.trans (mapM_same_perm g hitems) fun _ _ _ heq => heq ▸ id

end EndAlike

/-! ## Computations with a log -/

namespace Logged

variable {α β : Type}

@[simp] theorem result_pure (value : α) : (Pure.pure value : Logged α).result = .ok value :=
  rfl

@[simp] theorem result_lift (result : Except SetupError α) : (lift result).result = result :=
  rfl

@[simp] theorem result_debug (message : String) : (debug message).result = .ok () :=
  rfl

/-- The result of one computation after another does not depend on what they log. -/
@[simp] theorem result_bind (first : Logged α) (next : α → Logged β) :
    (first >>= next).result = first.result >>= fun value => (next value).result := by
  change (Logged.bind first next).result = _
  unfold Logged.bind
  split
  · rename_i herror
    rw [herror]
    rfl
  · rename_i hok
    rw [hok]
    rfl

theorem result_each (compute : α → Logged β) (items : List α) :
    (each compute items).result = items.mapM fun item => (compute item).result := by
  induction items with
  | nil => rfl
  | cons item rest ih =>
    have hcons : each compute (item :: rest) =
        compute item >>= fun found => each compute rest >>= fun others => Pure.pure (found :: others) := rfl
    simp only [hcons, result_bind, result_pure, ih, List.mapM_cons]
    rfl

theorem result_flatMap (compute : α → Logged (List β)) (items : List α) :
    (flatMap compute items).result = (items.mapM fun item => (compute item).result).map List.flatten := by
  induction items with
  | nil => rfl
  | cons item rest ih =>
    have hcons : flatMap compute (item :: rest) =
        compute item >>= fun found => flatMap compute rest >>= fun others => Pure.pure (found ++ others) := rfl
    simp only [hcons, result_bind, result_pure, ih, List.mapM_cons]
    cases (compute item).result with
    | error e => rfl
    | ok found =>
      cases rest.mapM fun item => (compute item).result with
      | error e => rfl
      | ok others => rfl

/-- Computations that go on in the same way from the value of the first are the same, log and all. -/
theorem bind_congr {first : Logged α} {next next' : α → Logged β} (h : ∀ value, first.result = .ok value → next value = next' value) :
    (first >>= next) = (first >>= next') := by
  change Logged.bind first next = Logged.bind first next'
  unfold Logged.bind
  split
  · rfl
  · rename_i value hvalue
    rw [h value hvalue]

/-- Computations that are the same for each item of a list are the same for the list. -/
theorem each_congr {f g : α → Logged β} {items : List α} (h : ∀ item ∈ items, f item = g item) : each f items = each g items := by
  induction items with
  | nil => rfl
  | cons item rest ih =>
    obtain ⟨hitem, hrest⟩ := List.forall_mem_cons.1 h
    rw [each, each, hitem, ih hrest]

theorem flatMap_congr {f g : α → Logged (List β)} {items : List α} (h : ∀ item ∈ items, f item = g item) :
    flatMap f items = flatMap g items := by
  induction items with
  | nil => rfl
  | cons item rest ih =>
    obtain ⟨hitem, hrest⟩ := List.forall_mem_cons.1 h
    rw [flatMap, flatMap, hitem, ih hrest]

/-- Computations that end alike for each item of a list end so together, up to order, for all orders of the list. -/
theorem each_perm {f g : α → Logged β} {items items' : List α} (hitems : items.Perm items')
    (h : ∀ item ∈ items, EndAlike Eq (f item).result (g item).result) :
    EndAlike List.Perm (each f items).result (each g items').result := by
  rw [result_each, result_each]
  exact EndAlike.mapM_perm hitems h

/-- So do computations that give a list for each item. -/
theorem flatMap_perm {f g : α → Logged (List β)} {items items' : List α} (hitems : items.Perm items')
    (h : ∀ item ∈ items, EndAlike List.Perm (f item).result (g item).result) :
    EndAlike List.Perm (flatMap f items).result (flatMap g items').result := by
  rw [result_flatMap, result_flatMap]
  have hsame := (EndAlike.mapM h).map (S := List.Perm) fun _ _ => List.Perm.flatten_congr
  have hmoved := (EndAlike.mapM_same_perm (fun item => (g item).result) hitems).map (S := List.Perm) fun _ _ => List.Perm.flatten
  exact hsame.trans hmoved fun _ _ _ => List.Perm.trans

end Logged

end NavGen
