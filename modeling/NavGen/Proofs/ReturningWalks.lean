import Mathlib.Data.List.Chain
import Mathlib.Data.List.Cycle

/-!
# Walks that come back

Where a relation leads on from each item in at most one way, a walk along it that comes back to an item goes round a cycle for ever after. It started
on the cycle exactly if it comes back to where it started; otherwise it has a tail that leads into the cycle and does not lie on any. From each item
there is one such walk at most, no two cycles meet, and walks over the same items go round the same cycle, unless they are the same walk.
-/

namespace NavGen

variable {α : Type}

/-- Whether a cycle goes along a relation and passes each of its items once. -/
structure IsCycleOf (r : α → α → Prop) (cycle : Cycle α) : Prop where
  nonempty : cycle ≠ Cycle.nil
  distinct : cycle.Nodup
  chain : cycle.Chain r

/-- Whether a walk along a relation goes from its start over further items, all of them different, and then comes back to one of them. -/
structure ReturningWalk (r : α → α → Prop) (start : α) (further : List α) (again : α) : Prop where
  distinct : (start :: further).Nodup
  chain : (start :: further ++ [again]).IsChain r
  mem : again ∈ start :: further

/-- Whether a relation leads from an item to a cycle that the item does not lie on. -/
def LeadsIntoCycle (r : α → α → Prop) (item : α) : Prop :=
  ∃ cycle, IsCycleOf r cycle ∧ item ∉ cycle ∧ ∃ member ∈ cycle, Relation.ReflTransGen r item member

variable {r : α → α → Prop}

/-! ## Steps of a chain -/

/-- From each item of a chain but the last there is a step to one behind the first. -/
theorem exists_next_of_isChain {items : List α} (h : items.IsChain r) {item : α} (hmem : item ∈ items.dropLast) :
    ∃ next ∈ items.tail, r item next := by
  induction items with
  | nil => contradiction
  | cons first rest ih =>
    cases rest with
    | nil => contradiction
    | cons second rest =>
      rw [List.isChain_cons_cons] at h
      rw [List.dropLast_cons_cons] at hmem
      rcases List.mem_cons.1 hmem with rfl | hmem
      · exact ⟨second, List.mem_cons_self, h.1⟩
      · obtain ⟨next, hnext, hstep⟩ := ih h.2 hmem
        exact ⟨next, List.mem_of_mem_tail hnext, hstep⟩

/-- To each item of a chain but the first there is a step from one before the last. -/
theorem exists_previous_of_isChain {items : List α} (h : items.IsChain r) {item : α} (hmem : item ∈ items.tail) :
    ∃ previous ∈ items.dropLast, r previous item := by
  have hbackwards : items.reverse.IsChain (flip r) := List.isChain_reverse.2 h
  rw [← List.mem_reverse, ← List.dropLast_reverse] at hmem
  obtain ⟨previous, hprevious, hstep⟩ := exists_next_of_isChain hbackwards hmem
  rw [List.tail_reverse, List.mem_reverse] at hprevious
  exact ⟨previous, hprevious, hstep⟩

/-- A chain leads from its first item to all of its items. -/
theorem reflTransGen_of_isChain {first : α} {rest : List α} (h : (first :: rest).IsChain r) {item : α} (hmem : item ∈ first :: rest) :
    Relation.ReflTransGen r first item := by
  have hpairwise : (first :: rest).Pairwise (Relation.ReflTransGen r) :=
    List.isChain_iff_pairwise.1 (h.imp fun _ _ => Relation.ReflTransGen.single)
  rcases List.mem_cons.1 hmem with rfl | hmem
  · exact .refl
  · exact (List.pairwise_cons.1 hpairwise).1 item hmem

/-- Where there is one way on, of two chains from one item one is the beginning of the other. -/
theorem isPrefix_or_isPrefix_of_isChain (hr : Relator.RightUnique r) {first : α} {rest rest' : List α} (h : (first :: rest).IsChain r)
    (h' : (first :: rest').IsChain r) : (first :: rest) <+: (first :: rest') ∨ (first :: rest') <+: (first :: rest) := by
  induction rest generalizing first rest' with
  | nil => exact .inl (List.prefix_append [first] rest')
  | cons second rest ih =>
    cases rest' with
    | nil => exact .inr (List.prefix_append [first] (second :: rest))
    | cons second' rest' =>
      rw [List.isChain_cons_cons] at h h'
      obtain rfl := hr h.1 h'.1
      rcases ih h.2 h'.2 with hbegins | hbegins
      · exact .inl ((List.prefix_cons_inj first).2 hbegins)
      · exact .inr ((List.prefix_cons_inj first).2 hbegins)

/-! ## Cycles and walks -/

theorem ReturningWalk.exists_next {start again : α} {further : List α} (h : ReturningWalk r start further again) {item : α}
    (hmem : item ∈ start :: further) : ∃ next ∈ further ++ [again], r item next := by
  refine exists_next_of_isChain h.chain ?_
  rw [List.dropLast_concat]
  exact hmem

theorem ReturningWalk.exists_previous {start again : α} {further : List α} (h : ReturningWalk r start further again) {item : α}
    (hmem : item ∈ further ++ [again]) : ∃ previous ∈ start :: further, r previous item := by
  have hprevious := exists_previous_of_isChain h.chain hmem
  rw [List.dropLast_concat] at hprevious
  exact hprevious

/-- A walk that comes back to its start goes once round a cycle. -/
theorem returningWalk_start_iff {start : α} {further : List α} :
    ReturningWalk r start further start ↔ IsCycleOf r (↑(start :: further) : Cycle α) := by
  constructor
  · intro h
    refine ⟨?_, Cycle.nodup_coe_iff.2 h.distinct, (Cycle.chain_coe_cons r start further).2 h.chain⟩
    rw [Ne, Cycle.coe_eq_nil]
    exact List.cons_ne_nil start further
  · intro h
    exact ⟨Cycle.nodup_coe_iff.1 h.distinct, (Cycle.chain_coe_cons r start further).1 h.chain, List.mem_cons_self⟩

theorem IsCycleOf.exists_mem {cycle : Cycle α} (h : IsCycleOf r cycle) : ∃ item, item ∈ cycle := by
  obtain ⟨items, rfl⟩ : ∃ items : List α, (↑items : Cycle α) = cycle := Quotient.exists_rep cycle
  obtain ⟨item, hmem⟩ := List.exists_mem_of_ne_nil items (mt (Cycle.coe_eq_nil items).2 h.nonempty)
  exact ⟨item, Cycle.mem_coe_iff.2 hmem⟩

/-- From each item of a cycle a walk goes once round it. -/
theorem IsCycleOf.exists_walk {cycle : Cycle α} (h : IsCycleOf r cycle) {item : α} (hmem : item ∈ cycle) :
    ∃ further : List α, cycle = ↑(item :: further) ∧ ReturningWalk r item further item := by
  obtain ⟨items, rfl⟩ : ∃ items : List α, (↑items : Cycle α) = cycle := Quotient.exists_rep cycle
  obtain ⟨before, behind, rfl⟩ := List.append_of_mem (Cycle.mem_coe_iff.1 hmem)
  have heq : (↑(before ++ item :: behind) : Cycle α) = ↑(item :: (behind ++ before)) :=
    Cycle.coe_eq_coe.2 List.isRotated_append
  rw [heq] at h ⊢
  exact ⟨behind ++ before, rfl, returningWalk_start_iff.2 h⟩

/-- A walk that comes back leads to a cycle: from the item that it comes back to, it goes on as before. -/
theorem ReturningWalk.exists_cycle {start again : α} {further : List α} (h : ReturningWalk r start further again) :
    ∃ cycle, IsCycleOf r cycle ∧ again ∈ cycle ∧ Relation.ReflTransGen r start again := by
  obtain ⟨before, behind, heq⟩ := List.append_of_mem h.mem
  have hdistinct := h.distinct
  have hchain := h.chain
  rw [heq] at hdistinct hchain
  rw [List.append_assoc] at hchain
  have hround : ReturningWalk r again behind again :=
    ⟨hdistinct.of_append_right, hchain.right_of_append, List.mem_cons_self⟩
  exact ⟨_, returningWalk_start_iff.1 hround, Cycle.mem_coe_iff.2 List.mem_cons_self,
    reflTransGen_of_isChain h.chain (List.mem_append_left _ h.mem)⟩

/-- From what leads to a cycle the relation can be followed for ever. -/
theorem IsCycleOf.not_acc {cycle : Cycle α} (h : IsCycleOf r cycle) {item member : α} (hmember : member ∈ cycle)
    (hreach : Relation.ReflTransGen r item member) : ¬Acc (fun next item => r item next) item := by
  intro hacc
  induction hacc generalizing member with
  | intro item _ ih =>
    rcases hreach.cases_head with rfl | ⟨next, hstep, hrest⟩
    · -- the step from an item of the cycle stays on it
      obtain ⟨further, rfl, hwalk⟩ := h.exists_walk hmember
      obtain ⟨next, hnext, hstep⟩ := hwalk.exists_next List.mem_cons_self
      rw [List.mem_append, List.mem_singleton, or_comm, ← List.mem_cons] at hnext
      exact ih next hstep (Cycle.mem_coe_iff.2 hnext) .refl
    · exact ih next hstep hmember hrest

/-! ## One way on -/

/-- From an item there is one walk that comes back. -/
theorem ReturningWalk.unique (hr : Relator.RightUnique r) {start again again' : α} {further further' : List α}
    (h : ReturningWalk r start further again) (h' : ReturningWalk r start further' again') : further = further' ∧ again = again' := by
  -- a walk that goes on where another comes back passes an item for the second time
  have hnot {again again' : α} {further further' : List α} (h : ReturningWalk r start further again)
      (h' : ReturningWalk r start further' again') (hbegins : start :: further ++ [again] <+: start :: further' ++ [again']) :
      start :: further ++ [again] = start :: further' ++ [again'] := by
    rcases List.prefix_concat_iff.1 hbegins with heq | hshort
    · exact heq
    · have hdistinct := h'.distinct.sublist hshort.sublist
      rw [List.nodup_append] at hdistinct
      exact absurd rfl (hdistinct.2.2 again h.mem again (List.mem_singleton_self again))
  have heq : start :: further ++ [again] = start :: further' ++ [again'] := by
    rcases isPrefix_or_isPrefix_of_isChain hr h.chain h'.chain with hbegins | hbegins
    · exact hnot h h' hbegins
    · exact (hnot h' h hbegins).symm
  obtain ⟨hwalk, hagain⟩ := List.append_inj' heq rfl
  exact ⟨List.tail_eq_of_cons_eq hwalk, List.head_eq_of_cons_eq hagain⟩

/-- Cycles that meet are the same. -/
theorem IsCycleOf.eq_of_mem (hr : Relator.RightUnique r) {cycle cycle' : Cycle α} (h : IsCycleOf r cycle) (h' : IsCycleOf r cycle') {item : α}
    (hmem : item ∈ cycle) (hmem' : item ∈ cycle') : cycle = cycle' := by
  obtain ⟨further, rfl, hwalk⟩ := h.exists_walk hmem
  obtain ⟨further', rfl, hwalk'⟩ := h'.exists_walk hmem'
  rw [(hwalk.unique hr hwalk').1]

/-- A walk that starts on a cycle goes once round it. -/
theorem ReturningWalk.eq_of_mem (hr : Relator.RightUnique r) {start again : α} {further : List α} (h : ReturningWalk r start further again)
    {cycle : Cycle α} (hcycle : IsCycleOf r cycle) (hmem : start ∈ cycle) : again = start ∧ (↑(start :: further) : Cycle α) = cycle := by
  obtain ⟨further', rfl, hwalk⟩ := hcycle.exists_walk hmem
  obtain ⟨rfl, rfl⟩ := h.unique hr hwalk
  exact ⟨rfl, rfl⟩

/-- A walk that comes back passes all that its start leads to. -/
theorem ReturningWalk.mem_of_reflTransGen (hr : Relator.RightUnique r) {start again : α} {further : List α}
    (h : ReturningWalk r start further again) {item : α} (hreach : Relation.ReflTransGen r start item) : item ∈ start :: further := by
  induction hreach with
  | refl => exact List.mem_cons_self
  | tail _ hstep ih =>
    obtain ⟨next, hnext, hstep'⟩ := h.exists_next ih
    obtain rfl := hr hstep hstep'
    rcases List.mem_append.1 hnext with hfurther | hagain
    · exact List.mem_cons_of_mem _ hfurther
    · exact List.mem_singleton.1 hagain ▸ h.mem

/-- A walk that comes back to another item than its start started outside the cycle that it leads into. -/
theorem ReturningWalk.leadsIntoCycle_iff (hr : Relator.RightUnique r) {start again : α} {further : List α}
    (h : ReturningWalk r start further again) : LeadsIntoCycle r start ↔ again ≠ start := by
  constructor
  · rintro ⟨cycle, hcycle, hnotMem, member, hmember, hreach⟩ rfl
    have hmem : member ∈ (↑(again :: further) : Cycle α) := Cycle.mem_coe_iff.2 (h.mem_of_reflTransGen hr hreach)
    rw [← (returningWalk_start_iff.1 h).eq_of_mem hr hcycle hmem hmember] at hnotMem
    exact hnotMem (Cycle.mem_coe_iff.2 List.mem_cons_self)
  · intro hne
    obtain ⟨cycle, hcycle, hagain, hreach⟩ := h.exists_cycle
    exact ⟨cycle, hcycle, fun hmem => hne (h.eq_of_mem hr hcycle hmem).1, again, hagain, hreach⟩

/-- A walk that starts with a step from one of its items comes back to its start. -/
theorem ReturningWalk.again_eq_of_step (hr : Relator.RightUnique r) {start again : α} {further : List α}
    (h : ReturningWalk r start further again) {item : α} (hmem : item ∈ start :: further) (hstep : r item start) : again = start := by
  obtain ⟨next, hnext, hstep'⟩ := h.exists_next hmem
  obtain rfl := hr hstep hstep'
  rcases List.mem_append.1 hnext with hfurther | hagain
  · exact absurd hfurther (List.nodup_cons.1 h.distinct).1
  · exact (List.mem_singleton.1 hagain).symm

/-- Walks that do not come back to their starts and pass the same items are the same. -/
theorem ReturningWalk.start_eq_of_perm (hr : Relator.RightUnique r) {start start' again again' : α} {further further' : List α}
    (h : ReturningWalk r start further again) (h' : ReturningWalk r start' further' again')
    (hperm : (start :: further).Perm (start' :: further')) (hne : again ≠ start) : start' = start := by
  by_contra hother
  have hmem : start ∈ further' := (List.mem_cons.1 (hperm.mem_iff.1 List.mem_cons_self)).resolve_left (Ne.symm hother)
  obtain ⟨previous, hprevious, hstep⟩ := h'.exists_previous (List.mem_append_left _ hmem)
  exact hne (h.again_eq_of_step hr (hperm.mem_iff.2 hprevious) hstep)

end NavGen
