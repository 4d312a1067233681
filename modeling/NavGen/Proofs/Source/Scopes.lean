import NavGen.Source.Layout

/-!
# Scopes of layouts

A step of a layout opens a scope, in braces or by indentation alone, and a later step closes it. The depth of a line is a mere number, from which
nothing is taken at zero, so that a layout whose scopes do not match is written like any other. Here the open scopes are known by their kinds. Steps
that close the scopes they open, each by a step of its kind, and no others, may stand anywhere, and what is put together from such steps is such steps
again. They end at the depth that they start at, and the depth is never too small for the scopes that they close.
-/

namespace NavGen

/-- What a step of a layout opens for a later step to close. -/
inductive Scope where
  | braces
  | indentation
  deriving DecidableEq

namespace Layout

/-! ## Depth -/

/-- The depth after a list of steps. -/
def depthAfterAll (depth : Nat) (layout : List Layout) : Nat :=
  layout.foldl depthAfter depth

@[simp] theorem depthAfterAll_nil (depth : Nat) : depthAfterAll depth [] = depth :=
  rfl

@[simp] theorem depthAfterAll_cons (depth : Nat) (step : Layout) (rest : List Layout) :
    depthAfterAll depth (step :: rest) = depthAfterAll (step.depthAfter depth) rest :=
  rfl

@[simp] theorem depthAfterAll_append (depth : Nat) (first second : List Layout) :
    depthAfterAll depth (first ++ second) = depthAfterAll (depthAfterAll depth first) second :=
  List.foldl_append

/-- Whether a list of steps ends at the depth that it starts at. -/
def Level (layout : List Layout) : Prop :=
  ∀ depth, depthAfterAll depth layout = depth

/-! ## Open scopes -/

/-- Whether a step closes a scope. -/
def closes : Layout → Bool
  | .closeBrace _ | .dedent => true
  | .line _ | .blank | .openBrace _ | .indent => false

/-- The scopes that are open after a step, innermost first. A step closes the innermost scope alone, and only if that is of its kind. -/
def scopesAfter? (scopes : List Scope) (step : Layout) : Option (List Scope) :=
  match step, scopes with
  | .line _, _ | .blank, _ => some scopes
  | .openBrace _, _ => some (.braces :: scopes)
  | .indent, _ => some (.indentation :: scopes)
  | .closeBrace _, .braces :: outer => some outer
  | .dedent, .indentation :: outer => some outer
  | .closeBrace _, _ | .dedent, _ => none

/-- The scopes that are open after a list of steps. -/
def scopesAfterAll? (scopes : List Scope) (layout : List Layout) : Option (List Scope) :=
  layout.foldlM scopesAfter? scopes

theorem scopesAfterAll?_cons_eq_some {scopes next : List Scope} {step : Layout} {rest : List Layout} :
    scopesAfterAll? scopes (step :: rest) = some next ↔
      ∃ between, scopesAfter? scopes step = some between ∧ scopesAfterAll? between rest = some next := by
  rw [scopesAfterAll?, List.foldlM_cons]
  exact Option.bind_eq_some_iff

theorem scopesAfterAll?_append_eq_some {scopes next : List Scope} {first second : List Layout} :
    scopesAfterAll? scopes (first ++ second) = some next ↔
      ∃ between, scopesAfterAll? scopes first = some between ∧ scopesAfterAll? between second = some next := by
  rw [scopesAfterAll?, List.foldlM_append]
  exact Option.bind_eq_some_iff

/-- The depth counts the open scopes from one step to the next, and a step that closes one finds it counted. -/
theorem depthAfter_of_scopesAfter? {scopes next : List Scope} {step : Layout} (h : scopesAfter? scopes step = some next) :
    step.depthAfter scopes.length = next.length ∧ (step.closes = true → 0 < scopes.length) := by
  cases step with
  | line _ | blank | openBrace _ | indent =>
    cases h
    exact ⟨rfl, nofun⟩
  | closeBrace _ | dedent =>
    rcases scopes with _ | ⟨_ | _, outer⟩ <;> cases h
    exact ⟨rfl, fun _ => Nat.succ_pos _⟩

theorem depthAfterAll_of_scopesAfterAll? {scopes next : List Scope} {layout : List Layout} (h : scopesAfterAll? scopes layout = some next) :
    depthAfterAll scopes.length layout = next.length := by
  induction layout generalizing scopes with
  | nil =>
    cases h
    rfl
  | cons step rest ih =>
    obtain ⟨between, hstep, hrest⟩ := scopesAfterAll?_cons_eq_some.1 h
    rw [depthAfterAll_cons, (depthAfter_of_scopesAfter? hstep).1, ih hrest]

/-- Whether the scopes of a whole layout match and the depth of its lines counts them. -/
structure Balanced (layout : List Layout) : Prop where
  /-- Each step that closes a scope closes the one that was opened last, by a step of its kind, and none is left open. -/
  matched : scopesAfterAll? [] layout = some []
  /-- Wherever a scope is closed, there is a level of depth to take away. -/
  pos_of_closes : ∀ before step after, layout = before ++ step :: after → step.closes = true → 0 < depthAfterAll 0 before
  /-- Nothing is left of the depth. -/
  finished : depthAfterAll 0 layout = 0

/-- Where the scopes match, the depth never has to go below zero. -/
theorem balanced_of_matched {layout : List Layout} (h : scopesAfterAll? [] layout = some []) : Balanced layout where
  matched := h
  pos_of_closes := by
    rintro before step after rfl hcloses
    obtain ⟨between, hbefore, hbehind⟩ := scopesAfterAll?_append_eq_some.1 h
    obtain ⟨_, hstep, -⟩ := scopesAfterAll?_cons_eq_some.1 hbehind
    have hdepth : depthAfterAll 0 before = between.length := depthAfterAll_of_scopesAfterAll? hbefore
    rw [hdepth]
    exact (depthAfter_of_scopesAfter? hstep).2 hcloses
  finished := depthAfterAll_of_scopesAfterAll? h

-- A depth that ends at zero says less: a step too many takes nothing away at zero.
example : depthAfterAll 0 [.indent, .dedent, .dedent] = 0 ∧ scopesAfterAll? [] [.indent, .dedent, .dedent] = none := by
  decide

/-! ## Steps that may stand anywhere -/

/-- Whether a list of steps closes the scopes that it opens and no others, whatever is open around it. -/
def WellNested (layout : List Layout) : Prop :=
  ∀ scopes, scopesAfterAll? scopes layout = some scopes

theorem WellNested.level {layout : List Layout} (h : WellNested layout) : Level layout := by
  intro depth
  have hdepth := depthAfterAll_of_scopesAfterAll? (h (List.replicate depth .braces))
  rwa [List.length_replicate] at hdepth

theorem WellNested.balanced {layout : List Layout} (h : WellNested layout) : Balanced layout :=
  balanced_of_matched (h [])

theorem wellNested_nil : WellNested [] :=
  fun _ => rfl

theorem WellNested.append {first second : List Layout} (h : WellNested first) (h' : WellNested second) : WellNested (first ++ second) :=
  fun scopes => scopesAfterAll?_append_eq_some.2 ⟨scopes, h scopes, h' scopes⟩

theorem WellNested.blank {layout : List Layout} (h : WellNested layout) : WellNested (.blank :: layout) :=
  h

theorem WellNested.line {layout : List Layout} (h : WellNested layout) (content : Line) : WellNested (.line content :: layout) :=
  h

theorem WellNested.code {layout : List Layout} (h : WellNested layout) (text : String) : WellNested (Layout.code text :: layout) :=
  h.line _

/-- Lines of code alone open and close nothing. -/
theorem wellNested_map_code {α : Type} (text : α → String) (items : List α) : WellNested (items.map fun item => Layout.code (text item)) := by
  induction items with
  | nil => exact wellNested_nil
  | cons item rest ih => exact ih.code (text item)

theorem WellNested.flatMap {α : Type} {items : List α} {layout : α → List Layout} (h : ∀ item ∈ items, WellNested (layout item)) :
    WellNested (items.flatMap layout) := by
  induction items with
  | nil => exact wellNested_nil
  | cons item rest ih =>
    rw [List.forall_mem_cons] at h
    rw [List.flatMap_cons]
    exact h.1.append (ih h.2)

/-- What stands one level deeper opens a scope around it, and closes that. -/
theorem WellNested.indented {inside : List Layout} (h : WellNested inside) : WellNested (.indent :: (inside ++ [.dedent])) := by
  intro scopes
  have hinside : scopesAfterAll? (.indentation :: scopes) (inside ++ [.dedent]) = some scopes :=
    scopesAfterAll?_append_eq_some.2 ⟨.indentation :: scopes, h _, rfl⟩
  exact scopesAfterAll?_cons_eq_some.2 ⟨.indentation :: scopes, rfl, hinside⟩

theorem WellNested.braced {inside : List Layout} (h : WellNested inside) (header : Line) (ending : String) :
    WellNested (Layout.braced header inside ending) := by
  intro scopes
  have hinside : scopesAfterAll? (.braces :: scopes) (inside ++ [.closeBrace ending]) = some scopes :=
    scopesAfterAll?_append_eq_some.2 ⟨.braces :: scopes, h _, rfl⟩
  exact scopesAfterAll?_cons_eq_some.2 ⟨.braces :: scopes, rfl, hinside⟩

theorem WellNested.bracketed {inside : List Layout} (h : WellNested inside) (first : Line) (last : String) :
    WellNested (Layout.bracketed first inside last) := by
  have hlayout : Layout.bracketed first inside last = .line first :: ((.indent :: (inside ++ [.dedent])) ++ [Layout.code last]) := by
    simp [Layout.bracketed]
  rw [hlayout]
  exact (h.indented.append (wellNested_nil.code last)).line first

end Layout

end NavGen
