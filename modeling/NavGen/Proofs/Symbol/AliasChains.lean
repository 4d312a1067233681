import NavGen.Proofs.Keys
import NavGen.Symbol.Table

/-!
# How far aliases are followed

An alias may stand for another alias, and so on along a chain. The search for the class of a type looks at each declaration of the chain once, and the
last one it looks at has to be no alias. With `maxAliases` looks it therefore gets to the end of a chain exactly if the chain has fewer aliases than
that. As a limit on the number of aliases, `maxAliases` is kept by every chain that is shorter or longer, and by every chain that has no end; a chain
of exactly that many aliases is not followed to the class at its end.
-/

namespace NavGen.SymbolTable

/-- Whether a declaration is an alias that stands for another declaration. -/
def AliasStep (table : SymbolTable) (declaration next : Declaration) : Prop :=
  declaration.kind = .typeAlias ∧ ∃ target, declaration.aliased? = some target ∧ table.find? target.qualified = some next

/-- Whether a number of aliases leads from one declaration to another. -/
inductive AliasChain (table : SymbolTable) : (aliases : Nat) → Declaration → Declaration → Prop where
  | here (declaration : Declaration) : AliasChain table 0 declaration declaration
  | through {aliases : Nat} {first next last : Declaration} (step : table.AliasStep first next)
      (rest : AliasChain table aliases next last) : AliasChain table (aliases + 1) first last

/-- Whether a number of aliases leads from a type to a declaration. -/
def LeadsTo (table : SymbolTable) (type : TypeExpr) (aliases : Nat) (last : Declaration) : Prop :=
  ∃ first, table.find? type.qualified = some first ∧ table.AliasChain aliases first last

/-- Whether the aliases of a type come back to one of them. -/
def RunsInCircles (table : SymbolTable) (type : TypeExpr) : Prop :=
  ∃ aliases again, table.LeadsTo type aliases again ∧ ∃ round, table.AliasChain (round + 1) again again

/-- Whether a type, or the last of its aliases, stands for no declaration. -/
def BreaksOff (table : SymbolTable) (type : TypeExpr) : Prop :=
  table.find? type.qualified = none ∨
    ∃ aliases last, table.LeadsTo type aliases last ∧ last.kind = .typeAlias ∧
      ∀ target, last.aliased? = some target → table.find? target.qualified = none

variable {table : SymbolTable} {type : TypeExpr} {first last : Declaration}

/-! ## Chains of aliases -/

/-- An alias stands for one declaration. -/
theorem AliasStep.unique {next next' : Declaration} (h : table.AliasStep first next) (h' : table.AliasStep first next') : next = next' := by
  obtain ⟨-, target, htarget, hnext⟩ := h
  obtain ⟨-, target', htarget', hnext'⟩ := h'
  rw [htarget, Option.some.injEq] at htarget'
  subst htarget'
  rw [hnext, Option.some.injEq] at hnext'
  exact hnext'

namespace AliasChain

/-- No alias leads on from a declaration that is none. -/
theorem eq_of_kind_ne {aliases : Nat} (h : table.AliasChain aliases first last) (hfirst : first.kind ≠ .typeAlias) :
    aliases = 0 ∧ last = first := by
  cases h with
  | here => exact ⟨rfl, rfl⟩
  | through step _ => exact absurd step.1 hfirst

/-- All chains from a declaration are parts of the one that ends with no alias. -/
theorem rest {aliases passed : Nat} {between : Declaration} (h : table.AliasChain passed first between)
    (hlast : last.kind ≠ .typeAlias) (hchain : table.AliasChain aliases first last) :
    ∃ left, aliases = passed + left ∧ table.AliasChain left between last := by
  induction h generalizing aliases with
  | here => exact ⟨aliases, (Nat.zero_add aliases).symm, hchain⟩
  | through step _ ih =>
    cases hchain with
    | here => exact absurd step.1 hlast
    | through step' hrest =>
      obtain ⟨left, rfl, hleft⟩ := ih (step.unique step' ▸ hrest)
      exact ⟨left, by omega, hleft⟩

/-- A chain that comes back to a declaration never ends from there. -/
theorem kind_of_round {aliases round : Nat} (h : table.AliasChain aliases first last)
    (hround : table.AliasChain (round + 1) first first) : last.kind = .typeAlias := by
  by_contra hlast
  induction aliases using Nat.strongRecOn with
  | ind aliases ih =>
    obtain ⟨left, rfl, hleft⟩ := hround.rest hlast h
    exact ih left (by omega) hleft

end AliasChain

/-! ## The search -/

/-- The search finds what fewer aliases than it has steps lead to, if that is no alias. -/
theorem followAliases_eq_some_iff {steps : Nat} :
    table.followAliases steps first = some last ↔ ∃ aliases < steps, table.AliasChain aliases first last ∧ last.kind ≠ .typeAlias := by
  induction steps generalizing first with
  | zero => simp [followAliases]
  | succ steps ih =>
    rw [followAliases]
    by_cases hkind : first.kind = .typeAlias
    · rw [if_pos hkind]
      constructor
      · intro h
        split at h
        · contradiction
        · rename_i target htarget
          split at h
          · contradiction
          · rename_i next hnext
            obtain ⟨aliases, hlt, hchain, hlast⟩ := ih.1 h
            exact ⟨aliases + 1, by omega, .through ⟨hkind, target, htarget, hnext⟩ hchain, hlast⟩
      · rintro ⟨aliases, hlt, hchain, hlast⟩
        cases hchain with
        | here => exact absurd hkind hlast
        | @through left _ next _ step hrest =>
          obtain ⟨-, target, htarget, hnext⟩ := step
          rw [htarget]
          dsimp only
          rw [hnext]
          exact ih.2 ⟨left, by omega, hrest, hlast⟩
    · rw [if_neg hkind, Option.some.injEq]
      constructor
      · rintro rfl
        exact ⟨0, Nat.succ_pos steps, .here first, hkind⟩
      · rintro ⟨aliases, -, hchain, -⟩
        exact (hchain.eq_of_kind_ne hkind).2.symm

/-- The class of a type is what fewer than `maxAliases` aliases lead to, if that is no alias. -/
theorem classOf?_eq_some_iff :
    table.classOf? type = some last ↔ ∃ aliases < maxAliases, table.LeadsTo type aliases last ∧ last.kind ≠ .typeAlias := by
  simp only [classOf?, Option.bind_eq_some_iff, followAliases_eq_some_iff, LeadsTo]
  constructor
  · rintro ⟨first, hfirst, aliases, hlt, hchain, hlast⟩
    exact ⟨aliases, hlt, ⟨first, hfirst, hchain⟩, hlast⟩
  · rintro ⟨aliases, hlt, ⟨first, hfirst, hchain⟩, hlast⟩
    exact ⟨first, hfirst, aliases, hlt, hchain, hlast⟩

/-- A type leads to one declaration that is no alias, through one number of aliases. -/
theorem LeadsTo.unique {aliases aliases' : Nat} {last' : Declaration} (h : table.LeadsTo type aliases last) (hlast : last.kind ≠ .typeAlias)
    (h' : table.LeadsTo type aliases' last') (hlast' : last'.kind ≠ .typeAlias) : aliases' = aliases ∧ last' = last := by
  obtain ⟨first, hfirst, hchain⟩ := h
  obtain ⟨first', hfirst', hchain'⟩ := h'
  obtain rfl : first = first' := Option.some.inj (hfirst.symm.trans hfirst')
  obtain ⟨left, rfl, hleft⟩ := hchain.rest hlast' hchain'
  obtain ⟨rfl, rfl⟩ := hleft.eq_of_kind_ne hlast
  exact ⟨rfl, rfl⟩

/-- Of a chain that is too long there is no class. -/
theorem classOf?_eq_none_of_leadsTo {aliases : Nat} (h : table.LeadsTo type aliases last) (hlast : last.kind ≠ .typeAlias)
    (hlong : maxAliases ≤ aliases) : table.classOf? type = none := by
  refine Option.eq_none_iff_forall_ne_some.2 fun found hfound => ?_
  obtain ⟨aliases', hlt, h', hfoundKind⟩ := classOf?_eq_some_iff.1 hfound
  obtain ⟨rfl, -⟩ := h.unique hlast h' hfoundKind
  omega

/-- Of a chain that runs in circles there is no class. -/
theorem classOf?_eq_none_of_runsInCircles (h : table.RunsInCircles type) : table.classOf? type = none := by
  obtain ⟨passed, again, ⟨first, hfirst, hagain⟩, round, hround⟩ := h
  refine Option.eq_none_iff_forall_ne_some.2 fun found hfound => ?_
  obtain ⟨aliases, -, ⟨first', hfirst', hchain⟩, hfoundKind⟩ := classOf?_eq_some_iff.1 hfound
  obtain rfl : first = first' := Option.some.inj (hfirst.symm.trans hfirst')
  obtain ⟨left, -, hleft⟩ := hagain.rest hfoundKind hchain
  exact hfoundKind (hleft.kind_of_round hround)

/-- Of a chain that breaks off there is no class. -/
theorem classOf?_eq_none_of_breaksOff (h : table.BreaksOff type) : table.classOf? type = none := by
  refine Option.eq_none_iff_forall_ne_some.2 fun found hfound => ?_
  obtain ⟨aliases, -, ⟨first, hfirst, hchain⟩, hfoundKind⟩ := classOf?_eq_some_iff.1 hfound
  rcases h with hnone | ⟨passed, between, ⟨first', hfirst', hpassed⟩, hkind, hbroken⟩
  · rw [hnone] at hfirst
    contradiction
  · obtain rfl : first = first' := Option.some.inj (hfirst.symm.trans hfirst')
    obtain ⟨left, -, hleft⟩ := hpassed.rest hfoundKind hchain
    cases hleft with
    | here => exact hfoundKind hkind
    | through step _ =>
      obtain ⟨-, target, htarget, hnext⟩ := step
      rw [hbroken target htarget] at hnext
      contradiction

/-! ## The limit -/

/-- Whether a limit of `maxAliases` aliases is kept for a type: chains of at most that many aliases are followed to their end, and there is no class
of a longer chain, of one that runs in circles and of one that breaks off. -/
structure KeepsAliasLimit (table : SymbolTable) (type : TypeExpr) : Prop where
  followed : ∀ aliases ≤ maxAliases, ∀ last, table.LeadsTo type aliases last → last.kind ≠ .typeAlias → table.classOf? type = some last
  tooLong : ∀ aliases > maxAliases, ∀ last, table.LeadsTo type aliases last → last.kind ≠ .typeAlias → table.classOf? type = none
  circular : table.RunsInCircles type → table.classOf? type = none
  broken : table.BreaksOff type → table.classOf? type = none

/-- A chain of exactly `maxAliases` aliases, which is not too long, is not followed to its end. -/
theorem not_keepsAliasLimit (h : table.LeadsTo type maxAliases last) (hlast : last.kind ≠ .typeAlias) : ¬table.KeepsAliasLimit type := by
  intro hlimit
  have hfound := hlimit.followed maxAliases (Nat.le_refl _) last h hlast
  rw [classOf?_eq_none_of_leadsTo h hlast (Nat.le_refl _)] at hfound
  contradiction

/-- The limit is kept for all types but those that lead to their class through exactly `maxAliases` aliases. -/
theorem keepsAliasLimit_iff (table : SymbolTable) (type : TypeExpr) :
    table.KeepsAliasLimit type ↔ ¬∃ last, table.LeadsTo type maxAliases last ∧ last.kind ≠ .typeAlias := by
  constructor
  · rintro h ⟨last, hleads, hlast⟩
    exact not_keepsAliasLimit hleads hlast h
  · intro h
    refine ⟨fun aliases hle last hleads hlast => ?_, fun aliases hlong last hleads hlast => ?_, classOf?_eq_none_of_runsInCircles,
      classOf?_eq_none_of_breaksOff⟩
    · have hne : aliases ≠ maxAliases := by
        rintro rfl
        exact h ⟨last, hleads, hlast⟩
      exact classOf?_eq_some_iff.2 ⟨aliases, by omega, hleads, hlast⟩
    · exact classOf?_eq_none_of_leadsTo hleads hlast (Nat.le_of_lt hlong)

/-- A declaration of a ladder of aliases: the last one is a class, each before it stands for the next. -/
def tint (step : Nat) : Declaration :=
  if step < maxAliases then
    { qualified := "app.Tint" ++ toString step, kind := .typeAlias, aliased? := some (.plain ("app.Tint" ++ toString (step + 1))) }
  else { qualified := "app.Tint" ++ toString step, kind := .plainClass }

/-- A ladder of `maxAliases` aliases. -/
def tintTable : SymbolTable :=
  { declarations := (List.range (maxAliases + 1)).map tint }

/-- From each declaration of the ladder the aliases that are left lead to the class. -/
theorem aliasChain_tint {left : Nat} (h : left ≤ maxAliases) : tintTable.AliasChain left (tint (maxAliases - left)) (tint maxAliases) := by
  have hnames : (tintTable.declarations.map (·.qualified)).Nodup := by decide +kernel
  induction left with
  | zero => exact .here _
  | succ left ih =>
    have hlt : maxAliases - (left + 1) < maxAliases := by omega
    have hnext : maxAliases - (left + 1) + 1 = maxAliases - left := by omega
    refine .through ⟨by rw [tint, if_pos hlt], .plain ("app.Tint" ++ toString (maxAliases - left)), ?_, ?_⟩ (ih (by omega))
    · rw [tint, if_pos hlt, hnext]
    · refine (find?_key_eq_some hnames).2 ⟨List.mem_map_of_mem (List.mem_range.2 (by omega)), ?_⟩
      unfold tint
      split <;> rfl

/-- That the limit is kept for all types is false: of sixteen aliases that lead to a class there is no class. -/
theorem keepsAliasLimit_false : ¬∀ (table : SymbolTable) (type : TypeExpr), table.KeepsAliasLimit type := by
  intro h
  have hleads : tintTable.LeadsTo (.plain "app.Tint0") maxAliases (tint maxAliases) :=
    ⟨tint 0, rfl, aliasChain_tint (Nat.le_refl maxAliases)⟩
  exact not_keepsAliasLimit hleads (by decide) (h tintTable (.plain "app.Tint0"))

end NavGen.SymbolTable
