import NavGen.Proofs.Symbol.Agreement

/-!
# The recorded part of a table

A build that goes on from its last result knows some sources by their ids, and of a table the declarations that these sources hold, along with those
that have no source. Whether that part answers a question as the whole table does depends on what the answer comes from: an alias, a class and a
supertype are the same in both as long as every declaration that is found on the way to them is in the part.
-/

namespace NavGen

/-- Whether the source of a declaration, if it has one, is among some ids. -/
def Declaration.RecordedIn (ids : List String) (declaration : Declaration) : Prop :=
  ∀ id ∈ declaration.sourceIds, id ∈ ids

instance (ids : List String) (declaration : Declaration) : Decidable (declaration.RecordedIn ids) :=
  inferInstanceAs (Decidable (∀ id ∈ declaration.sourceIds, id ∈ ids))

namespace SymbolTable

/-- The declarations of a table that come from recorded sources, or from none. -/
def recorded (table : SymbolTable) (ids : List String) : SymbolTable :=
  { declarations := table.declarations.filter fun declaration => decide (declaration.RecordedIn ids) }

/-- The alias of a name, if it is that of one. -/
def alias? (table : SymbolTable) (qualified : String) : Option Declaration :=
  (table.find? qualified).filter (·.kind = .typeAlias)

/-- The aliases that a name leads through. -/
def aliasesFrom (table : SymbolTable) : (steps : Nat) → String → List Declaration
  | 0, _ => []
  | steps + 1, qualified =>
    match table.alias? qualified with
    | none => []
    | some declaration =>
      match declaration.aliased? with
      | none => [declaration]
      | some target => declaration :: table.aliasesFrom steps target.qualified

/-- The name that is left when aliases are followed. -/
def endOfAliases (table : SymbolTable) : (steps : Nat) → String → String
  | 0, qualified => qualified
  | steps + 1, qualified =>
    match (table.alias? qualified).bind (·.aliased?) with
    | none => qualified
    | some target => table.endOfAliases steps target.qualified

variable {table : SymbolTable} {ids : List String} {qualified : String} {declaration : Declaration}

theorem mem_recorded : declaration ∈ (table.recorded ids).declarations ↔ declaration ∈ table.declarations ∧ declaration.RecordedIn ids := by
  rw [recorded, List.mem_filter, decide_eq_true_iff]

theorem alias?_eq_some_iff :
    table.alias? qualified = some declaration ↔ table.find? qualified = some declaration ∧ declaration.kind = .typeAlias := by
  rw [alias?, Option.filter_eq_some_iff, decide_eq_true_iff]

section

variable (hnames : (table.declarations.map (·.qualified)).Nodup)

include hnames

/-- A name stands for a declaration in the recorded part if it does in the table and the declaration is recorded. -/
theorem find?_recorded_eq_some_iff :
    (table.recorded ids).find? qualified = some declaration ↔ table.find? qualified = some declaration ∧ declaration.RecordedIn ids := by
  have hrecorded : ((table.recorded ids).declarations.map (·.qualified)).Nodup := hnames.sublist (List.filter_sublist.map _)
  rw [find?, find?, find?_key_eq_some hrecorded, find?_key_eq_some hnames, mem_recorded, and_right_comm]

/-- What is found and recorded is found in the recorded part, and what is not found there is not found. -/
theorem find?_recorded_eq (h : ∀ found, table.find? qualified = some found → found.RecordedIn ids) :
    (table.recorded ids).find? qualified = table.find? qualified := by
  refine Option.ext fun found => ?_
  rw [find?_recorded_eq_some_iff hnames]
  exact and_iff_left_of_imp (h found)

theorem alias?_recorded_eq (h : ∀ found, table.alias? qualified = some found → found.RecordedIn ids) :
    (table.recorded ids).alias? qualified = table.alias? qualified := by
  refine Option.ext fun found => ?_
  rw [alias?_eq_some_iff, alias?_eq_some_iff, find?_recorded_eq_some_iff hnames, and_right_comm]
  exact and_iff_left_of_imp fun hfound => h found (alias?_eq_some_iff.2 hfound)

/-! ## Following aliases -/

/-- Aliases that are recorded lead to the same name. -/
theorem endOfAliases_recorded {steps : Nat} (h : ∀ found ∈ table.aliasesFrom steps qualified, found.RecordedIn ids) :
    (table.recorded ids).endOfAliases steps qualified = table.endOfAliases steps qualified := by
  induction steps generalizing qualified with
  | zero => rfl
  | succ steps ih =>
    rw [aliasesFrom] at h
    have halias : (table.recorded ids).alias? qualified = table.alias? qualified := by
      refine alias?_recorded_eq hnames fun found hfound => h found ?_
      rw [hfound]
      dsimp only
      split
      · exact List.mem_cons_self
      · exact List.mem_cons_self
    rw [endOfAliases, endOfAliases, halias]
    cases hfound : table.alias? qualified with
    | none => rfl
    | some found =>
      rw [Option.bind_some]
      cases htarget : found.aliased? with
      | none => rfl
      | some target =>
        rw [hfound] at h
        dsimp only at h
        rw [htarget] at h
        exact ih (List.forall_mem_cons.1 h).2

/-- A class that is reached over recorded aliases and is recorded itself is reached in the recorded part. -/
theorem followAliases_recorded {steps : Nat} {first last : Declaration} (hfirst : table.find? qualified = some first)
    (hlast : table.followAliases steps first = some last) (haliases : ∀ found ∈ table.aliasesFrom steps qualified, found.RecordedIn ids)
    (hrecorded : last.RecordedIn ids) :
    (table.recorded ids).find? qualified = some first ∧ (table.recorded ids).followAliases steps first = some last := by
  induction steps generalizing qualified first with
  | zero => contradiction
  | succ steps ih =>
    rw [followAliases] at hlast
    split at hlast
    · rename_i hkind
      split at hlast
      · contradiction
      · rename_i target htarget
        split at hlast
        · contradiction
        · rename_i next hnext
          rw [aliasesFrom, alias?_eq_some_iff.2 ⟨hfirst, hkind⟩] at haliases
          dsimp only at haliases
          rw [htarget] at haliases
          obtain ⟨halias, hrest⟩ := List.forall_mem_cons.1 haliases
          obtain ⟨hfound, hfollow⟩ := ih hnext hlast hrest
          refine ⟨(find?_recorded_eq_some_iff hnames).2 ⟨hfirst, halias⟩, ?_⟩
          rw [followAliases, if_pos hkind, htarget]
          dsimp only
          rw [hfound]
          exact hfollow
    · rename_i hkind
      cases hlast
      refine ⟨(find?_recorded_eq_some_iff hnames).2 ⟨hfirst, hrecorded⟩, ?_⟩
      rw [followAliases, if_neg hkind]

theorem classOf?_recorded {type : TypeExpr} (hclass : table.classOf? type = some declaration)
    (haliases : ∀ found ∈ table.aliasesFrom maxAliases type.qualified, found.RecordedIn ids) (hrecorded : declaration.RecordedIn ids) :
    (table.recorded ids).classOf? type = some declaration := by
  obtain ⟨first, hfirst, hfollow⟩ := Option.bind_eq_some_iff.1 hclass
  obtain ⟨hfound, hsame⟩ := followAliases_recorded hnames hfirst hfollow haliases hrecorded
  rw [classOf?, hfound, Option.bind_some, hsame]

/-! ## Supertypes -/

/-- If all supertypes of a declaration that are declared are recorded, then the recorded part gives the same supertypes. -/
theorem supertypesOf_recorded
    (h : ∀ type ∈ table.supertypesOf declaration, ∀ found, table.find? type.qualified = some found → found.RecordedIn ids) :
    (table.recorded ids).supertypesOf declaration = table.supertypesOf declaration :=
  (supertypesFrom_eq _ _ fun type htype => (find?_recorded_eq hnames (h type htype)).symm).symm

end

/-! ## Names of classes -/

/-- The class of a type goes by the name that is left when aliases are followed. -/
theorem endOfAliases_of_followAliases {steps : Nat} {first last : Declaration} (hfirst : table.find? qualified = some first)
    (hlast : table.followAliases steps first = some last) : table.endOfAliases steps qualified = last.qualified := by
  induction steps generalizing qualified first with
  | zero => contradiction
  | succ steps ih =>
    rw [followAliases] at hlast
    rw [endOfAliases]
    split at hlast
    · rename_i hkind
      split at hlast
      · contradiction
      · rename_i target htarget
        split at hlast
        · contradiction
        · rename_i next hnext
          rw [alias?_eq_some_iff.2 ⟨hfirst, hkind⟩, Option.bind_some, htarget]
          exact ih hnext hlast
    · rename_i hkind
      have halias : table.alias? qualified = none := by
        rw [alias?, hfirst, Option.filter_some_neg (by simpa using hkind)]
      cases hlast
      rw [halias]
      exact (mem_of_find?_key hfirst).2.symm

theorem endOfAliases_of_classOf? {type : TypeExpr} (hclass : table.classOf? type = some declaration) :
    table.endOfAliases maxAliases type.qualified = declaration.qualified := by
  obtain ⟨first, hfirst, hfollow⟩ := Option.bind_eq_some_iff.1 hclass
  exact endOfAliases_of_followAliases hfirst hfollow

/-- A name that is that of no alias is left as it is. -/
theorem endOfAliases_of_kind_ne (h : ∀ found, table.find? qualified = some found → found.kind ≠ .typeAlias) (steps : Nat) :
    table.endOfAliases steps qualified = qualified := by
  have halias : table.alias? qualified = none := by
    refine Option.eq_none_iff_forall_ne_some.2 fun found hfound => ?_
    obtain ⟨hfind, hkind⟩ := alias?_eq_some_iff.1 hfound
    exact h found hfind hkind
  cases steps with
  | zero => rfl
  | succ steps => rw [endOfAliases, halias, Option.bind_none]

end SymbolTable

end NavGen
