import Mathlib.Data.Set.Defs
import NavGen.Proofs.Keys
import NavGen.Proofs.Symbol.TypeNames

/-!
# Tables that agree on names

Two tables may differ in what they declare and still answer alike, as long as the names that they are asked for stand for the same in both. Following an
alias and searching for supertypes ask for further names, those that the declarations on the way are written with. So the tables have to agree on a set
of names that is closed: what its names stand for is written with names of the set alone.
-/

namespace NavGen

/-- Whether all names that a type is written with are in a set. -/
def TypeExpr.Within (names : Set String) (type : TypeExpr) : Prop :=
  ∀ name ∈ type.names, name ∈ names

/-- Whether all names of types that a declaration is written with are in a set. -/
def Declaration.Within (names : Set String) (declaration : Declaration) : Prop :=
  ∀ name ∈ declaration.typeNames, name ∈ names

namespace TypeExpr.Within

variable {names : Set String} {type : TypeExpr}

theorem qualified (h : type.Within names) : type.qualified ∈ names :=
  h _ type.qualified_mem_names

theorem head? (h : type.Within names) {argument : TypeExpr} (hhead : type.arguments.head? = some argument) : argument.Within names :=
  fun _ hname => h _ (names_subset_of_mem_arguments (List.mem_of_mem_head? hhead) hname)

end TypeExpr.Within

namespace Declaration.Within

variable {names : Set String} {declaration : Declaration}

theorem parameters (h : declaration.Within names) : ∀ parameter ∈ declaration.parameters, parameter.type.Within names :=
  fun _ hmem _ hname => h _ (names_subset_of_mem_parameters hmem hname)

theorem supertypes (h : declaration.Within names) : ∀ type ∈ declaration.supertypes, type.Within names :=
  fun _ hmem _ hname => h _ (names_subset_of_mem_supertypes hmem hname)

theorem aliased? (h : declaration.Within names) {type : TypeExpr} (halias : declaration.aliased? = some type) : type.Within names :=
  fun _ hname => h _ (names_subset_of_aliased? halias hname)

end Declaration.Within

namespace SymbolTable

/-! ## The search for supertypes -/

/-- A type that is met for the first time and has no pending declaration. -/
theorem supertypesFrom_of_find?_eq_none {seen : List String} {pending : List Declaration} {type : TypeExpr}
    (queue : List TypeExpr) (hseen : type.qualified ∉ seen) (hfind : pending.find? (·.qualified == type.qualified) = none) :
    supertypesFrom seen pending (type :: queue) = type :: supertypesFrom (type.qualified :: seen) pending queue := by
  rw [supertypesFrom, if_neg hseen]
  split
  · rfl
  · rename_i hsome
    rw [hfind] at hsome
    contradiction

/-- A type that is met for the first time and has a pending declaration, whose supertypes are queued. -/
theorem supertypesFrom_of_find?_eq_some {seen : List String} {pending : List Declaration} {type : TypeExpr}
    (queue : List TypeExpr) (hseen : type.qualified ∉ seen) {declaration : Declaration}
    (hfind : pending.find? (·.qualified == type.qualified) = some declaration) :
    supertypesFrom seen pending (type :: queue) =
      type :: supertypesFrom (type.qualified :: seen) (unnamed pending type.qualified) (queue ++ declaration.supertypes) := by
  rw [supertypesFrom, if_neg hseen]
  split
  · rename_i hnone
    rw [hfind] at hnone
    contradiction
  · rename_i hsome
    rw [hfind] at hsome
    cases hsome
    rfl

/-- Without the declarations of a name, all other names stand for what they stood for. -/
theorem find?_unnamed (declarations : List Declaration) (qualified name : String) :
    (unnamed declarations qualified).find? (·.qualified == name) =
      if name = qualified then none else declarations.find? (·.qualified == name) := by
  induction declarations with
  | nil => simp [unnamed]
  | cons first rest ih =>
    rw [unnamed, List.filter_cons]
    by_cases hfirst : first.qualified = qualified
    · rw [if_neg (by simpa using hfirst), ← unnamed, ih]
      split
      · rfl
      · rename_i hname
        rw [List.find?_cons_of_neg (by simpa [hfirst] using Ne.symm hname)]
    · rw [if_pos (by simpa using hfirst), List.find?_cons, List.find?_cons, ← unnamed, ih]
      by_cases hname : first.qualified = name
      · rw [beq_iff_eq.2 hname]
        exact (if_neg (hname ▸ hfirst)).symm
      · rw [beq_eq_false_iff_ne.2 hname]

/-- What holds of the types of a queue, and of the direct supertypes of what such a type stands for, holds of all supertypes behind the queue. -/
theorem forall_mem_supertypesFrom {p : TypeExpr → Prop} (seen : List String) (pending : List Declaration) (queue : List TypeExpr)
    (hqueue : ∀ type ∈ queue, p type)
    (hpending : ∀ type, p type → ∀ declaration, pending.find? (·.qualified == type.qualified) = some declaration →
      ∀ supertype ∈ declaration.supertypes, p supertype) :
    ∀ type ∈ supertypesFrom seen pending queue, p type := by
  induction seen, pending, queue using supertypesFrom.induct with
  | case1 seen pending =>
    rw [supertypesFrom]
    exact nofun
  | case2 seen pending type queue hseen ih =>
    rw [supertypesFrom, if_pos hseen]
    exact ih (List.forall_mem_cons.1 hqueue).2 hpending
  | case3 seen pending type queue hseen hfind ih =>
    obtain ⟨htype, hrest⟩ := List.forall_mem_cons.1 hqueue
    rw [supertypesFrom_of_find?_eq_none queue hseen hfind]
    exact List.forall_mem_cons.2 ⟨htype, ih hrest hpending⟩
  | case4 seen pending type queue hseen declaration hfind ih =>
    obtain ⟨htype, hrest⟩ := List.forall_mem_cons.1 hqueue
    rw [supertypesFrom_of_find?_eq_some queue hseen hfind]
    refine List.forall_mem_cons.2 ⟨htype, ih ?_ fun other hother found hfound => ?_⟩
    · exact List.forall_mem_append.2 ⟨hrest, hpending type htype declaration hfind⟩
    · rw [find?_unnamed] at hfound
      split at hfound
      · contradiction
      · exact hpending other hother found hfound

/-- Two searches find the same supertypes if each name that the first one meets stands for the same in both. -/
theorem supertypesFrom_eq (seen : List String) {pending pending' : List Declaration} (queue : List TypeExpr)
    (h : ∀ type ∈ supertypesFrom seen pending queue,
      pending.find? (·.qualified == type.qualified) = pending'.find? (·.qualified == type.qualified)) :
    supertypesFrom seen pending queue = supertypesFrom seen pending' queue := by
  induction seen, pending, queue using supertypesFrom.induct generalizing pending' with
  | case1 seen pending => rw [supertypesFrom, supertypesFrom]
  | case2 seen pending type queue hseen ih =>
    rw [supertypesFrom, if_pos hseen] at h
    rw [supertypesFrom, supertypesFrom, if_pos hseen, if_pos hseen]
    exact ih h
  | case3 seen pending type queue hseen hfind ih =>
    rw [supertypesFrom_of_find?_eq_none queue hseen hfind] at h
    obtain ⟨htype, hrest⟩ := List.forall_mem_cons.1 h
    rw [supertypesFrom_of_find?_eq_none queue hseen hfind, supertypesFrom_of_find?_eq_none queue hseen (htype ▸ hfind), ih hrest]
  | case4 seen pending type queue hseen declaration hfind ih =>
    rw [supertypesFrom_of_find?_eq_some queue hseen hfind] at h
    obtain ⟨htype, hrest⟩ := List.forall_mem_cons.1 h
    rw [supertypesFrom_of_find?_eq_some queue hseen hfind, supertypesFrom_of_find?_eq_some queue hseen (htype ▸ hfind)]
    refine congrArg _ (ih fun other hother => ?_)
    rw [find?_unnamed, find?_unnamed, hrest other hother]

/-! ## Agreement -/

/-- Whether each name of a set stands for the same in two tables, and is declared with names of the set alone. -/
structure AgreeOn (names : Set String) (table table' : SymbolTable) : Prop where
  find?_eq : ∀ qualified ∈ names, table.find? qualified = table'.find? qualified
  closed : ∀ qualified ∈ names, ∀ declaration, table.find? qualified = some declaration → declaration.Within names

namespace AgreeOn

variable {names : Set String} {table table' : SymbolTable} {declaration : Declaration}

theorem followAliases_eq (h : table.AgreeOn names table') (hdeclaration : declaration.Within names) (steps : Nat) :
    table.followAliases steps declaration = table'.followAliases steps declaration := by
  induction steps generalizing declaration with
  | zero => rfl
  | succ steps ih =>
    rw [followAliases, followAliases]
    cases halias : declaration.aliased? with
    | none => rfl
    | some target =>
      have htarget := (hdeclaration.aliased? halias).qualified
      dsimp only
      rw [← h.find?_eq _ htarget]
      cases hnext : table.find? target.qualified with
      | none => rfl
      | some next =>
        dsimp only
        rw [ih (h.closed _ htarget next hnext)]

/-- A type stands for the same class in both tables. -/
theorem classOf?_eq (h : table.AgreeOn names table') {type : TypeExpr} (htype : type.qualified ∈ names) :
    table.classOf? type = table'.classOf? type := by
  rw [classOf?, classOf?, ← h.find?_eq _ htype]
  exact Option.bind_congr fun first hfirst => h.followAliases_eq (h.closed _ htype first hfirst) maxAliases

/-- Aliases do not lead out of the names. -/
theorem within_of_followAliases (h : table.AgreeOn names table') (hdeclaration : declaration.Within names) {steps : Nat}
    {last : Declaration} (hlast : table.followAliases steps declaration = some last) : last.Within names := by
  induction steps generalizing declaration with
  | zero => contradiction
  | succ steps ih =>
    rw [followAliases] at hlast
    split at hlast
    · split at hlast
      · contradiction
      · rename_i target halias
        split at hlast
        · contradiction
        · rename_i next hnext
          exact ih (h.closed _ (hdeclaration.aliased? halias).qualified next hnext) hlast
    · cases hlast
      exact hdeclaration

/-- The class of a type is declared with names of the set. -/
theorem within_of_classOf? (h : table.AgreeOn names table') {type : TypeExpr} (htype : type.qualified ∈ names)
    (hclass : table.classOf? type = some declaration) : declaration.Within names := by
  obtain ⟨first, hfirst, hfollow⟩ := Option.bind_eq_some_iff.1 hclass
  exact h.within_of_followAliases (h.closed _ htype first hfirst) hfollow

/-- Supertypes do not lead out of the names. -/
theorem within_of_mem_supertypesOf (h : table.AgreeOn names table') (hdeclaration : declaration.Within names) :
    ∀ type ∈ table.supertypesOf declaration, type.Within names :=
  forall_mem_supertypesFrom _ _ _ hdeclaration.supertypes fun _ htype found hfound => (h.closed _ htype.qualified found hfound).supertypes

/-- A declaration has the same supertypes in both tables. -/
theorem supertypesOf_eq (h : table.AgreeOn names table') (hdeclaration : declaration.Within names) :
    table.supertypesOf declaration = table'.supertypesOf declaration :=
  supertypesFrom_eq _ _ fun type htype => h.find?_eq _ (h.within_of_mem_supertypesOf hdeclaration type htype).qualified

end AgreeOn

end SymbolTable

end NavGen
