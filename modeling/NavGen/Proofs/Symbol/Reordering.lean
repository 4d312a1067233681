import NavGen.Proofs.Symbol.Agreement

/-!
# Tables that differ in order

The declarations of a table come in the order in which a compiler lists them. If each has a name of its own, then all that is asked of a table
has the same answer whatever the order: the declaration of a name, the class of a type and the supertypes of a declaration are the same, and the
declarations that carry an annotation are the same up to their order.
-/

namespace NavGen.SymbolTable

/-- Whether two tables hold the same declarations, in whatever order, and no two of them have the same name. -/
structure Reorders (table table' : SymbolTable) : Prop where
  declarations : table.declarations.Perm table'.declarations
  names : (table.declarations.map (·.qualified)).Nodup

theorem annotatedWith_symbols (table : SymbolTable) (marker : String) :
    table.symbols.annotatedWith marker = table.annotatedWith marker := by
  simp [Symbols.annotatedWith, symbols]

namespace Reorders

variable {table table' : SymbolTable}

theorem symm (h : table.Reorders table') : table'.Reorders table :=
  ⟨h.declarations.symm, (h.declarations.map _).nodup h.names⟩

/-- A name stands for the same declaration in both tables. -/
theorem find?_eq (h : table.Reorders table') (qualified : String) : table.find? qualified = table'.find? qualified :=
  find?_key_eq_of_perm h.declarations h.names qualified

/-- The tables agree on all names. -/
theorem agreeOn (h : table.Reorders table') : table.AgreeOn Set.univ table' :=
  ⟨fun qualified _ => h.find?_eq qualified, fun _ _ _ _ _ _ => trivial⟩

/-- A type stands for the same class in both tables. -/
theorem classOf?_eq (h : table.Reorders table') (type : TypeExpr) : table.classOf? type = table'.classOf? type :=
  h.agreeOn.classOf?_eq trivial

/-- A declaration has the same supertypes in both tables. -/
theorem supertypesOf_eq (h : table.Reorders table') (declaration : Declaration) :
    table.supertypesOf declaration = table'.supertypesOf declaration :=
  h.agreeOn.supertypesOf_eq fun _ _ => trivial

/-- The same declarations carry an annotation in both tables. -/
theorem perm_annotatedWith (h : table.Reorders table') (marker : String) :
    (table.symbols.annotatedWith marker).Perm (table'.symbols.annotatedWith marker) := by
  rw [annotatedWith_symbols, annotatedWith_symbols]
  exact h.declarations.filter _

end Reorders

end NavGen.SymbolTable
