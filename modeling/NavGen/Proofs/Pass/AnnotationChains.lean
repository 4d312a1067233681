import Mathlib.Data.List.Perm.Subperm
import NavGen.Pass.AnnotationPath
import NavGen.Proofs.Enumeration
import NavGen.Proofs.Model.ChildrenFirst
import NavGen.Proofs.Symbol.Reordering

/-!
# Chains of annotation classes

An annotation class that carries a marker can mark targets in its place, and so can a class that carries such a class. The walk from a marker to its
targets follows these chains. The main statement says that it is exact: it stops if and only if some chain comes back to a name that is on it, and
else its paths correspond one to one to the annotations that end a chain on a target.
-/

namespace NavGen

namespace SymbolTable

/-- A chain of annotation classes from a marker outward. The first carries an annotation of the marker, each other one of the class before it.
`positions` are their places in the table, so declarations that are repeated count each; `names` are what they are called, and `written` is
what they carry, the first annotation where there are several. -/
inductive AnnotationChain (table : SymbolTable) :
    (marker : String) → (positions : List Nat) → (names : List String) → (written : List AnnotationExpr) → Prop where
  | nil (marker : String) : AnnotationChain table marker [] [] []
  | cons {marker : String} {position : Nat} {positions : List Nat} {declaration : Declaration} {names : List String}
      {first : AnnotationExpr} {written : List AnnotationExpr} (found : table.declarations[position]? = some declaration)
      (kind : declaration.kind = .annotationClass) (carried : declaration.annotationOf? marker = some first)
      (further : AnnotationChain table declaration.qualified positions names written) :
      AnnotationChain table marker (position :: positions) (declaration.qualified :: names) (first :: written)

/-- Whether a chain of annotation classes from a marker comes back to a name that is on it. -/
def HasAnnotationCycle (table : SymbolTable) (marker : String) : Prop :=
  ∃ positions names written, table.AnnotationChain marker positions names written ∧ ¬(marker :: names).Nodup

namespace AnnotationChain

variable {table : SymbolTable} {marker : String} {positions : List Nat} {names : List String} {written : List AnnotationExpr}

/-- There is an annotation for each class of a chain. -/
theorem length_written (h : table.AnnotationChain marker positions names written) : written.length = positions.length := by
  induction h with
  | nil => rfl
  | cons _ _ _ _ ih => rw [List.length_cons, List.length_cons, ih]

theorem length_names (h : table.AnnotationChain marker positions names written) : names.length = positions.length := by
  induction h with
  | nil => rfl
  | cons _ _ _ _ ih => rw [List.length_cons, List.length_cons, ih]

theorem mem_annotationClassNames (h : table.AnnotationChain marker positions names written) :
    ∀ name ∈ names, name ∈ table.symbols.annotationClassNames := by
  induction h with
  | nil => simp
  | cons found kind _ _ ih =>
    refine List.forall_mem_cons.2 ⟨?_, ih⟩
    refine List.mem_map_of_mem (f := Declaration.qualified) (List.mem_filter.2 ⟨List.mem_of_getElem? found, ?_⟩)
    exact decide_eq_true kind

/-- From the marker outward, the annotations on a way are of the marker and then of one class of the chain each. -/
theorem types (h : table.AnnotationChain marker positions names written) {outermost : AnnotationExpr}
    (htype : outermost.type = names.getLastD marker) : (written ++ [outermost]).map (·.type) = marker :: names := by
  induction h with
  | nil marker => exact congrArg (fun type => [type]) htype
  | cons _ _ carried _ ih =>
    rw [List.getLastD_cons] at htype
    have hfirst := List.find?_some carried
    rw [List.cons_append, List.map_cons, ih htype, beq_iff_eq.1 hfirst]

/-- A table that has the classes of a chain has the chain, if at other positions. -/
theorem exists_of_subset (h : table.AnnotationChain marker positions names written) {table' : SymbolTable}
    (hsubset : ∀ declaration ∈ table.declarations, declaration.qualified ∈ names → declaration ∈ table'.declarations) :
    ∃ positions', table'.AnnotationChain marker positions' names written := by
  induction h with
  | nil marker => exact ⟨[], .nil marker⟩
  | cons found kind carried _ ih =>
    obtain ⟨positions', hfurther⟩ := ih fun declaration hmem hname => hsubset declaration hmem (List.mem_cons_of_mem _ hname)
    obtain ⟨position', hfound⟩ := List.mem_iff_getElem?.1 (hsubset _ (List.mem_of_getElem? found) List.mem_cons_self)
    exact ⟨_, .cons hfound kind carried hfurther⟩

end AnnotationChain

/-- A place where a target is marked: the annotation classes on the way from the marker to the target, the target, and the annotation on it, each by
its position. -/
structure MarkedPlace where
  classes : List Nat
  target : Nat
  index : Nat
  deriving DecidableEq

/-- Whether a path is that of a place where a target of a kind is marked: what the annotation classes of a chain carry, from the marker outward, and
then the annotation of the last of them that is written on the target. -/
def Marks (table : SymbolTable) (terminal : DeclarationKind) (marker : String) (place : MarkedPlace) (path : AnnotationPath) : Prop :=
  ∃ names written outermost, table.AnnotationChain marker place.classes names written ∧
    table.declarations[place.target]? = some path.target ∧ path.target.kind = terminal ∧
      path.target.annotations[place.index]? = some outermost ∧ outermost.type = names.getLastD marker ∧
        path.annotations = written ++ [outermost]

end SymbolTable

open SymbolTable (AnnotationChain MarkedPlace Marks)

/-! ## One step of the walk -/

namespace Symbols

/-- What the walk finds at a declaration that carries the last name of the chain. -/
def pathsAt (symbols : Symbols) (terminal : DeclarationKind) (pending chain : List String) (outer : List AnnotationExpr)
    (marker : String) (declaration : Declaration) : Except SetupError (List AnnotationPath) :=
  if declaration.kind = .annotationClass then
    match declaration.annotationOf? marker with
    | none => .error { declaration := declaration.qualified, fault := .annotationNotCarried marker }
    | some written =>
      if declaration.qualified ∈ pending then
        (symbols.pathsFrom terminal (without pending declaration.qualified) (chain ++ [declaration.qualified])
          (outer ++ [written]) declaration.qualified).result
      else .error { declaration := declaration.qualified, fault := .annotationCycle chain declaration.qualified }
  else if declaration.kind = terminal then
    .ok ((declaration.annotationsOf marker).map fun written => { annotations := outer ++ [written], target := declaration })
  else .ok []

variable {symbols : Symbols} {terminal : DeclarationKind} {pending chain : List String} {outer : List AnnotationExpr} {marker : String}
  {declaration : Declaration}

/-- The walk puts together what it finds at each declaration. -/
theorem result_pathsFrom (symbols : Symbols) (terminal : DeclarationKind) (pending chain : List String) (outer : List AnnotationExpr)
    (marker : String) :
    (symbols.pathsFrom terminal pending chain outer marker).result =
      ((symbols.annotatedWith marker).mapM (symbols.pathsAt terminal pending chain outer marker)).map List.flatten := by
  rw [pathsFrom, Logged.result_flatMap]
  congr 2
  funext declaration
  rw [pathsAt]
  by_cases hclass : declaration.kind = .annotationClass
  · rw [if_pos hclass, if_pos hclass]
    cases declaration.annotationOf? marker with
    | none => rfl
    | some written =>
      dsimp only
      rw [Logged.result_bind, Logged.result_debug]
      by_cases hpending : declaration.qualified ∈ pending
      · rw [if_pos hpending, dif_pos hpending]
        rfl
      · rw [if_neg hpending, dif_neg hpending]
        rfl
  · rw [if_neg hclass, if_neg hclass]
    by_cases hterminal : declaration.kind = terminal
    · rw [if_pos hterminal, if_pos hterminal]
      rfl
    · rw [if_neg hterminal, if_neg hterminal]
      rfl

/-- At an annotation class the walk goes on, unless that closes a cycle. -/
theorem pathsAt_of_annotationOf? (hkind : declaration.kind = .annotationClass) {written : AnnotationExpr}
    (hcarried : declaration.annotationOf? marker = some written) :
    symbols.pathsAt terminal pending chain outer marker declaration =
      if declaration.qualified ∈ pending then
        (symbols.pathsFrom terminal (without pending declaration.qualified) (chain ++ [declaration.qualified])
          (outer ++ [written]) declaration.qualified).result
      else .error { declaration := declaration.qualified, fault := .annotationCycle chain declaration.qualified } := by
  rw [pathsAt, if_pos hkind, hcarried]

/-- If the walk stops nowhere from an annotation class on, then the class is pending and the walk stops nowhere from it on. -/
theorem pathsFrom_of_pathsAt_eq_ok (hkind : declaration.kind = .annotationClass) {written : AnnotationExpr}
    (hcarried : declaration.annotationOf? marker = some written) {found : List AnnotationPath}
    (h : symbols.pathsAt terminal pending chain outer marker declaration = .ok found) :
    declaration.qualified ∈ pending ∧
      (symbols.pathsFrom terminal (without pending declaration.qualified) (chain ++ [declaration.qualified])
        (outer ++ [written]) declaration.qualified).result = .ok found := by
  rw [pathsAt_of_annotationOf? hkind hcarried] at h
  split at h
  · exact ⟨‹_›, h⟩
  · contradiction

/-- Targets end the paths. -/
theorem pathsAt_of_terminal (hterminal : terminal ≠ .annotationClass) (hkind : declaration.kind = terminal) :
    symbols.pathsAt terminal pending chain outer marker declaration =
      .ok ((declaration.annotationsOf marker).map fun written => { annotations := outer ++ [written], target := declaration }) := by
  rw [pathsAt, if_neg (hkind ▸ hterminal), if_pos hkind]

/-- Other declarations are no targets. -/
theorem pathsAt_of_other (hclass : declaration.kind ≠ .annotationClass) (hkind : declaration.kind ≠ terminal) :
    symbols.pathsAt terminal pending chain outer marker declaration = .ok [] := by
  rw [pathsAt, if_neg hclass, if_neg hkind]

end Symbols

/-! ## Paths and marked places -/

namespace SymbolTable

variable {table : SymbolTable} {terminal : DeclarationKind} {pending chain : List String} {outer : List AnnotationExpr} {marker : String}

/-- A declaration in the table that carries an annotation class of the marker is on the list that the walk goes through. -/
theorem carries_of_annotationOf? {declaration : Declaration} {written : AnnotationExpr}
    (h : declaration.annotationOf? marker = some written) : declaration.annotations.any (·.type == marker) = true := by
  unfold Declaration.annotationOf? at h
  have htype := List.find?_some h
  exact List.any_eq_true.2 ⟨written, List.mem_of_find?_eq_some h, htype⟩

theorem exists_annotationOf?_of_carries {declaration : Declaration} (h : declaration.annotations.any (·.type == marker) = true) :
    ∃ written, declaration.annotationOf? marker = some written := by
  obtain ⟨written, hmem, htype⟩ := List.any_eq_true.1 h
  exact Option.isSome_iff_exists.1 (List.find?_isSome.2 ⟨written, hmem, htype⟩)

namespace MarkedPlace

/-- The position of the first declaration on the way from the marker. -/
def first (place : MarkedPlace) : Nat :=
  place.classes.headD place.target

/-- The place behind one more annotation class. -/
def behind (position : Nat) (place : MarkedPlace) : MarkedPlace :=
  { place with classes := position :: place.classes }

theorem behind_injective (position : Nat) : Function.Injective (behind position) := by
  intro place place' h
  cases place
  cases place'
  simpa [behind] using h

end MarkedPlace

/-- Whether a path is that of a place, behind annotations that come before. -/
def MarksAfter (table : SymbolTable) (terminal : DeclarationKind) (outer : List AnnotationExpr) (marker : String) (place : MarkedPlace)
    (path : AnnotationPath) : Prop :=
  ∃ inner, table.Marks terminal marker place inner ∧ path = { inner with annotations := outer ++ inner.annotations }

/-- A target that carries the marker itself. -/
theorem marksAfter_target_iff {position index : Nat} {path : AnnotationPath} :
    table.MarksAfter terminal outer marker ⟨[], position, index⟩ path ↔
      ∃ declaration written, table.declarations[position]? = some declaration ∧ declaration.kind = terminal ∧
        declaration.annotations[index]? = some written ∧ (written.type == marker) = true ∧
          path = { annotations := outer ++ [written], target := declaration } := by
  constructor
  · rintro ⟨inner, ⟨names, written, outermost, hchain, htarget, hkind, hindex, htype, hannotations⟩, rfl⟩
    cases hchain
    exact ⟨inner.target, outermost, htarget, hkind, hindex, beq_iff_eq.2 htype, by rw [hannotations]; rfl⟩
  · rintro ⟨declaration, written, htarget, hkind, hindex, htype, rfl⟩
    exact ⟨{ annotations := [written], target := declaration },
      ⟨[], [], written, .nil marker, htarget, hkind, hindex, beq_iff_eq.1 htype, rfl⟩, rfl⟩

/-- A target behind an annotation class that carries the marker. -/
theorem marksAfter_behind_iff {position : Nat} {place : MarkedPlace} {path : AnnotationPath} :
    table.MarksAfter terminal outer marker (place.behind position) path ↔
      ∃ declaration written, table.declarations[position]? = some declaration ∧ declaration.kind = .annotationClass ∧
        declaration.annotationOf? marker = some written ∧
          table.MarksAfter terminal (outer ++ [written]) declaration.qualified place path := by
  constructor
  · rintro ⟨inner, ⟨names, written, outermost, hchain, htarget, hkind, hindex, htype, hannotations⟩, rfl⟩
    cases hchain with
    | cons found kind carried further =>
      rename_i declaration names first written
      refine ⟨declaration, first, found, kind, carried, { inner with annotations := written ++ [outermost] }, ?_, ?_⟩
      · exact ⟨names, written, outermost, further, htarget, hkind, hindex, by rw [htype, List.getLastD_cons], rfl⟩
      · rw [hannotations]
        simp
  · rintro ⟨declaration, first, found, kind, carried, inner,
      ⟨names, written, outermost, hchain, htarget, hkind, hindex, htype, hannotations⟩, rfl⟩
    refine ⟨{ inner with annotations := first :: inner.annotations }, ?_, by simp⟩
    exact ⟨declaration.qualified :: names, first :: written, outermost, .cons found kind carried hchain, htarget, hkind, hindex,
      by rw [htype, List.getLastD_cons], by rw [hannotations]; rfl⟩

/-- The way to a target begins with an annotation class of the marker or at the target itself. -/
theorem marksAfter_first_iff {position : Nat} {declaration : Declaration} (hfound : table.declarations[position]? = some declaration)
    {place : MarkedPlace} {path : AnnotationPath} :
    (place.first = position ∧ table.MarksAfter terminal outer marker place path) ↔
      (declaration.kind = .annotationClass ∧ ∃ written further, declaration.annotationOf? marker = some written ∧
        table.MarksAfter terminal (outer ++ [written]) declaration.qualified further path ∧ further.behind position = place) ∨
      (declaration.kind = terminal ∧ ∃ index written, declaration.annotations[index]? = some written ∧
        (written.type == marker) = true ∧ ⟨[], position, index⟩ = place ∧
          { annotations := outer ++ [written], target := declaration } = path) := by
  constructor
  · rintro ⟨rfl, hmarks⟩
    obtain ⟨classes, target, index⟩ := place
    cases classes with
    | nil =>
      obtain ⟨found, written, htarget, hkind, hindex, htype, rfl⟩ := marksAfter_target_iff.1 hmarks
      obtain rfl := Option.some.inj (hfound.symm.trans htarget)
      exact Or.inr ⟨hkind, index, written, hindex, htype, rfl, rfl⟩
    | cons position classes =>
      have hbehind : table.MarksAfter terminal outer marker (MarkedPlace.behind position ⟨classes, target, index⟩) path := hmarks
      obtain ⟨found, written, hclass, hkind, hcarried, hmarks⟩ := marksAfter_behind_iff.1 hbehind
      obtain rfl := Option.some.inj (hfound.symm.trans hclass)
      exact Or.inl ⟨hkind, written, _, hcarried, hmarks, rfl⟩
  · rintro (⟨hkind, written, further, hcarried, hmarks, rfl⟩ | ⟨hkind, index, written, hindex, htype, rfl, rfl⟩)
    · exact ⟨rfl, marksAfter_behind_iff.2 ⟨declaration, written, hfound, hkind, hcarried, hmarks⟩⟩
    · exact ⟨rfl, marksAfter_target_iff.2 ⟨declaration, written, hfound, hkind, hindex, htype, rfl⟩⟩

theorem exists_first_of_marksAfter {place : MarkedPlace} {path : AnnotationPath} (h : table.MarksAfter terminal outer marker place path) :
    ∃ declaration, table.declarations[place.first]? = some declaration := by
  obtain ⟨inner, ⟨names, written, outermost, hchain, htarget, -⟩, -⟩ := h
  obtain ⟨classes, target, index⟩ := place
  cases hchain with
  | nil => exact ⟨_, htarget⟩
  | cons found => exact ⟨_, found⟩

/-! ## A walk that does not stop -/

/-- If the walk does not stop, then no chain from the marker on has a name twice or leaves the pending names. -/
theorem nodup_of_pathsFrom {paths : List AnnotationPath} (h : (table.symbols.pathsFrom terminal pending chain outer marker).result = .ok paths)
    {positions : List Nat} {names : List String} {written : List AnnotationExpr}
    (hchain : table.AnnotationChain marker positions names written) : names.Nodup ∧ ∀ name ∈ names, name ∈ pending := by
  induction hchain generalizing pending chain outer paths with
  | nil => simp
  | cons found kind carried _ ih =>
    rename_i declaration names first written _
    rw [Symbols.result_pathsFrom, annotatedWith_symbols] at h
    obtain ⟨lists, hlists, -⟩ := map_eq_ok.1 h
    have hmem : declaration ∈ table.annotatedWith _ :=
      List.mem_filter.2 ⟨List.mem_of_getElem? found, carries_of_annotationOf? carried⟩
    obtain ⟨value, -, hvalue⟩ := exists_value_of_mapM hlists hmem
    obtain ⟨hpending, hfurther⟩ := Symbols.pathsFrom_of_pathsAt_eq_ok kind carried hvalue
    obtain ⟨hnodup, hnames⟩ := ih hfurther
    constructor
    · exact List.nodup_cons.2 ⟨fun hmem => (mem_without.1 (hnames _ hmem)).2 rfl, hnodup⟩
    · exact List.forall_mem_cons.2 ⟨hpending, fun name hmem => (mem_without.1 (hnames name hmem)).1⟩

/-- What the walk finds at a declaration is what is marked on a way that begins there. -/
theorem enumerates_pathsAt (hterminal : terminal ≠ .annotationClass) {position : Nat} {declaration : Declaration}
    (hfound : table.declarations[position]? = some declaration) (hcarries : declaration.annotations.any (·.type == marker) = true)
    {paths : List AnnotationPath} (h : table.symbols.pathsAt terminal pending chain outer marker declaration = .ok paths)
    (hfurther : ∀ written, declaration.qualified ∈ pending →
      (table.symbols.pathsFrom terminal (without pending declaration.qualified) (chain ++ [declaration.qualified]) (outer ++ [written])
        declaration.qualified).result = .ok paths →
      ∃ places, Enumerates (table.MarksAfter terminal (outer ++ [written]) declaration.qualified) places paths) :
    ∃ places, Enumerates (fun place path => place.first = position ∧ table.MarksAfter terminal outer marker place path) places paths := by
  by_cases hclass : declaration.kind = .annotationClass
  · obtain ⟨written, hcarried⟩ := exists_annotationOf?_of_carries hcarries
    obtain ⟨hpending, hresult⟩ := Symbols.pathsFrom_of_pathsAt_eq_ok hclass hcarried h
    obtain ⟨places, hplaces⟩ := hfurther written hpending hresult
    have hbehind := hplaces.map (MarkedPlace.behind_injective position) id
    rw [List.map_id] at hbehind
    refine ⟨_, hbehind.congr fun place path => ?_⟩
    rw [marksAfter_first_iff hfound]
    constructor
    · rintro ⟨further, path, hmarks, rfl, rfl⟩
      exact Or.inl ⟨hclass, written, further, hcarried, hmarks, rfl⟩
    · rintro (⟨-, other, further, hother, hmarks, rfl⟩ | ⟨hkind, -⟩)
      · obtain rfl := Option.some.inj (hcarried.symm.trans hother)
        exact ⟨further, path, hmarks, rfl, rfl⟩
      · exact absurd (hkind.symm.trans hclass) hterminal
  · by_cases hkind : declaration.kind = terminal
    · rw [Symbols.pathsAt_of_terminal hterminal hkind, Except.ok.injEq] at h
      subst h
      obtain ⟨positions, hpositions⟩ := exists_enumerates_filter (·.type == marker) declaration.annotations
      have hinjective : Function.Injective fun index => MarkedPlace.mk [] position index :=
        fun index index' heq => congrArg MarkedPlace.index heq
      refine ⟨_, (hpositions.map hinjective fun written => AnnotationPath.mk (outer ++ [written]) declaration).congr fun place path => ?_⟩
      rw [marksAfter_first_iff hfound]
      constructor
      · rintro ⟨index, written, ⟨hindex, htype⟩, rfl, rfl⟩
        exact Or.inr ⟨hkind, index, written, hindex, htype, rfl, rfl⟩
      · rintro (⟨hkind', -⟩ | ⟨-, index, written, hindex, htype, rfl, rfl⟩)
        · exact absurd hkind' hclass
        · exact ⟨index, written, ⟨hindex, htype⟩, rfl, rfl⟩
    · rw [Symbols.pathsAt_of_other hclass hkind, Except.ok.injEq] at h
      subst h
      refine ⟨[], Enumerates.nil fun place path hmarks => ?_⟩
      rcases (marksAfter_first_iff hfound).1 hmarks with ⟨hkind', -⟩ | ⟨hkind', -⟩
      · exact hclass hkind'
      · exact hkind hkind'

/-- If the walk does not stop, then its paths are those of the places that are marked from the marker on. -/
theorem enumerates_pathsFrom (hterminal : terminal ≠ .annotationClass) (pending chain : List String) (outer : List AnnotationExpr)
    (marker : String) {paths : List AnnotationPath}
    (h : (table.symbols.pathsFrom terminal pending chain outer marker).result = .ok paths) :
    ∃ places, Enumerates (table.MarksAfter terminal outer marker) places paths := by
  rw [Symbols.result_pathsFrom, annotatedWith_symbols] at h
  obtain ⟨lists, hlists, rfl⟩ := map_eq_ok.1 h
  obtain ⟨places, hplaces⟩ := exists_enumerates_flatten hlists
    (R := fun position place path => place.first = position ∧ table.MarksAfter terminal outer marker place path)
    (fun position declaration found hfound hcarries hvalue =>
      enumerates_pathsAt hterminal hfound hcarries hvalue fun written hpending hresult =>
        enumerates_pathsFrom hterminal _ _ _ _ hresult)
    (fun position declaration hfound hcarries place path hmarks => by
      rcases (marksAfter_first_iff hfound).1 hmarks with ⟨-, written, -, hcarried, -⟩ | ⟨-, index, written, hindex, htype, -⟩
      · rw [carries_of_annotationOf? hcarried] at hcarries
        contradiction
      · rw [List.any_eq_true.2 ⟨written, List.mem_of_getElem? hindex, htype⟩] at hcarries
        contradiction)
    (fun i j place path path' ⟨hi, _⟩ ⟨hj, _⟩ => hi ▸ hj)
  refine ⟨places, hplaces.congr fun place path => ⟨fun ⟨_, _, _, hmarks⟩ => hmarks, fun hmarks => ?_⟩⟩
  obtain ⟨declaration, hfirst⟩ := exists_first_of_marksAfter hmarks
  exact ⟨place.first, (List.getElem?_eq_some_iff.1 hfirst).1, rfl, hmarks⟩
termination_by pending.length
decreasing_by exact length_without_lt hpending

/-! ## A walk that stops -/

/-- If the walk stops, then it says which chain it came along and which name on the chain closes the cycle. -/
theorem exists_cycle_of_pathsFrom (pending chain : List String) (outer : List AnnotationExpr) (marker : String) {error : SetupError}
    (h : (table.symbols.pathsFrom terminal pending chain outer marker).result = .error error) :
    ∃ positions names again written, table.AnnotationChain marker positions (names ++ [again]) written ∧ names.Nodup ∧
      (∀ name ∈ names, name ∈ pending) ∧ (again ∈ pending → again ∈ names) ∧
        error = { declaration := again, fault := .annotationCycle (chain ++ names) again } := by
  rw [Symbols.result_pathsFrom, annotatedWith_symbols, map_eq_error] at h
  obtain ⟨declaration, hmem, hvalue⟩ := exists_of_mapM_eq_error h
  obtain ⟨hmem, hcarries⟩ := List.mem_filter.1 hmem
  obtain ⟨position, hfound⟩ := List.mem_iff_getElem?.1 hmem
  obtain ⟨written, hcarried⟩ := exists_annotationOf?_of_carries hcarries
  by_cases hclass : declaration.kind = .annotationClass
  · rw [Symbols.pathsAt_of_annotationOf? hclass hcarried] at hvalue
    by_cases hpending : declaration.qualified ∈ pending
    · rw [if_pos hpending] at hvalue
      obtain ⟨positions, names, again, further, hchain, hnodup, hnames, hagain, rfl⟩ := exists_cycle_of_pathsFrom _ _ _ _ hvalue
      refine ⟨_, declaration.qualified :: names, again, _, .cons hfound hclass hcarried hchain, ?_, ?_, fun hmem => ?_, ?_⟩
      · exact List.nodup_cons.2 ⟨fun hmem => (mem_without.1 (hnames _ hmem)).2 rfl, hnodup⟩
      · exact List.forall_mem_cons.2 ⟨hpending, fun name hmem => (mem_without.1 (hnames name hmem)).1⟩
      · by_cases heq : again = declaration.qualified
        · exact heq ▸ List.mem_cons_self
        · exact List.mem_cons_of_mem _ (hagain (mem_without.2 ⟨hmem, heq⟩))
      · rw [List.append_assoc, List.singleton_append]
    · rw [if_neg hpending] at hvalue
      cases hvalue
      refine ⟨_, [], declaration.qualified, _, .cons hfound hclass hcarried (.nil _), List.nodup_nil, by simp, fun hmem => ?_, ?_⟩
      · exact absurd hmem hpending
      · rw [List.append_nil]
  · unfold Symbols.pathsAt at hvalue
    rw [if_neg hclass] at hvalue
    split at hvalue <;> contradiction
termination_by pending.length
decreasing_by exact length_without_lt hpending

/-! ## All paths -/

theorem marksAfter_nil_iff {place : MarkedPlace} {path : AnnotationPath} :
    table.MarksAfter terminal [] marker place path ↔ table.Marks terminal marker place path := by
  constructor
  · rintro ⟨inner, hmarks, rfl⟩
    exact hmarks
  · intro hmarks
    exact ⟨path, hmarks, rfl⟩

/-- A path has one annotation more than there are annotation classes on the way. -/
theorem Marks.depth {place : MarkedPlace} {path : AnnotationPath} (h : table.Marks terminal marker place path) :
    path.depth = place.classes.length + 1 := by
  obtain ⟨names, written, outermost, hchain, -, -, -, -, hannotations⟩ := h
  rw [AnnotationPath.depth, hannotations, List.length_append, hchain.length_written, List.length_singleton]

/-- The innermost annotation of a path is one of the marker. -/
theorem Marks.type_head? {place : MarkedPlace} {path : AnnotationPath} (h : table.Marks terminal marker place path) :
    path.annotations.head?.map (·.type) = some marker := by
  obtain ⟨names, written, outermost, hchain, -, -, -, htype, hannotations⟩ := h
  rw [hannotations, ← List.head?_map, hchain.types htype, List.head?_cons]

/-- A table that has the annotation classes on a path and its target has the path. -/
theorem Marks.exists_of_subset {place : MarkedPlace} {path : AnnotationPath} (h : table.Marks terminal marker place path)
    {table' : SymbolTable} (htarget' : path.target ∈ table'.declarations)
    (hsubset : ∀ declaration ∈ table.declarations, declaration.qualified ∈ path.annotations.tail.map (·.type) →
      declaration ∈ table'.declarations) :
    ∃ place', table'.Marks terminal marker place' path := by
  obtain ⟨names, written, outermost, hchain, -, hkind, hindex, htype, hannotations⟩ := h
  rw [hannotations, List.map_tail, hchain.types htype, List.tail_cons] at hsubset
  obtain ⟨positions', hchain'⟩ := hchain.exists_of_subset hsubset
  obtain ⟨position', hfound⟩ := List.mem_iff_getElem?.1 htarget'
  exact ⟨⟨positions', position', place.index⟩, names, written, outermost, hchain', hfound, hkind, hindex, htype, hannotations⟩

/-- What a chain carries is written on declarations of the table. -/
theorem AnnotationChain.exists_carrier {positions : List Nat} {names : List String} {written : List AnnotationExpr}
    (h : table.AnnotationChain marker positions names written) :
    ∀ annotation ∈ written, ∃ declaration ∈ table.declarations, annotation ∈ declaration.annotations := by
  induction h with
  | nil => exact nofun
  | cons found _ carried _ ih =>
    exact List.forall_mem_cons.2 ⟨⟨_, List.mem_of_getElem? found, List.mem_of_find?_eq_some carried⟩, ih⟩

/-- The target of a path is declared in the table. -/
theorem Marks.target_mem {place : MarkedPlace} {path : AnnotationPath} (h : table.Marks terminal marker place path) :
    path.target ∈ table.declarations := by
  obtain ⟨_, _, _, -, htarget, -⟩ := h
  exact List.mem_of_getElem? htarget

/-- So is what its annotations are written on. -/
theorem Marks.exists_carrier {place : MarkedPlace} {path : AnnotationPath} (h : table.Marks terminal marker place path) :
    ∀ annotation ∈ path.annotations, ∃ declaration ∈ table.declarations, annotation ∈ declaration.annotations := by
  have htarget := h.target_mem
  obtain ⟨_, _, _, hchain, -, -, hindex, -, hannotations⟩ := h
  rw [hannotations, List.forall_mem_append]
  exact ⟨hchain.exists_carrier, by simpa using ⟨_, htarget, List.mem_of_getElem? hindex⟩⟩

/-- Where no chain closes a cycle, paths are no longer than there are annotation classes. -/
theorem Marks.depth_le {place : MarkedPlace} {path : AnnotationPath} (h : table.Marks terminal marker place path)
    (hcycle : ¬table.HasAnnotationCycle marker) : path.depth ≤ table.symbols.annotationClassNames.length + 1 := by
  rw [h.depth]
  obtain ⟨names, written, outermost, hchain, -⟩ := h
  have hnodup : (marker :: names).Nodup := Classical.byContradiction fun hrepeats => hcycle ⟨_, names, written, hchain, hrepeats⟩
  rw [← hchain.length_names]
  exact Nat.succ_le_succ (List.subperm_of_subset (List.nodup_cons.1 hnodup).2 hchain.mem_annotationClassNames).length_le

/-- Whether an error tells of a chain of annotation classes from a marker that closes a cycle: the names on the chain, which are distinct, and the
one of them that it comes back to. -/
def ReportsCycle (table : SymbolTable) (marker : String) (error : SetupError) : Prop :=
  ∃ positions names again written, table.AnnotationChain marker positions (names ++ [again]) written ∧
    (marker :: names).Nodup ∧ again ∈ marker :: names ∧
      error = { declaration := again, fault := .annotationCycle (marker :: names) again }

theorem ReportsCycle.hasAnnotationCycle {error : SetupError} (h : table.ReportsCycle marker error) : table.HasAnnotationCycle marker := by
  obtain ⟨positions, names, again, written, hchain, -, hagain, -⟩ := h
  refine ⟨positions, names ++ [again], written, hchain, fun hnodup => ?_⟩
  rw [← List.cons_append, List.nodup_append] at hnodup
  exact hnodup.2.2 again hagain again List.mem_cons_self rfl

/-- A walk that stops reports a cycle. -/
theorem reportsCycle_of_paths {error : SetupError} (h : (table.symbols.paths terminal marker).result = .error error) :
    table.ReportsCycle marker error := by
  obtain ⟨positions, names, again, written, hchain, hnodup, hnames, hagain, rfl⟩ := exists_cycle_of_pathsFrom _ _ _ _ h
  refine ⟨positions, names, again, written, hchain, ?_, ?_, rfl⟩
  · exact List.nodup_cons.2 ⟨fun hmem => (mem_without.1 (hnames _ hmem)).2 rfl, hnodup⟩
  · by_cases heq : again = marker
    · exact heq ▸ List.mem_cons_self
    · have hclass := hchain.mem_annotationClassNames again (List.mem_append_right _ List.mem_cons_self)
      exact List.mem_cons_of_mem _ (hagain (mem_without.2 ⟨hclass, heq⟩))

/-- A walk that does not stop meets no cycle. -/
theorem not_hasAnnotationCycle_of_paths {paths : List AnnotationPath} (h : (table.symbols.paths terminal marker).result = .ok paths) :
    ¬table.HasAnnotationCycle marker := by
  rintro ⟨positions, names, written, hchain, hrepeats⟩
  obtain ⟨hnodup, hnames⟩ := nodup_of_pathsFrom h hchain
  exact hrepeats (List.nodup_cons.2 ⟨fun hmem => (mem_without.1 (hnames _ hmem)).2 rfl, hnodup⟩)

theorem enumerates_paths (hterminal : terminal ≠ .annotationClass) {paths : List AnnotationPath}
    (h : (table.symbols.paths terminal marker).result = .ok paths) :
    ∃ places, Enumerates (table.Marks terminal marker) places paths := by
  obtain ⟨places, hplaces⟩ := enumerates_pathsFrom hterminal _ _ _ _ h
  exact ⟨places, hplaces.congr fun place path => marksAfter_nil_iff⟩

/-- The annotations that mark destinations, each after the kind of its targets. -/
def destinationMarkers : List (DeclarationKind × String) :=
  [(.function, Library.destination), (.plainClass, Library.javaActivityDestination), (.plainClass, Library.activityDestination)]

/-- Whether a path is one to a destination. -/
def MarksDestination (table : SymbolTable) (path : AnnotationPath) : Prop :=
  ∃ kind ∈ destinationMarkers, ∃ place, table.Marks kind.1 kind.2 place path

/-- The paths that are found are those to destinations. -/
theorem mem_paths_iff_marksDestination {composables activities : List AnnotationPath}
    (hcomposables : table.symbols.composablePaths.result = .ok composables) (hactivities : table.symbols.activityPaths.result = .ok activities)
    {path : AnnotationPath} : path ∈ composables ++ activities ↔ table.MarksDestination path := by
  rw [Symbols.activityPaths, Logged.result_flatMap] at hactivities
  obtain ⟨lists, hlists, rfl⟩ := map_eq_ok.1 hactivities
  obtain ⟨java, _, hjava, hrest, rfl⟩ := mapM_cons_eq_ok.1 hlists
  obtain ⟨kotlin, _, hkotlin, hnil, rfl⟩ := mapM_cons_eq_ok.1 hrest
  cases hnil
  have hexact : ∀ {terminal : DeclarationKind} {marker : String} {paths : List AnnotationPath}, terminal ≠ .annotationClass →
      (table.symbols.paths terminal marker).result = .ok paths → (path ∈ paths ↔ ∃ place, table.Marks terminal marker place path) := by
    intro terminal marker paths hterminal hpaths
    obtain ⟨places, hplaces⟩ := enumerates_paths hterminal hpaths
    exact hplaces.mem_values_iff
  simp [MarksDestination, destinationMarkers, hexact (by decide) hcomposables, hexact (by decide) hjava, hexact (by decide) hkotlin]

/-- The paths to composable functions are exact. Looking for them stops at a setup error if and only if annotation classes lead from the marker back
to a name on their chain, and then the error tells which. Else there is one path for each place where a function is marked, with one annotation more
than annotation classes on the way, of which the first is one of the marker; no way is longer than there are annotation classes. -/
theorem composablePaths_exact (table : SymbolTable) :
    ((∃ error, table.symbols.composablePaths.result = .error error) ↔ table.HasAnnotationCycle Library.destination) ∧
      (∀ error, table.symbols.composablePaths.result = .error error →
        error.problem.kind = .setup ∧ table.ReportsCycle Library.destination error) ∧
      ∀ paths, table.symbols.composablePaths.result = .ok paths →
        (∃ places, Enumerates (table.Marks .function Library.destination) places paths) ∧
          ∀ place path, table.Marks .function Library.destination place path →
            path.depth = place.classes.length + 1 ∧ path.annotations.head?.map (·.type) = some Library.destination ∧
              path.depth ≤ table.symbols.annotationClassNames.length + 1 := by
  refine ⟨⟨fun ⟨error, herror⟩ => (reportsCycle_of_paths herror).hasAnnotationCycle, fun hcycle => ?_⟩,
    fun error herror => ⟨rfl, reportsCycle_of_paths herror⟩, fun paths hpaths => ⟨enumerates_paths (by decide) hpaths, ?_⟩⟩
  · cases hresult : table.symbols.composablePaths.result with
    | error error => exact ⟨error, rfl⟩
    | ok paths => exact absurd hcycle (not_hasAnnotationCycle_of_paths hresult)
  · intro place path hmarks
    exact ⟨hmarks.depth, hmarks.type_head?, hmarks.depth_le (not_hasAnnotationCycle_of_paths hpaths)⟩

/-- Two annotation classes carry the marker, and a third, on a function, carries both. -/
def diamondTable : SymbolTable :=
  let carrying (name : String) (markers : List String) : Declaration :=
    { qualified := name, kind := .annotationClass, annotations := markers.map .plain }
  { declarations := [
      carrying "app.Screen" [Library.destination],
      carrying "app.Dialog" [Library.destination],
      carrying "app.Sheet" ["app.Screen", "app.Dialog"],
      { qualified := "app.Picker", kind := .function, annotations := [.plain "app.Sheet"] }] }

/-- A name that two chains share is no cycle: the function has a path along each. -/
example : diamondTable.symbols.composablePaths.result.toOption.map (·.map fun path => path.annotations.map (·.type)) =
    some [[Library.destination, "app.Screen", "app.Sheet"], [Library.destination, "app.Dialog", "app.Sheet"]] := by
  decide +kernel

end SymbolTable

end NavGen
