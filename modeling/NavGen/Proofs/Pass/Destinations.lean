import NavGen.Pass.Destinations
import NavGen.Proofs.Pass.Graphs
import NavGen.Proofs.Pass.Serializers

/-!
# Destinations of tables that answer alike

What a destination is read with are answers of the table, serializers by the type they convert, and the default graph. Two readers that agree on them,
for all names that a path and the declarations behind it are written with, read the same destination. In particular none of the answers depends on the
order of the table, so an annotation path gives the same destination whatever the order.
-/

namespace NavGen

/-- Whether two readers answer alike as far as types are concerned that are written with names of a set. -/
structure DestinationReader.AgreeOn (names : Set String) (reader reader' : DestinationReader) : Prop where
  table : reader.table.AgreeOn names reader'.table
  registry : ∀ qualified, reader.registry.find? qualified = reader'.registry.find? qualified
  defaultGraph : reader.graphs.defaultGraph = reader'.graphs.defaultGraph

/-- Whether the names that a path is read with are in a set: those of the class that it names for the arguments, and those of its target. -/
structure AnnotationPath.Within (names : Set String) (path : AnnotationPath) : Prop where
  argumentsClass : ∀ type, path.typeArgument? "navArgs" = some type → type.Within names
  target : path.target.Within names

namespace DestinationReader.AgreeOn

variable {names : Set String} {reader reader' : DestinationReader}

/-! ## Nav types -/

theorem classNavType?_eq (h : reader.AgreeOn names reader') (owner argument : String) {declaration : Declaration}
    (hdeclaration : declaration.Within names) :
    (reader.context owner argument).classNavType? declaration = (reader'.context owner argument).classNavType? declaration := by
  simp only [TypeContext.classNavType?, context, h.registry, h.table.supertypesOf_eq hdeclaration]
  rfl

theorem singleNavType_eq (h : reader.AgreeOn names reader') (owner argument : String) {type : TypeExpr} (htype : type.Within names) :
    (reader.context owner argument).singleNavType type = (reader'.context owner argument).singleNavType type := by
  have hclass : (reader.table.classOf? type).bind (reader.context owner argument).classNavType? =
      (reader.table.classOf? type).bind (reader'.context owner argument).classNavType? :=
    Option.bind_congr fun _ hfound => h.classNavType?_eq owner argument (h.table.within_of_classOf? htype.qualified hfound)
  unfold TypeContext.singleNavType
  rw [show (reader.context owner argument).table = reader.table from rfl, hclass, h.table.classOf?_eq htype.qualified]
  simp only [context, h.registry, TypeContext.fail]

/-- The values of a type cross a route in the same way for both readers. -/
theorem navType_eq (h : reader.AgreeOn names reader') (owner argument : String) {type : TypeExpr} (htype : type.Within names) :
    (reader.context owner argument).navType type = (reader'.context owner argument).navType type := by
  unfold TypeContext.navType
  rw [h.singleNavType_eq owner argument htype]
  cases hhead : type.arguments.head? with
  | none => rfl
  | some element =>
    dsimp only
    rw [h.singleNavType_eq owner argument (htype.head? hhead)]
    rfl

/-! ## Arguments and results -/

theorem resultSender_eq (h : reader.AgreeOn names reader') (owner : String) {type : TypeExpr} (htype : type.Within names) :
    reader.resultSender owner type = reader'.resultSender owner type := by
  unfold resultSender
  rw [h.navType_eq owner _ htype]

theorem parameterResult_eq (h : reader.AgreeOn names reader') (owner : String) {parameter : Parameter}
    (hparameter : parameter.type.Within names) : reader.parameterResult owner parameter = reader'.parameterResult owner parameter := by
  unfold parameterResult
  cases hhead : parameter.type.arguments.head? with
  | none => rfl
  | some type => exact h.resultSender_eq owner (hparameter.head? hhead)

theorem argument_eq (h : reader.AgreeOn names reader') (owner : String) {parameter : Parameter}
    (hparameter : parameter.type.Within names) : reader.argument owner parameter = reader'.argument owner parameter := by
  unfold DestinationReader.argument
  rw [h.navType_eq owner _ hparameter]

/-- The same arguments and the same result are read from parameters. -/
theorem parameters_eq (h : reader.AgreeOn names reader') (owner : String) (result? : Option ResultSender)
    {parameters : List Parameter} (hparameters : ∀ parameter ∈ parameters, parameter.type.Within names) :
    reader.parameters owner result? parameters = reader'.parameters owner result? parameters := by
  induction parameters generalizing result? with
  | nil => rfl
  | cons parameter rest ih =>
    obtain ⟨hparameter, hrest⟩ := List.forall_mem_cons.1 hparameters
    simp only [DestinationReader.parameters, h.parameterResult_eq owner hparameter, h.argument_eq owner hparameter, ih _ hrest]

theorem readParameters_eq (h : reader.AgreeOn names reader') {target : Declaration} (htarget : target.Within names)
    {argumentsClass? : Option Declaration} (hclass : ∀ declaration, argumentsClass? = some declaration → declaration.Within names) :
    reader.readParameters target argumentsClass? = reader'.readParameters target argumentsClass? := by
  cases argumentsClass? with
  | some declaration => exact h.parameters_eq _ _ (hclass declaration rfl).parameters
  | none =>
    unfold readParameters
    dsimp only
    rw [h.parameters_eq _ _ htarget.parameters]

theorem activityResult_eq (h : reader.AgreeOn names reader') {target : Declaration} (htarget : target.Within names) :
    reader.activityResult target = reader'.activityResult target := by
  unfold activityResult
  rw [← h.table.supertypesOf_eq htarget]
  cases hfind : (reader.table.supertypesOf target).find? (·.qualified == Library.activityResultSender) with
  | none => rfl
  | some sender =>
    have hsender := h.table.within_of_mem_supertypesOf htarget sender (List.mem_of_find?_eq_some hfind)
    cases hhead : sender.arguments.head? with
    | none => simp only [hhead]
    | some type => simp only [hhead, h.resultSender_eq _ (hsender.head? hhead)]

/-! ## Destinations -/

theorem argumentsClass?_eq (h : reader.AgreeOn names reader') {path : AnnotationPath} (hpath : path.Within names) :
    reader.argumentsClass? path = reader'.argumentsClass? path := by
  unfold argumentsClass?
  cases htype : path.typeArgument? "navArgs" with
  | none => rfl
  | some type =>
    dsimp only
    rw [h.table.classOf?_eq (hpath.argumentsClass type htype).qualified]

theorem within_of_argumentsClass? (h : reader.AgreeOn names reader') {path : AnnotationPath} (hpath : path.Within names)
    {declaration : Declaration} (hclass : reader.argumentsClass? path = .ok (some declaration)) : declaration.Within names := by
  unfold argumentsClass? at hclass
  split at hclass
  · cases hclass
  · rename_i type htype
    split at hclass
    · rename_i found hfound
      cases hclass
      exact h.table.within_of_classOf? (hpath.argumentsClass type htype).qualified hfound
    · contradiction

/-- A path gives the same destination for both readers. -/
theorem destination_eq (h : reader.AgreeOn names reader') {path : AnnotationPath} (hpath : path.Within names) :
    reader.destination path = reader'.destination path := by
  unfold DestinationReader.destination
  rw [← h.argumentsClass?_eq hpath]
  cases hclass : reader.argumentsClass? path with
  | error error => rfl
  | ok argumentsClass? =>
    have hread := h.readParameters_eq hpath.target fun declaration hsome =>
      h.within_of_argumentsClass? hpath (hclass.trans (congrArg Except.ok hsome))
    simp only [bind, Except.bind, hread, h.activityResult_eq hpath.target, GraphDeclarations.owningGraph, h.defaultGraph]

/-- A path gives the same destination, and the same log, for both readers. -/
theorem read_eq (h : reader.AgreeOn names reader') {path : AnnotationPath} (hpath : path.Within names) : reader.read path = reader'.read path := by
  rw [read, read, h.destination_eq hpath]

end DestinationReader.AgreeOn

/-! ## Another order -/

/-- Whether two readers differ in the order of their tables, serializers and graphs alone. -/
structure DestinationReader.Reorders (reader reader' : DestinationReader) : Prop where
  table : reader.table.Reorders reader'.table
  registry : reader.registry.Reorders reader'.registry
  graphs : reader.graphs.Reorders reader'.graphs

namespace DestinationReader.Reorders

variable {reader reader' : DestinationReader}

theorem agreeOn (h : reader.Reorders reader') : reader.AgreeOn Set.univ reader' :=
  ⟨h.table.agreeOn, h.registry.find?_eq, h.graphs.defaultGraph_eq⟩

/-- The destinations of all paths are the same up to order, or one of the paths gives none. -/
theorem endAlike_each_read (h : reader.Reorders reader') {paths paths' : List AnnotationPath} (hpaths : paths.Perm paths') :
    EndAlike List.Perm (Logged.each reader.read paths).result (Logged.each reader'.read paths').result :=
  Logged.each_perm hpaths fun _ _ =>
    EndAlike.of_eq (congrArg Logged.result (h.agreeOn.read_eq ⟨fun _ _ _ _ => trivial, fun _ _ => trivial⟩))

end DestinationReader.Reorders

end NavGen
