import NavGen.Proofs.Generated.DestinationContent
import NavGen.Proofs.Pass.AnnotationChains
import NavGen.Proofs.Pass.Flush
import NavGen.Proofs.Pass.NavTypes
import NavGen.Proofs.Source.Lines
import NavGen.Proofs.Symbol.Recorded

/-!
# Sources that a destination is read from

A generated file records the sources that it was derived from, so that a build can leave it as it is while they do not change. Of a destination the
source of its target is recorded. The file also shows what other declarations say: the annotation classes on the path to the target, the class that
holds the arguments, the aliases in types, and the supertypes of an activity. If their sources are recorded too, then the content of the file is
determined by the recorded part of the table. If not, it may change while nothing that is recorded does.
-/

namespace NavGen

namespace SymbolTable

/-! ## What a destination is read from -/

/-- The paths to destinations, as far as they can be found. -/
def destinationPaths (table : SymbolTable) : List AnnotationPath :=
  table.symbols.composablePaths.result.toOption.getD [] ++ table.symbols.activityPaths.result.toOption.getD []

/-- The parameters that the arguments of a path are read from. -/
def parametersRead (table : SymbolTable) (path : AnnotationPath) : List Parameter :=
  match (path.typeArgument? "navArgs").bind table.classOf? with
  | some declaration => declaration.parameters
  | none => if path.target.kind = .plainClass then [] else path.target.parameters

/-- The interface by which an activity sends its result, if it implements one. -/
def senderRead (table : SymbolTable) (path : AnnotationPath) : Option TypeExpr :=
  if path.target.kind = .plainClass then (table.supertypesOf path.target).find? (·.qualified == Library.activityResultSender) else none

/-- The types that the arguments and the result of a path are read from. -/
def typesRead (table : SymbolTable) (path : AnnotationPath) : List TypeExpr :=
  (table.parametersRead path).map (·.type) ++ (table.senderRead path).toList

/-- The declarations, besides the target, that a path is read from: the annotation classes on it, the class that holds the arguments with the aliases
that lead to it, the supertypes of an activity, and the aliases that types lead through. -/
def readFrom (table : SymbolTable) (path : AnnotationPath) : List Declaration :=
  (path.annotations.tail.filterMap fun written => table.find? written.type)
    ++ (path.typeArgument? "navArgs").toList.flatMap
      (fun type => table.aliasesFrom maxAliases type.qualified ++ (table.classOf? type).toList)
    ++ (if path.target.kind = .plainClass then (table.supertypesOf path.target).filterMap fun type => table.find? type.qualified else [])
    ++ (TypeExpr.namesOf (table.typesRead path)).flatMap (table.aliasesFrom maxAliases)

/-- Whether all that a destination is read from has its source recorded with the destination. -/
def RecordsSources (table : SymbolTable) (destination : Destination) : Prop :=
  ∀ path ∈ table.destinationPaths, path.target.simpleName ++ "Destination" = destination.name →
    ∀ declaration ∈ table.readFrom path, declaration.RecordedIn destination.sourceIds

instance (table : SymbolTable) (destination : Destination) : Decidable (table.RecordsSources destination) :=
  inferInstanceAs (Decidable (∀ path ∈ table.destinationPaths, path.target.simpleName ++ "Destination" = destination.name →
    ∀ declaration ∈ table.readFrom path, declaration.RecordedIn destination.sourceIds))

/-- Whether the aliases that a type leads through come from recorded sources. -/
def AliasesRecorded (table : SymbolTable) (ids : List String) (type : TypeExpr) : Prop :=
  ∀ name ∈ type.names, ∀ found ∈ table.aliasesFrom maxAliases name, found.RecordedIn ids

/-- Whether all that a path is read from comes from recorded sources. -/
structure PathRecorded (table : SymbolTable) (ids : List String) (path : AnnotationPath) : Prop where
  target : path.target.RecordedIn ids
  classes : ∀ written ∈ path.annotations.tail, ∀ found, table.find? written.type = some found → found.RecordedIn ids
  argumentsAliases : ∀ type, path.typeArgument? "navArgs" = some type →
    ∀ found ∈ table.aliasesFrom maxAliases type.qualified, found.RecordedIn ids
  argumentsClass : ∀ type, path.typeArgument? "navArgs" = some type → ∀ found, table.classOf? type = some found → found.RecordedIn ids
  supertypes : path.target.kind = .plainClass →
    ∀ type ∈ table.supertypesOf path.target, ∀ found, table.find? type.qualified = some found → found.RecordedIn ids
  types : ∀ type ∈ table.typesRead path, table.AliasesRecorded ids type

variable {table : SymbolTable} {ids : List String} {path : AnnotationPath}

theorem pathRecorded_of_readFrom (htarget : path.target.RecordedIn ids) (h : ∀ declaration ∈ table.readFrom path, declaration.RecordedIn ids) :
    table.PathRecorded ids path := by
  simp only [readFrom, List.forall_mem_append] at h
  obtain ⟨⟨⟨hclasses, harguments⟩, hsupertypes⟩, htypes⟩ := h
  have hnavArgs : ∀ type, path.typeArgument? "navArgs" = some type →
      ∀ found ∈ table.aliasesFrom maxAliases type.qualified ++ (table.classOf? type).toList, found.RecordedIn ids :=
    fun type htype found hfound => harguments found (List.mem_flatMap.2 ⟨type, Option.mem_toList.2 htype, hfound⟩)
  exact {
    target := htarget
    classes := fun written hwritten found hfound => hclasses found (List.mem_filterMap.2 ⟨written, hwritten, hfound⟩)
    argumentsAliases := fun type htype found hfound => hnavArgs type htype found (List.mem_append_left _ hfound)
    argumentsClass := fun type htype found hfound => hnavArgs type htype found (List.mem_append_right _ (Option.mem_toList.2 hfound))
    supertypes := fun hkind type htype found hfound =>
      hsupertypes found (by rw [if_pos hkind]; exact List.mem_filterMap.2 ⟨type, htype, hfound⟩)
    types := fun type htype name hname found hfound =>
      htypes found (List.mem_flatMap.2 ⟨name, TypeExpr.names_subset_namesOf htype hname, hfound⟩) }

/-! ## Nav types as they are shown -/

/-- What is shown of the nav type of a type that is neither an array nor a list: a primitive, or the name that is left when aliases are followed. -/
def shownSingle (table : SymbolTable) (type : TypeExpr) : NavType :=
  match Primitive.ofQualified? type.qualified with
  | some primitive => .primitive primitive
  | none => .enumeration (Name.ofQualified (table.endOfAliases maxAliases type.qualified))

/-- What is shown of the nav type of a type. -/
def shownNavType (table : SymbolTable) (type : TypeExpr) : NavType :=
  match Primitive.ofArrayQualified? type.qualified with
  | some primitive => .primitiveArray primitive
  | none =>
    if listTypes.contains type.qualified then .list (table.shownSingle (type.arguments.head?.getD type)) else table.shownSingle type

variable (hnames : (table.declarations.map (·.qualified)).Nodup)

include hnames

theorem shownSingle_recorded {type : TypeExpr} (h : ∀ found ∈ table.aliasesFrom maxAliases type.qualified, found.RecordedIn ids) :
    (table.recorded ids).shownSingle type = table.shownSingle type := by
  rw [shownSingle, shownSingle, endOfAliases_recorded hnames h]

/-- If the aliases in a type are recorded, then the recorded part tells what is shown of its nav type. -/
theorem shownNavType_recorded {type : TypeExpr} (h : table.AliasesRecorded ids type) :
    (table.recorded ids).shownNavType type = table.shownNavType type := by
  have helement : (type.arguments.head?.getD type).qualified ∈ type.names := by
    cases hhead : type.arguments.head? with
    | none => exact type.qualified_mem_names
    | some element => exact TypeExpr.names_subset_of_mem_arguments (List.mem_of_mem_head? hhead) element.qualified_mem_names
  unfold shownNavType
  rw [shownSingle_recorded hnames (h _ helement), shownSingle_recorded hnames (h _ type.qualified_mem_names)]

end SymbolTable

namespace TypeContext

variable {context : TypeContext} {type : TypeExpr} {navType : NavType}

/-- What is shown of the nav type of a class is its name. -/
theorem shown_of_classNavType? (hvalues : ∀ qualified serializer, context.registry.find? qualified = some serializer → serializer.value = Name.ofQualified qualified)
    {declaration : Declaration} (h : context.classNavType? declaration = some navType) :
    navType.shown = .enumeration (Name.ofQualified declaration.qualified) := by
  unfold classNavType? at h
  split at h
  · rename_i serializer hserializer
    cases h
    rw [NavType.shown, hvalues _ serializer hserializer]
  · split at h
    · cases h
      rfl
    · dsimp only at h
      split at h
      · cases h
        rfl
      · split at h
        · cases h
          rfl
        · contradiction

variable (hregistry : (SerializerRegistry.collect context.table.symbols).result = .ok context.registry)

include hregistry

/-- What is shown of the nav type of a type that is neither an array nor a list can be said without the serializers. -/
theorem shown_of_singleNavType (h : context.singleNavType type = .ok navType) : navType.shown = context.table.shownSingle type := by
  have haliasFree := SerializerRegistry.aliasFree_of_collect hregistry
  unfold singleNavType at h
  split at h
  · rename_i primitive hprimitive
    cases h
    rw [SymbolTable.shownSingle, hprimitive]
    rfl
  · rename_i hprimitive
    rw [SymbolTable.shownSingle, hprimitive]
    dsimp only
    split at h
    · rename_i serializer hserializer
      cases h
      have hname : context.table.endOfAliases SymbolTable.maxAliases type.qualified = type.qualified :=
        SymbolTable.endOfAliases_of_kind_ne (haliasFree _ serializer hserializer) _
      rw [hname, NavType.shown, SerializerRegistry.value_eq_of_collect hregistry hserializer]
    · split at h
      · rename_i hclass
        cases h
        obtain ⟨declaration, hdeclaration, hnavType⟩ := Option.bind_eq_some_iff.1 hclass
        rw [SymbolTable.endOfAliases_of_classOf? hdeclaration]
        exact shown_of_classNavType? (fun _ _ => SerializerRegistry.value_eq_of_collect hregistry) hnavType
      · contradiction

/-- So can what is shown of any nav type. -/
theorem shown_of_navType (h : context.navType type = .ok navType) : navType.shown = context.table.shownNavType type := by
  unfold TypeContext.navType at h
  split at h
  · rename_i primitive hprimitive
    unfold arrayNavType at h
    split at h
    · contradiction
    · cases h
      rw [SymbolTable.shownNavType, hprimitive]
      rfl
  · rename_i harray
    rw [SymbolTable.shownNavType, harray]
    dsimp only
    split at h
    · rename_i hlist
      rw [if_pos hlist]
      split at h
      · contradiction
      · rename_i element hhead
        obtain ⟨single, hsingle, rfl⟩ := map_eq_ok.1 h
        rw [hhead, NavType.shown, shown_of_singleNavType hregistry hsingle]
        rfl
    · rename_i hlist
      rw [if_neg hlist]
      exact shown_of_singleNavType hregistry h

end TypeContext

/-! ## Two readers -/

namespace DestinationReader

variable {reader : DestinationReader} {path : AnnotationPath} {argumentsClass? : Option Declaration}

theorem argumentsClass?_eq_ok (h : reader.argumentsClass? path = .ok argumentsClass?) :
    argumentsClass? = (path.typeArgument? "navArgs").bind reader.table.classOf? := by
  unfold DestinationReader.argumentsClass? at h
  split at h
  · rename_i htype
    cases h
    rw [htype, Option.bind_none]
  · rename_i type htype
    split at h
    · rename_i declaration hfound
      cases h
      rw [htype, Option.bind_some, hfound]
    · contradiction

/-- The parameters of the class that holds the arguments are read, or else those of the target. -/
theorem readParameters_eq (h : reader.argumentsClass? path = .ok argumentsClass?) :
    reader.readParameters path.target argumentsClass? =
      reader.parameters path.target.qualified none (reader.table.parametersRead path) := by
  rw [SymbolTable.parametersRead, ← argumentsClass?_eq_ok h]
  cases argumentsClass? with
  | some declaration => rfl
  | none =>
    unfold readParameters
    dsimp only
    split <;> rfl

end DestinationReader

/-- Whether two readers read tables that have the same recorded part, each with the serializers of its own table. -/
structure DestinationReader.ShareRecorded (ids : List String) (reader reader' : DestinationReader) : Prop where
  names : (reader.table.declarations.map (·.qualified)).Nodup
  names' : (reader'.table.declarations.map (·.qualified)).Nodup
  registry : (SerializerRegistry.collect reader.table.symbols).result = .ok reader.registry
  registry' : (SerializerRegistry.collect reader'.table.symbols).result = .ok reader'.registry
  recorded : reader.table.recorded ids = reader'.table.recorded ids

namespace DestinationReader.ShareRecorded

variable {ids : List String} {reader reader' : DestinationReader} {owner owner' : String}

/-- Whether the aliases that a type leads through are recorded for both readers. -/
def Knows (_ : ShareRecorded ids reader reader') (type : TypeExpr) : Prop :=
  reader.table.AliasesRecorded ids type ∧ reader'.table.AliasesRecorded ids type

variable (h : ShareRecorded ids reader reader')

theorem Knows.head? {h : ShareRecorded ids reader reader'} {type : TypeExpr} (hknows : h.Knows type) {argument : TypeExpr}
    (hhead : type.arguments.head? = some argument) : h.Knows argument := by
  have hsubset := TypeExpr.names_subset_of_mem_arguments (List.mem_of_mem_head? hhead)
  exact ⟨fun name hname => hknows.1 name (hsubset hname), fun name hname => hknows.2 name (hsubset hname)⟩

include h

/-- The same is shown of the nav types of a type. -/
theorem shown_navType_eq {type : TypeExpr} (hknows : h.Knows type) {argument argument' : String} {navType navType' : NavType}
    (hread : (reader.context owner argument).navType type = .ok navType)
    (hread' : (reader'.context owner' argument').navType type = .ok navType') : navType.shown = navType'.shown := by
  have hshown : navType.shown = reader.table.shownNavType type :=
    @TypeContext.shown_of_navType (reader.context owner argument) type navType h.registry hread
  have hshown' : navType'.shown = reader'.table.shownNavType type :=
    @TypeContext.shown_of_navType (reader'.context owner' argument') type navType' h.registry' hread'
  rw [hshown, hshown', ← SymbolTable.shownNavType_recorded h.names hknows.1, h.recorded,
    SymbolTable.shownNavType_recorded h.names' hknows.2]

theorem shown_resultSender_eq {type : TypeExpr} (hknows : h.Knows type) {result result' : ResultSender}
    (hread : reader.resultSender owner type = .ok result) (hread' : reader'.resultSender owner' type = .ok result') :
    result.shown = result'.shown := by
  obtain ⟨navType, hnavType, hread⟩ := bind_eq_ok.1 hread
  obtain ⟨navType', hnavType', hread'⟩ := bind_eq_ok.1 hread'
  cases hread
  cases hread'
  simp only [ResultSender.shown, h.shown_navType_eq hknows hnavType hnavType']

theorem shown_parameterResult_eq {parameter : Parameter} (hknows : h.Knows parameter.type) {result result' : ResultSender}
    (hread : reader.parameterResult owner parameter = .ok result) (hread' : reader'.parameterResult owner' parameter = .ok result') :
    result.shown = result'.shown := by
  unfold parameterResult at hread hread'
  cases hhead : parameter.type.arguments.head? with
  | none =>
    rw [hhead] at hread
    contradiction
  | some type =>
    rw [hhead] at hread hread'
    exact h.shown_resultSender_eq (hknows.head? hhead) hread hread'

theorem shown_argument_eq {parameter : Parameter} (hknows : h.Knows parameter.type) {argument argument' : Argument}
    (hread : reader.argument owner parameter = .ok argument) (hread' : reader'.argument owner' parameter = .ok argument') :
    argument.shown = argument'.shown := by
  unfold DestinationReader.argument at hread hread'
  split at hread
  · contradiction
  · rename_i hdefault
    rw [if_neg hdefault] at hread'
    obtain ⟨navType, hnavType, hread⟩ := bind_eq_ok.1 hread
    obtain ⟨navType', hnavType', hread'⟩ := bind_eq_ok.1 hread'
    cases hread
    cases hread'
    simp only [Argument.shown, h.shown_navType_eq hknows hnavType hnavType']

/-- The same is shown of what parameters give, if it is of the results before them. -/
theorem shown_parameters_eq {parameters : List Parameter} (hknows : ∀ parameter ∈ parameters, h.Knows parameter.type)
    {result? result?' : Option ResultSender} (hresult : result?.map ResultSender.shown = result?'.map ResultSender.shown)
    {read read' : ReadParameters} (hread : reader.parameters owner result? parameters = .ok read)
    (hread' : reader'.parameters owner' result?' parameters = .ok read') :
    read.arguments.map Argument.shown = read'.arguments.map Argument.shown ∧
      read.result?.map ResultSender.shown = read'.result?.map ResultSender.shown := by
  induction parameters generalizing result? result?' read read' with
  | nil =>
    cases hread
    cases hread'
    exact ⟨rfl, hresult⟩
  | cons parameter rest ih =>
    obtain ⟨hparameter, hrest⟩ := List.forall_mem_cons.1 hknows
    rw [DestinationReader.parameters] at hread hread'
    by_cases hsender : parameter.type.qualified = Library.resultBackNavigator
    · rw [if_pos hsender] at hread hread'
      obtain ⟨result, hnext, hread⟩ := bind_eq_ok.1 hread
      obtain ⟨result', hnext', hread'⟩ := bind_eq_ok.1 hread'
      refine ih hrest ?_ hread hread'
      rw [Option.map_some, Option.map_some, h.shown_parameterResult_eq hparameter hnext hnext']
    · rw [if_neg hsender] at hread hread'
      by_cases hsupplied : Library.suppliedParameters.contains parameter.type.qualified = true
      · rw [if_pos hsupplied] at hread hread'
        exact ih hrest hresult hread hread'
      · rw [if_neg hsupplied] at hread hread'
        obtain ⟨argument, hargument, hread⟩ := bind_eq_ok.1 hread
        obtain ⟨argument', hargument', hread'⟩ := bind_eq_ok.1 hread'
        obtain ⟨others, hothers, hread⟩ := bind_eq_ok.1 hread
        obtain ⟨others', hothers', hread'⟩ := bind_eq_ok.1 hread'
        cases hread
        cases hread'
        obtain ⟨harguments, hresults⟩ := ih hrest hresult hothers hothers'
        refine ⟨?_, hresults⟩
        rw [List.map_cons, List.map_cons, harguments, h.shown_argument_eq hparameter hargument hargument']

/-! ## Paths that are recorded -/

variable {path : AnnotationPath} (hpath : reader.table.PathRecorded ids path) (hpath' : reader'.table.PathRecorded ids path)

include hpath hpath'

/-- The same class holds the arguments. -/
theorem argumentsClass?_eq {argumentsClass? argumentsClass?' : Option Declaration} (hclass : reader.argumentsClass? path = .ok argumentsClass?)
    (hclass' : reader'.argumentsClass? path = .ok argumentsClass?') : argumentsClass? = argumentsClass?' := by
  unfold DestinationReader.argumentsClass? at hclass hclass'
  cases htype : path.typeArgument? "navArgs" with
  | none =>
    rw [htype] at hclass hclass'
    cases hclass
    cases hclass'
    rfl
  | some type =>
    rw [htype] at hclass hclass'
    dsimp only at hclass hclass'
    split at hclass
    · rename_i declaration hfound
      split at hclass'
      · rename_i declaration' hfound'
        cases hclass
        cases hclass'
        have hrecorded := SymbolTable.classOf?_recorded h.names hfound (hpath.argumentsAliases type htype)
          (hpath.argumentsClass type htype _ hfound)
        have hrecorded' := SymbolTable.classOf?_recorded h.names' hfound' (hpath'.argumentsAliases type htype)
          (hpath'.argumentsClass type htype _ hfound')
        rw [h.recorded] at hrecorded
        exact hrecorded.symm.trans hrecorded'
      · contradiction
    · contradiction

theorem supertypesOf_target_eq (hkind : path.target.kind = .plainClass) :
    reader.table.supertypesOf path.target = reader'.table.supertypesOf path.target := by
  rw [← SymbolTable.supertypesOf_recorded h.names (hpath.supertypes hkind), h.recorded,
    SymbolTable.supertypesOf_recorded h.names' (hpath'.supertypes hkind)]

theorem knows_of_mem_typesRead {type : TypeExpr} (hmem : type ∈ reader.table.typesRead path) (hmem' : type ∈ reader'.table.typesRead path) :
    h.Knows type :=
  ⟨hpath.types type hmem, hpath'.types type hmem'⟩

/-- The same is shown of the results of an activity. -/
theorem shown_activityResult_eq (hkind : path.target.kind = .plainClass) {result? result?' : Option ResultSender}
    (hread : reader.activityResult path.target = .ok result?) (hread' : reader'.activityResult path.target = .ok result?') :
    result?.map ResultSender.shown = result?'.map ResultSender.shown := by
  have hsupertypes := h.supertypesOf_target_eq hpath hpath' hkind
  unfold activityResult at hread hread'
  rw [← hsupertypes] at hread'
  cases hsender : (reader.table.supertypesOf path.target).find? (·.qualified == Library.activityResultSender) with
  | none =>
    rw [hsender] at hread hread'
    cases hread
    cases hread'
    rfl
  | some sender =>
    have hmem : sender ∈ reader.table.typesRead path := by simp [SymbolTable.typesRead, SymbolTable.senderRead, hkind, hsender]
    have hmem' : sender ∈ reader'.table.typesRead path := by
      simp [SymbolTable.typesRead, SymbolTable.senderRead, hkind, ← hsupertypes, hsender]
    rw [hsender] at hread hread'
    dsimp only at hread hread'
    cases hhead : sender.arguments.head? with
    | none =>
      rw [hhead] at hread
      contradiction
    | some type =>
      rw [hhead] at hread hread'
      obtain ⟨result, hresult, rfl⟩ := map_eq_ok.1 hread
      obtain ⟨result', hresult', rfl⟩ := map_eq_ok.1 hread'
      have hknows := (h.knows_of_mem_typesRead hpath hpath' hmem hmem').head? hhead
      rw [Option.map_some, Option.map_some, h.shown_resultSender_eq hknows hresult hresult']

/-- The same is shown of the destinations of a path that is read from recorded sources alone. -/
theorem shown_destination_eq {destination destination' : Destination} (hread : reader.destination path = .ok destination)
    (hread' : reader'.destination path = .ok destination') : destination.shown = destination'.shown := by
  obtain ⟨argumentsClass?, read, result?, links, hclass, hparameters, hresult, hlinks, rfl⟩ := destination_eq_ok hread
  obtain ⟨argumentsClass?', read', result?', links', hclass', hparameters', hresult', hlinks', rfl⟩ := destination_eq_ok hread'
  obtain rfl := h.argumentsClass?_eq hpath hpath' hclass hclass'
  obtain rfl := Except.ok.inj (hlinks.symm.trans hlinks')
  rw [readParameters_eq hclass] at hparameters
  rw [readParameters_eq hclass'] at hparameters'
  have hsame : reader.table.parametersRead path = reader'.table.parametersRead path := by
    rw [SymbolTable.parametersRead, SymbolTable.parametersRead, ← argumentsClass?_eq_ok hclass, ← argumentsClass?_eq_ok hclass']
  have hknows : ∀ parameter ∈ reader'.table.parametersRead path, h.Knows parameter.type := fun parameter hmem =>
    h.knows_of_mem_typesRead hpath hpath' (List.mem_append_left _ (List.mem_map_of_mem (hsame ▸ hmem)))
      (List.mem_append_left _ (List.mem_map_of_mem hmem))
  rw [hsame] at hparameters
  obtain ⟨harguments, hresults⟩ := h.shown_parameters_eq hknows rfl hparameters hparameters'
  have hresults : result?.map ResultSender.shown = result?'.map ResultSender.shown := by
    unfold resultOf at hresult hresult'
    by_cases hkind : path.target.kind = .plainClass
    · rw [if_pos hkind] at hresult hresult'
      exact h.shown_activityResult_eq hpath hpath' hkind hresult hresult'
    · rw [if_neg hkind] at hresult hresult'
      cases hresult
      cases hresult'
      exact hresults
  simp only [Destination.shown, harguments, hresults]

end DestinationReader.ShareRecorded

/-! ## Two passes -/

namespace SymbolTable

variable {table table' : SymbolTable} {ids : List String} {path : AnnotationPath}

theorem mem_of_recorded_eq (h : table.recorded ids = table'.recorded ids) {declaration : Declaration} (hmem : declaration ∈ table.declarations)
    (hrecorded : declaration.RecordedIn ids) : declaration ∈ table'.declarations := by
  have hsame := mem_recorded.2 ⟨hmem, hrecorded⟩
  rw [h] at hsame
  exact (mem_recorded.1 hsame).1

/-- A path of recorded declarations is also found in a table with the same recorded part. -/
theorem marksDestination_of_pathRecorded (hnames : (table.declarations.map (·.qualified)).Nodup)
    (hsame : table.recorded ids = table'.recorded ids) (hpath : table.PathRecorded ids path) (hmarks : table.MarksDestination path) :
    table'.MarksDestination path := by
  obtain ⟨kind, hkind, place, hplace⟩ := hmarks
  refine ⟨kind, hkind, hplace.exists_of_subset (mem_of_recorded_eq hsame hplace.target_mem hpath.target) fun declaration hmem hname => ?_⟩
  obtain ⟨written, hwritten, htype⟩ := List.mem_map.1 hname
  have hfound : table.find? written.type = some declaration := (find?_key_eq_some hnames).2 ⟨hmem, htype.symm⟩
  exact mem_of_recorded_eq hsame hmem (hpath.classes written hwritten declaration hfound)

end SymbolTable

namespace Model

/-- The destinations of a model that is assembled from a table are those of its paths to destinations, all of which are found. -/
theorem exists_destinations_of_assemble? {table : SymbolTable} {model : Model} (h : (assemble? table.symbols).result = .ok (some model)) :
    ∃ reader : DestinationReader, reader.table = table ∧ (SerializerRegistry.collect table.symbols).result = .ok reader.registry ∧
      (∀ path, path ∈ table.destinationPaths ↔ table.MarksDestination path) ∧
      (∀ destination ∈ model.destinations, ∃ path ∈ table.destinationPaths, reader.destination path = .ok destination) ∧
      ∀ path ∈ table.destinationPaths, ∃ destination ∈ model.destinations, reader.destination path = .ok destination := by
  obtain ⟨composables, activities, reader, destinations, _, hcomposables, hactivities, htable, hregistry, hread, -, hperm, -⟩ :=
    stages_of_assemble? h
  have hpaths : table.destinationPaths = composables ++ activities := by
    rw [SymbolTable.destinationPaths, hcomposables, hactivities]
    rfl
  rw [hpaths]
  refine ⟨reader, htable, hregistry, fun path => SymbolTable.mem_paths_iff_marksDestination hcomposables hactivities,
    fun destination hmem => exists_of_mem_mapM hread (hperm.mem_iff.1 hmem), fun path hpath => ?_⟩
  obtain ⟨destination, hmem, hdestination⟩ := exists_value_of_mapM hread hpath
  exact ⟨destination, hperm.mem_iff.2 hmem, hdestination⟩

end Model

namespace Config

variable {config : Config} {table table' : SymbolTable} {generation generation' : Generation}

/-- A package that is given is that of all that is generated. -/
theorem package_of_generation? {package : String} (hpackage : config.package? = some package)
    (h : config.generation? table = some generation) : generation.package = package := by
  obtain ⟨model, -, -, rfl⟩ := generation?_eq_some_iff.1 h
  change config.resolvePackage model.declaredPackages = package
  rw [resolvePackage, hpackage]

/-- Two passes with the same given package generate the same content for a destination if they record the same sources for it, their tables differ in
no declaration from a recorded source or from none, and both record all that the destination is read from. -/
theorem content_eq_of_recordsSources {package : String} (hpackage : config.package? = some package)
    (hnames : (table.declarations.map (·.qualified)).Nodup) (hnames' : (table'.declarations.map (·.qualified)).Nodup)
    (hgeneration : config.generation? table = some generation) (hgeneration' : config.generation? table' = some generation')
    {destination destination' : Destination} (hmem : destination ∈ generation.model.destinations)
    (hmem' : destination' ∈ generation'.model.destinations)
    (hpath : (generation.destinationFile destination).path = (generation'.destinationFile destination').path)
    (hids : (generation.destinationFile destination).sourceIds = (generation'.destinationFile destination').sourceIds)
    (hsame : table.recorded destination.sourceIds = table'.recorded destination.sourceIds)
    (hrecords : table.RecordsSources destination) (hrecords' : table'.RecordsSources destination') :
    (generation.destinationFile destination).content = (generation'.destinationFile destination').content := by
  have hpackages : generation.package = generation'.package :=
    (package_of_generation? hpackage hgeneration).trans (package_of_generation? hpackage hgeneration').symm
  have hname : destination.name = destination'.name := by
    refine generation.pathBelow_injective "destinations" (hpath.trans ?_)
    change relativePath (generation'.package ++ "." ++ "destinations") destination'.name "kt" =
      relativePath (generation.package ++ "." ++ "destinations") destination'.name "kt"
    rw [hpackages]
  refine Generation.content_destinationFile_eq hpackages ?_
  obtain ⟨model, hassembled, -, rfl⟩ := generation?_eq_some_iff.1 hgeneration
  obtain ⟨model', hassembled', hvalid', rfl⟩ := generation?_eq_some_iff.1 hgeneration'
  obtain ⟨reader, rfl, hregistry, hpaths, hdestinations, -⟩ := Model.exists_destinations_of_assemble? hassembled
  obtain ⟨reader', rfl, hregistry', hpaths', -, hdestinations'⟩ := Model.exists_destinations_of_assemble? hassembled'
  obtain ⟨path, hfound, hread⟩ := hdestinations destination hmem
  have hrecorded : reader.table.PathRecorded destination.sourceIds path := by
    obtain ⟨_, _, _, _, -, -, -, -, rfl⟩ := DestinationReader.destination_eq_ok hread
    exact SymbolTable.pathRecorded_of_readFrom (fun id hid => hid) (hrecords path hfound rfl)
  -- the path is found in the other table, too, where it gives the one destination of that name
  have hmarks' := SymbolTable.marksDestination_of_pathRecorded hnames hsame hrecorded ((hpaths path).1 hfound)
  obtain ⟨other, hother, hread'⟩ := hdestinations' path ((hpaths' path).2 hmarks')
  have hotherName : other.name = destination'.name := by
    rw [← hname]
    obtain ⟨_, _, _, _, -, -, -, -, rfl⟩ := DestinationReader.destination_eq_ok hread
    obtain ⟨_, _, _, _, -, -, -, -, rfl⟩ := DestinationReader.destination_eq_ok hread'
    rfl
  have hdistinct := ((Model.isValid_iff_wellFormed model').1 hvalid').names.destinationNames
  obtain rfl : other = destination' := List.inj_on_of_nodup_map hdistinct hother hmem' hotherName
  have hrecorded' : reader'.table.PathRecorded other.sourceIds path := by
    obtain ⟨_, _, _, _, -, -, -, -, rfl⟩ := DestinationReader.destination_eq_ok hread'
    exact SymbolTable.pathRecorded_of_readFrom (fun id hid => hid) (hrecords' path ((hpaths' path).2 hmarks') rfl)
  have hidsEq : destination.sourceIds = other.sourceIds := hids
  rw [hidsEq] at hrecorded hsame
  have hshare : DestinationReader.ShareRecorded other.sourceIds reader reader' := ⟨hnames, hnames', hregistry, hregistry', hsame⟩
  exact hshare.shown_destination_eq hrecorded hrecorded' hread hread'

/-- What can be decided of what is generated for a table holds of it. -/
theorem exists_generation (config : Config) (table : SymbolTable) (p : Generation → Prop) [DecidablePred p]
    (h : (config.generation? table).any (fun generation => decide (p generation)) = true) :
    ∃ generation, config.generation? table = some generation ∧ p generation := by
  obtain ⟨generation, hgeneration, hp⟩ := (Option.any_eq_true _ _).1 h
  exact ⟨generation, hgeneration, of_decide_eq_true hp⟩

/-- The configuration with a package. -/
def inApp : Config :=
  { default with package? := some "app" }

/-- A screen from a source of its own that has an argument of a type from another source. -/
def sourcedTable (type : Declaration) : SymbolTable :=
  { declarations := [
      { homeScreen with
        parameters := [{ name := "mode", type := .plain "app.Mode", default? := none }]
        sourceId? := some "Home.kt" },
      { type with qualified := "app.Mode", sourceId? := some "Mode.kt" }] }

/-- An enumeration that becomes a class does not change the screen, although its source is not recorded. -/
theorem content_eq_of_recordsSources_mode :
    let enumeration := sourcedTable { qualified := "", kind := .enumClass }
    let serializable := sourcedTable { qualified := "", kind := .plainClass, supertypes := [.plain Library.serializable] }
    ∃ generation generation', inApp.generation? enumeration = some generation ∧ inApp.generation? serializable = some generation' ∧
      ∃ destination ∈ generation.model.destinations, ∃ destination' ∈ generation'.model.destinations,
        destination.sourceIds = ["Home.kt"] ∧ destination.arguments.map (·.navType) ≠ destination'.arguments.map (·.navType) ∧
          (generation.destinationFile destination).content = (generation'.destinationFile destination').content := by
  intro enumeration serializable
  obtain ⟨generation, hgeneration, destination, hmem, hids, hpath, hsame, hrecords, hnavTypes⟩ := exists_generation inApp enumeration
    (fun generation => ∃ destination ∈ generation.model.destinations, destination.sourceIds = ["Home.kt"] ∧
      (generation.destinationFile destination).path = "app/destinations/HomeScreenDestination.kt" ∧
      (enumeration.recorded destination.sourceIds).declarations.length = 1 ∧ enumeration.RecordsSources destination ∧
      destination.arguments.map (·.navType) = [.enumeration (Name.ofQualified "app.Mode")]) (by decide +kernel)
  obtain ⟨generation', hgeneration', destination', hmem', hids', hpath', hsame', hrecords', hnavTypes'⟩ := exists_generation inApp serializable
    (fun generation => ∃ destination ∈ generation.model.destinations, destination.sourceIds = ["Home.kt"] ∧
      (generation.destinationFile destination).path = "app/destinations/HomeScreenDestination.kt" ∧
      (serializable.recorded destination.sourceIds).declarations.length = 1 ∧ serializable.RecordsSources destination ∧
      destination.arguments.map (·.navType) = [.serializable (Name.ofQualified "app.Mode")]) (by decide +kernel)
  have hrecorded : enumeration.recorded destination.sourceIds = serializable.recorded destination.sourceIds := by
    rw [hids]
    rfl
  refine ⟨generation, generation', hgeneration, hgeneration', destination, hmem, destination', hmem', hids, ?_, ?_⟩
  · rw [hnavTypes, hnavTypes']
    decide
  · exact content_eq_of_recordsSources rfl (by decide +kernel) (by decide +kernel) hgeneration hgeneration' hmem hmem'
      (hpath.trans hpath'.symm) (hids.trans hids'.symm) hrecorded hrecords hrecords'

/-- An activity from a source of its own, and what is declared besides it. -/
def pickTable (others : List Declaration) : SymbolTable :=
  { declarations := {
      qualified := "app.PickActivity"
      kind := .plainClass
      annotations := [{ type := Library.activityDestination, typeArguments := [], arguments := [("start", .bool true)] }]
      supertypes := [.plain "app.BaseActivity"]
      sourceId? := some "Pick.kt" } :: others }

/-- The class that the activity inherits from, which sends a result. -/
def baseActivity : Declaration :=
  { qualified := "app.BaseActivity"
    kind := .plainClass
    supertypes := [{ qualified := Library.activityResultSender, nullable := false, arguments := [.plain "kotlin.String"] }]
    sourceId? := some "Base.kt" }

/-- That the content of a destination is determined by the sources that are recorded for it is false in general: a class that an activity inherits from
can change it, whose source is not recorded. -/
theorem content_eq_of_recorded_false :
    ¬∀ (config : Config) (package : String) (table table' : SymbolTable) (generation generation' : Generation),
      config.package? = some package → (table.declarations.map (·.qualified)).Nodup → (table'.declarations.map (·.qualified)).Nodup →
      config.generation? table = some generation → config.generation? table' = some generation' →
      ∀ destination ∈ generation.model.destinations, ∀ destination' ∈ generation'.model.destinations,
        (generation.destinationFile destination).path = (generation'.destinationFile destination').path →
        (generation.destinationFile destination).sourceIds = (generation'.destinationFile destination').sourceIds →
        table.recorded destination.sourceIds = table'.recorded destination.sourceIds →
          (generation.destinationFile destination).content = (generation'.destinationFile destination').content := by
  intro hclaim
  obtain ⟨generation, hgeneration, destination, hmem, hids, hpath, hsize⟩ := exists_generation inApp (pickTable [])
    (fun generation => ∃ destination ∈ generation.model.destinations, destination.sourceIds = ["Pick.kt"] ∧
      (generation.destinationFile destination).path = "app/destinations/PickActivityDestination.kt" ∧
      (generation.destinationFile destination).content.utf8ByteSize = 787) (by decide +kernel)
  obtain ⟨generation', hgeneration', destination', hmem', hids', hpath', hsize'⟩ := exists_generation inApp (pickTable [baseActivity])
    (fun generation => ∃ destination ∈ generation.model.destinations, destination.sourceIds = ["Pick.kt"] ∧
      (generation.destinationFile destination).path = "app/destinations/PickActivityDestination.kt" ∧
      787 < (SourceFile.header ++ (generation.destinationSource destination).packageText).utf8ByteSize
        + (Layout.textFrom 0 (generation.destinationSource destination).body.layout).utf8ByteSize) (by decide +kernel)
  have hsame : (pickTable []).recorded destination.sourceIds = (pickTable [baseActivity]).recorded destination.sourceIds := by
    have hbase : ¬decide (baseActivity.RecordedIn ["Pick.kt"]) = true := by decide
    simp only [hids, SymbolTable.recorded, pickTable, List.filter_cons, if_neg hbase, List.filter_nil]
  have heq := hclaim inApp "app" _ _ generation generation' rfl (by decide +kernel) (by decide +kernel) hgeneration hgeneration' destination hmem
    destination' hmem' (hpath.trans hpath'.symm) (hids.trans hids'.symm) hsame
  have hlonger : 787 < (generation'.destinationFile destination').content.utf8ByteSize := hsize'.trans_le (SourceFile.le_utf8ByteSize_text _)
  rw [← heq, hsize] at hlonger
  exact lt_irrefl _ hlonger

end Config

end NavGen
