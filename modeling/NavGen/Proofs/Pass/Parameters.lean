import NavGen.Proofs.Pass.AssembledModel
import NavGen.Proofs.Pass.RecordedSources

/-!
# Parameters of destinations

The parameters that a destination is read from are of three kinds: what the navigation runtime supplies, what sends a result back, and all others,
which are the arguments. Reading them keeps the arguments as they are written, and of those that send a result the last counts. It fails exactly if
one of them cannot be read. All of this is about the list of parameters that is read. If a class is named for the arguments, then its parameters are
read in place of those of the target, so a result that the target sends is lost unless the class sends one too.
-/

namespace NavGen

/-! ## Types as they are kept -/

namespace TypeExpr

/-- Whether a type of the model is a written one, with the same name and nullability, and so are its arguments one by one. -/
inductive IsUsedAs : TypeExpr → TypeUse → Prop where
  | intro {written : TypeExpr} {type : TypeUse} (name : type.name = written.name) (nullable : type.nullable = written.nullable)
      (arguments : List.Forall₂ IsUsedAs written.arguments type.arguments) : IsUsedAs written type

mutual

/-- Types are kept as they are written. -/
theorem isUsedAs_typeUse : (written : TypeExpr) → written.IsUsedAs written.typeUse
  | ⟨qualified, nullable, arguments⟩ => by
    rw [typeUse]
    exact .intro rfl rfl (forall₂_typeUses arguments)

theorem forall₂_typeUses : (written : List TypeExpr) → List.Forall₂ IsUsedAs written (typeUses written)
  | [] => by
    rw [typeUses]
    exact .nil
  | type :: rest => by
    rw [typeUses]
    exact .cons (isUsedAs_typeUse type) (forall₂_typeUses rest)

end

end TypeExpr

/-! ## Kinds of parameters -/

namespace Parameter

/-- Whether a parameter sends a result back. -/
def SendsResult (parameter : Parameter) : Prop :=
  parameter.type.qualified = Library.resultBackNavigator

/-- Whether a parameter is supplied by the navigation runtime, and not in order to send a result back. -/
def IsSupplied (parameter : Parameter) : Prop :=
  ¬parameter.SendsResult ∧ parameter.type.qualified ∈ Library.suppliedParameters

/-- Whether a parameter is an argument: it neither sends a result back nor is it supplied by the navigation runtime. -/
def IsArgument (parameter : Parameter) : Prop :=
  ¬parameter.SendsResult ∧ parameter.type.qualified ∉ Library.suppliedParameters

instance : DecidablePred SendsResult := fun parameter =>
  inferInstanceAs (Decidable (parameter.type.qualified = Library.resultBackNavigator))

instance : DecidablePred IsArgument := fun parameter =>
  inferInstanceAs (Decidable (¬parameter.SendsResult ∧ parameter.type.qualified ∉ Library.suppliedParameters))

/-- Each parameter is of one of the kinds. -/
theorem kinds (parameter : Parameter) : parameter.SendsResult ∨ parameter.IsArgument ∨ parameter.IsSupplied := by
  by_cases hsends : parameter.SendsResult
  · exact .inl hsends
  · by_cases hsupplied : parameter.type.qualified ∈ Library.suppliedParameters
    · exact .inr (.inr ⟨hsends, hsupplied⟩)
    · exact .inr (.inl ⟨hsends, hsupplied⟩)

variable {parameter : Parameter} {rest : List Parameter}

theorem SendsResult.not_isArgument (h : parameter.SendsResult) : ¬parameter.IsArgument :=
  fun hargument => hargument.1 h

theorem IsSupplied.not_isArgument (h : parameter.IsSupplied) : ¬parameter.IsArgument :=
  fun hargument => hargument.2 h.2

/-- The parameters of a list that are arguments. -/
def argumentsOf (parameters : List Parameter) : List Parameter :=
  parameters.filter fun parameter => parameter.IsArgument

/-- The parameters of a list that send a result back. -/
def sendersOf (parameters : List Parameter) : List Parameter :=
  parameters.filter fun parameter => parameter.SendsResult

theorem mem_argumentsOf {parameters : List Parameter} :
    parameter ∈ argumentsOf parameters ↔ parameter ∈ parameters ∧ parameter.IsArgument := by
  simp [argumentsOf]

theorem mem_sendersOf {parameters : List Parameter} :
    parameter ∈ sendersOf parameters ↔ parameter ∈ parameters ∧ parameter.SendsResult := by
  simp [sendersOf]

theorem argumentsOf_cons_of_pos (h : parameter.IsArgument) : argumentsOf (parameter :: rest) = parameter :: argumentsOf rest :=
  List.filter_cons_of_pos (decide_eq_true h)

theorem argumentsOf_cons_of_neg (h : ¬parameter.IsArgument) : argumentsOf (parameter :: rest) = argumentsOf rest :=
  List.filter_cons_of_neg (by simpa using h)

theorem sendersOf_cons_of_pos (h : parameter.SendsResult) : sendersOf (parameter :: rest) = parameter :: sendersOf rest :=
  List.filter_cons_of_pos (decide_eq_true h)

theorem sendersOf_cons_of_neg (h : ¬parameter.SendsResult) : sendersOf (parameter :: rest) = sendersOf rest :=
  List.filter_cons_of_neg (by simpa using h)

end Parameter

namespace DestinationReader

/-- Whether an argument is what a parameter says: of the same name and default, of the type that is written, and of the nav type of that type. -/
structure IsArgumentOf (reader : DestinationReader) (owner : String) (parameter : Parameter) (argument : Argument) : Prop where
  name : argument.name = parameter.name
  type : parameter.type.IsUsedAs argument.type
  default : argument.default? = parameter.default?
  navType : (reader.context owner parameter.name).navType parameter.type = .ok argument.navType

/-- Whether a result is the one that a parameter sends: of the type that is its first type argument, and of the nav type of that type. -/
structure IsResultOf (reader : DestinationReader) (owner : String) (parameter : Parameter) (result : ResultSender) : Prop where
  sends : parameter.SendsResult
  type : ∃ written, parameter.type.arguments.head? = some written ∧ written.IsUsedAs result.type ∧
    (reader.context owner "result").navType written = .ok result.navType

/-- Whether a parameter cannot be read, for a reason that an error gives. -/
inductive Refuses (reader : DestinationReader) (owner : String) (parameter : Parameter) : SetupError → Prop where
  | blankDefault (isArgument : parameter.IsArgument) {default : String} (written : parameter.default? = some default)
      (blank : Text.isBlank default = true) : Refuses reader owner parameter { declaration := owner, fault := .unreadableDefault parameter.name }
  | unmappedType (isArgument : parameter.IsArgument) {error : SetupError}
      (unmapped : (reader.context owner parameter.name).navType parameter.type = .error error) : Refuses reader owner parameter error
  | noResultType (sends : parameter.SendsResult) (unwritten : parameter.type.arguments.head? = none) :
      Refuses reader owner parameter { declaration := owner, fault := .noResultType parameter.name }
  | unmappedResult (sends : parameter.SendsResult) {type : TypeExpr} (written : parameter.type.arguments.head? = some type) {error : SetupError}
      (unmapped : (reader.context owner "result").navType type = .error error) : Refuses reader owner parameter error

variable {reader : DestinationReader} {owner : String} {parameter : Parameter} {error : SetupError}

/-! ## Reading one parameter -/

theorem argument_eq_ok {argument : Argument} (h : reader.argument owner parameter = .ok argument) :
    parameter.default?.any Text.isBlank = false ∧ reader.IsArgumentOf owner parameter argument := by
  unfold DestinationReader.argument at h
  split at h
  · contradiction
  · rename_i hdefault
    obtain ⟨navType, hnavType, h⟩ := bind_eq_ok.1 h
    cases h
    exact ⟨Bool.eq_false_of_not_eq_true hdefault, rfl, parameter.type.isUsedAs_typeUse, rfl, hnavType⟩

theorem refuses_of_argument (hargument : parameter.IsArgument) (h : reader.argument owner parameter = .error error) :
    reader.Refuses owner parameter error := by
  unfold DestinationReader.argument at h
  split at h
  · rename_i hdefault
    obtain ⟨default, hwritten, hblank⟩ := (Option.any_eq_true _ _).1 hdefault
    cases h
    exact .blankDefault hargument hwritten hblank
  · rcases bind_eq_error.1 h with hunmapped | ⟨navType, -, h⟩
    · exact .unmappedType hargument hunmapped
    · contradiction

theorem isResultOf_of_parameterResult (hsends : parameter.SendsResult) {result : ResultSender}
    (h : reader.parameterResult owner parameter = .ok result) : reader.IsResultOf owner parameter result := by
  unfold parameterResult at h
  split at h
  · contradiction
  · rename_i written hwritten
    obtain ⟨navType, hnavType, h⟩ := bind_eq_ok.1 h
    cases h
    exact ⟨hsends, written, hwritten, written.isUsedAs_typeUse, hnavType⟩

theorem refuses_of_parameterResult (hsends : parameter.SendsResult) (h : reader.parameterResult owner parameter = .error error) :
    reader.Refuses owner parameter error := by
  unfold parameterResult at h
  split at h
  · rename_i hunwritten
    cases h
    exact .noResultType hsends hunwritten
  · rename_i written hwritten
    rcases bind_eq_error.1 h with hunmapped | ⟨navType, -, h⟩
    · exact .unmappedResult hsends hwritten hunmapped
    · contradiction

/-- A parameter that cannot be read gives neither an argument nor a result, whichever it should give. -/
theorem Refuses.not_read (h : reader.Refuses owner parameter error) :
    (parameter.IsArgument ∧ ∀ argument, reader.argument owner parameter ≠ .ok argument) ∨
      (parameter.SendsResult ∧ ∀ result, reader.parameterResult owner parameter ≠ .ok result) := by
  cases h with
  | blankDefault isArgument written blank =>
    refine .inl ⟨isArgument, fun argument hargument => ?_⟩
    have hdefault := (argument_eq_ok hargument).1
    rw [written, Option.any_some, blank] at hdefault
    contradiction
  | unmappedType isArgument unmapped =>
    refine .inl ⟨isArgument, fun argument hargument => ?_⟩
    have hnavType := (argument_eq_ok hargument).2.navType
    rw [unmapped] at hnavType
    contradiction
  | noResultType sends unwritten =>
    refine .inr ⟨sends, fun result hresult => ?_⟩
    obtain ⟨written, hwritten, -⟩ := (isResultOf_of_parameterResult sends hresult).type
    rw [unwritten] at hwritten
    contradiction
  | unmappedResult sends written unmapped =>
    refine .inr ⟨sends, fun result hresult => ?_⟩
    obtain ⟨type, hwritten, -, hnavType⟩ := (isResultOf_of_parameterResult sends hresult).type
    rw [written] at hwritten
    rw [← Option.some.inj hwritten, unmapped] at hnavType
    contradiction

/-! ## Reading a list of parameters -/

section

variable {result? : Option ResultSender} {rest : List Parameter}

theorem parameters_cons_of_sendsResult (h : parameter.SendsResult) :
    reader.parameters owner result? (parameter :: rest) =
      reader.parameterResult owner parameter >>= fun result => reader.parameters owner (some result) rest := by
  rw [parameters]
  exact if_pos h

theorem parameters_cons_of_isArgument (h : parameter.IsArgument) :
    reader.parameters owner result? (parameter :: rest) =
      reader.argument owner parameter >>= fun argument =>
        reader.parameters owner result? rest >>= fun others => .ok { others with arguments := argument :: others.arguments } := by
  have hsends : ¬parameter.type.qualified = Library.resultBackNavigator := h.1
  rw [parameters, if_neg hsends, if_neg (mt List.contains_iff_mem.1 h.2)]
  rfl

theorem parameters_cons_of_isSupplied (h : parameter.IsSupplied) :
    reader.parameters owner result? (parameter :: rest) = reader.parameters owner result? rest := by
  have hsends : ¬parameter.type.qualified = Library.resultBackNavigator := h.1
  rw [parameters, if_neg hsends, if_pos (List.contains_iff_mem.2 h.2)]

/-- What is read of some parameters after a result: the arguments one by one, and the last result that is sent, or else the one before. -/
structure Gives (reader : DestinationReader) (owner : String) (result? : Option ResultSender) (parameters : List Parameter)
    (read : ReadParameters) : Prop where
  arguments : (Parameter.argumentsOf parameters).mapM (reader.argument owner) = .ok read.arguments
  result : ∃ results, (Parameter.sendersOf parameters).mapM (reader.parameterResult owner) = .ok results ∧
    read.result? = results.getLast?.or result?

variable {read : ReadParameters}

theorem gives_nil_iff : reader.Gives owner result? [] read ↔ read = { arguments := [], result? } := by
  constructor
  · obtain ⟨arguments, last?⟩ := read
    rintro ⟨harguments, results, hresults, hlast⟩
    cases harguments
    cases hresults
    cases hlast
    rfl
  · rintro rfl
    exact ⟨rfl, [], rfl, rfl⟩

/-- A result that is sent counts in place of the one before. -/
theorem gives_cons_of_sendsResult (h : parameter.SendsResult) :
    reader.Gives owner result? (parameter :: rest) read ↔
      ∃ result, reader.parameterResult owner parameter = .ok result ∧ reader.Gives owner (some result) rest read := by
  have hlater (result : ResultSender) (results : List ResultSender) :
      (result :: results).getLast?.or result? = results.getLast?.or (some result) := by
    rw [List.getLast?_cons, Option.or_some, Option.some_or]
  constructor
  · rintro ⟨harguments, results, hresults, hlast⟩
    rw [Parameter.argumentsOf_cons_of_neg h.not_isArgument] at harguments
    rw [Parameter.sendersOf_cons_of_pos h] at hresults
    obtain ⟨result, others, hresult, hothers, rfl⟩ := mapM_cons_eq_ok.1 hresults
    exact ⟨result, hresult, harguments, others, hothers, hlast.trans (hlater result others)⟩
  · rintro ⟨result, hresult, harguments, others, hothers, hlast⟩
    refine ⟨?_, result :: others, ?_, hlast.trans (hlater result others).symm⟩
    · rw [Parameter.argumentsOf_cons_of_neg h.not_isArgument]
      exact harguments
    · rw [Parameter.sendersOf_cons_of_pos h]
      exact mapM_cons_eq_ok.2 ⟨result, others, hresult, hothers, rfl⟩

/-- An argument stands before those of the other parameters. -/
theorem gives_cons_of_isArgument (h : parameter.IsArgument) :
    reader.Gives owner result? (parameter :: rest) read ↔
      ∃ argument, reader.argument owner parameter = .ok argument ∧
        ∃ others, reader.Gives owner result? rest others ∧ { others with arguments := argument :: others.arguments } = read := by
  constructor
  · rintro ⟨harguments, hresult⟩
    rw [Parameter.argumentsOf_cons_of_pos h] at harguments
    rw [Parameter.sendersOf_cons_of_neg h.1] at hresult
    obtain ⟨argument, others, hargument, hothers, hcons⟩ := mapM_cons_eq_ok.1 harguments
    refine ⟨argument, hargument, { arguments := others, result? := read.result? }, ⟨hothers, hresult⟩, ?_⟩
    rw [← hcons]
  · rintro ⟨argument, hargument, others, ⟨hothers, hresult⟩, rfl⟩
    refine ⟨?_, ?_⟩
    · rw [Parameter.argumentsOf_cons_of_pos h]
      exact mapM_cons_eq_ok.2 ⟨argument, others.arguments, hargument, hothers, rfl⟩
    · rw [Parameter.sendersOf_cons_of_neg h.1]
      exact hresult

/-- What is supplied gives nothing. -/
theorem gives_cons_of_isSupplied (h : parameter.IsSupplied) :
    reader.Gives owner result? (parameter :: rest) read ↔ reader.Gives owner result? rest read := by
  constructor
  · rintro ⟨harguments, hresult⟩
    rw [Parameter.argumentsOf_cons_of_neg h.not_isArgument] at harguments
    rw [Parameter.sendersOf_cons_of_neg h.1] at hresult
    exact ⟨harguments, hresult⟩
  · rintro ⟨harguments, hresult⟩
    rw [← Parameter.argumentsOf_cons_of_neg h.not_isArgument] at harguments
    rw [← Parameter.sendersOf_cons_of_neg h.1] at hresult
    exact ⟨harguments, hresult⟩

/-- Parameters can be read exactly if all arguments and all results can be, and give just these. -/
theorem parameters_eq_ok_iff {parameters : List Parameter} :
    reader.parameters owner result? parameters = .ok read ↔ reader.Gives owner result? parameters read := by
  -- the result so far is handed on, so it is not the same for all parameters
  induction parameters generalizing result? read with
  | nil =>
    rw [gives_nil_iff, DestinationReader.parameters, Except.ok.injEq]
    exact eq_comm
  | cons parameter rest ih =>
    rcases parameter.kinds with hsends | hargument | hsupplied
    · rw [parameters_cons_of_sendsResult hsends, bind_eq_ok, gives_cons_of_sendsResult hsends]
      simp only [ih]
    · rw [parameters_cons_of_isArgument hargument, gives_cons_of_isArgument hargument]
      simp only [bind_eq_ok, ih, Except.ok.injEq]
    · rw [parameters_cons_of_isSupplied hsupplied, gives_cons_of_isSupplied hsupplied]
      exact ih

/-- If parameters cannot be read, then one of them cannot be for the reason that is given. -/
theorem exists_refuses_of_parameters {parameters : List Parameter} (h : reader.parameters owner result? parameters = .error error) :
    ∃ parameter ∈ parameters, reader.Refuses owner parameter error := by
  induction parameters generalizing result? with
  | nil => contradiction
  | cons parameter rest ih =>
    have hlater {result? : Option ResultSender} (h : reader.parameters owner result? rest = .error error) :
        ∃ refused ∈ parameter :: rest, reader.Refuses owner refused error := by
      obtain ⟨refused, hmem, hrefuses⟩ := ih h
      exact ⟨refused, List.mem_cons_of_mem parameter hmem, hrefuses⟩
    rcases parameter.kinds with hsends | hargument | hsupplied
    · rw [parameters_cons_of_sendsResult hsends] at h
      rcases bind_eq_error.1 h with hresult | ⟨result, -, hrest⟩
      · exact ⟨parameter, List.mem_cons_self, refuses_of_parameterResult hsends hresult⟩
      · exact hlater hrest
    · rw [parameters_cons_of_isArgument hargument] at h
      rcases bind_eq_error.1 h with hread | ⟨argument, -, h⟩
      · exact ⟨parameter, List.mem_cons_self, refuses_of_argument hargument hread⟩
      · rcases bind_eq_error.1 h with hrest | ⟨others, -, h⟩
        · exact hlater hrest
        · contradiction
    · rw [parameters_cons_of_isSupplied hsupplied] at h
      exact hlater h

/-- If one of some parameters cannot be read, then they cannot be. -/
theorem Refuses.parameters_ne_ok {parameters : List Parameter} (h : reader.Refuses owner parameter error) (hmem : parameter ∈ parameters) :
    reader.parameters owner result? parameters ≠ .ok read := by
  intro hread
  obtain ⟨harguments, results, hresults, -⟩ := parameters_eq_ok_iff.1 hread
  rcases h.not_read with ⟨hargument, hunread⟩ | ⟨hsends, hunread⟩
  · obtain ⟨argument, -, hargument⟩ := exists_value_of_mapM harguments (Parameter.mem_argumentsOf.2 ⟨hmem, hargument⟩)
    exact hunread argument hargument
  · obtain ⟨result, -, hresult⟩ := exists_value_of_mapM hresults (Parameter.mem_sendersOf.2 ⟨hmem, hsends⟩)
    exact hunread result hresult

/-- Parameters cannot be read exactly if one of them cannot be. -/
theorem exists_parameters_eq_error_iff {parameters : List Parameter} :
    (∃ error, reader.parameters owner result? parameters = .error error) ↔
      ∃ parameter ∈ parameters, ∃ error, reader.Refuses owner parameter error := by
  constructor
  · rintro ⟨error, h⟩
    obtain ⟨parameter, hmem, hrefuses⟩ := exists_refuses_of_parameters h
    exact ⟨parameter, hmem, error, hrefuses⟩
  · rintro ⟨parameter, hmem, error, hrefuses⟩
    cases h : reader.parameters owner result? parameters with
    | error error' => exact ⟨error', rfl⟩
    | ok read => exact absurd h (hrefuses.parameters_ne_ok hmem)

end

/-! ## Arguments -/

/-- Whether the arguments of an annotation path are read as they are written: each parameter that is an argument gives one, in order, and reading them
fails, for a reason that one of them gives, exactly if one of them cannot be read. -/
structure KeepsArguments (reader : DestinationReader) (path : AnnotationPath) : Prop where
  kept : ∀ destination, reader.destination path = .ok destination →
    List.Forall₂ (reader.IsArgumentOf path.target.qualified)
      (Parameter.argumentsOf (reader.table.parametersRead path)) destination.arguments
  fails_iff : ∀ argumentsClass?, reader.argumentsClass? path = .ok argumentsClass? →
    ((∃ error, reader.readParameters path.target argumentsClass? = .error error) ↔
      ∃ parameter ∈ reader.table.parametersRead path, ∃ error, reader.Refuses path.target.qualified parameter error)
  stops : ∀ argumentsClass?, reader.argumentsClass? path = .ok argumentsClass? →
    ∀ error, reader.readParameters path.target argumentsClass? = .error error →
      reader.destination path = .error error ∧
        ∃ parameter ∈ reader.table.parametersRead path, reader.Refuses path.target.qualified parameter error

/-- The parameters of a destination that can be read could be read. -/
theorem parametersRead_of_destination {path : AnnotationPath} {destination : Destination} (h : reader.destination path = .ok destination) :
    ∃ read, reader.parameters path.target.qualified none (reader.table.parametersRead path) = .ok read ∧
      destination.arguments = read.arguments ∧ reader.resultOf path.target read = .ok destination.result? := by
  obtain ⟨argumentsClass?, read, result?, links, hclass, hread, hresult, -, rfl⟩ := destination_eq_ok h
  rw [readParameters_eq hclass] at hread
  exact ⟨read, hread, rfl, hresult⟩

/-- The arguments of every annotation path are read as they are written. -/
theorem keepsArguments (reader : DestinationReader) (path : AnnotationPath) : reader.KeepsArguments path := by
  refine ⟨?kept, ?fails_iff, ?stops⟩
  case kept =>
    intro destination h
    obtain ⟨read, hread, harguments, -⟩ := parametersRead_of_destination h
    rw [harguments]
    exact (mapM_eq_ok_iff_forall₂.1 (parameters_eq_ok_iff.1 hread).arguments).imp fun _ _ hargument => (argument_eq_ok hargument).2
  case fails_iff =>
    intro argumentsClass? hclass
    rw [readParameters_eq hclass]
    exact exists_parameters_eq_error_iff
  case stops =>
    intro argumentsClass? hclass error herror
    constructor
    · exact bind_eq_error.2 (.inr ⟨argumentsClass?, hclass, bind_eq_error.2 (.inl herror)⟩)
    · rw [readParameters_eq hclass] at herror
      exact exists_refuses_of_parameters herror

/-- Arguments keep their order, nullability and default, and what the runtime supplies is left out. -/
example :
    let reader : DestinationReader := { table := { declarations := [] }, registry := .empty, graphs := { graphs := [], defaultHost? := none } }
    let parameters : List Parameter := [
      { name := "id", type := .plain "kotlin.Int", default? := none },
      { name := "navigator", type := .plain "androidx.navigation.NavController", default? := none },
      { name := "name", type := { TypeExpr.plain "kotlin.String" with nullable := true }, default? := some "null" }]
    (reader.parameters "app.ProfileScreen" none parameters).toOption.map
      (fun read => read.arguments.map fun argument => (argument.name, argument.isNullable, argument.default?)) =
        some [("id", false, none), ("name", true, some "null")] := by
  decide +kernel

end DestinationReader

/-! ## Results -/

namespace SymbolTable

/-- The class that an annotation path names for the arguments, if it names one and that is found. -/
def argumentsClassOf? (table : SymbolTable) (path : AnnotationPath) : Option Declaration :=
  (path.typeArgument? "navArgs").bind table.classOf?

variable {table : SymbolTable} {path : AnnotationPath}

/-- The parameters of a destination that is no activity are read from the class that is named, or else from the target. -/
theorem mem_parametersRead_iff (hkind : path.target.kind ≠ .plainClass) {parameter : Parameter} :
    parameter ∈ table.parametersRead path ↔
      (∃ declaration, table.argumentsClassOf? path = some declaration ∧ parameter ∈ declaration.parameters) ∨
        (table.argumentsClassOf? path = none ∧ parameter ∈ path.target.parameters) := by
  rw [parametersRead, argumentsClassOf?]
  cases (path.typeArgument? "navArgs").bind table.classOf? with
  | some declaration => simp
  | none => simp [hkind]

end SymbolTable

namespace DestinationReader

/-- Whether a destination has a result, which a parameter of the target sends or one of the class that is named for the arguments. -/
def KeepsResult (reader : DestinationReader) (path : AnnotationPath) (destination : Destination) : Prop :=
  ∃ result, destination.result? = some result ∧
    ∃ parameter, (parameter ∈ path.target.parameters ∨
        ∃ declaration, reader.table.argumentsClassOf? path = some declaration ∧ parameter ∈ declaration.parameters) ∧
      reader.IsResultOf path.target.qualified parameter result

variable {reader : DestinationReader} {path : AnnotationPath} {destination : Destination}

/-- The result of a destination that is no activity is the last one that its parameters send. -/
theorem exists_results_of_destination (hkind : path.target.kind ≠ .plainClass) (h : reader.destination path = .ok destination) :
    ∃ results, (Parameter.sendersOf (reader.table.parametersRead path)).mapM (reader.parameterResult path.target.qualified) = .ok results ∧
      destination.result? = results.getLast? := by
  obtain ⟨read, hread, -, hresult⟩ := parametersRead_of_destination h
  obtain ⟨-, results, hresults, hlast⟩ := parameters_eq_ok_iff.1 hread
  rw [resultOf, if_neg hkind, hlast, Option.or_none] at hresult
  exact ⟨results, hresults, (Except.ok.inj hresult).symm⟩

/-- A result of a destination that is no activity is sent by one of the parameters that are read. -/
theorem exists_isResultOf_of_result? (hkind : path.target.kind ≠ .plainClass) (h : reader.destination path = .ok destination)
    {result : ResultSender} (hresult : destination.result? = some result) :
    ∃ parameter ∈ reader.table.parametersRead path, reader.IsResultOf path.target.qualified parameter result := by
  obtain ⟨results, hresults, hlast⟩ := exists_results_of_destination hkind h
  obtain ⟨parameter, hmem, hread⟩ := exists_of_mem_mapM hresults (List.mem_of_getLast? (hlast.symm.trans hresult))
  obtain ⟨hmem, hsends⟩ := Parameter.mem_sendersOf.1 hmem
  exact ⟨parameter, hmem, isResultOf_of_parameterResult hsends hread⟩

/-- A destination that is no activity has a result if one of the parameters that are read sends one. -/
theorem exists_result?_of_sendsResult (hkind : path.target.kind ≠ .plainClass) (h : reader.destination path = .ok destination)
    {parameter : Parameter} (hmem : parameter ∈ reader.table.parametersRead path) (hsends : parameter.SendsResult) :
    ∃ result, destination.result? = some result := by
  obtain ⟨results, hresults, hlast⟩ := exists_results_of_destination hkind h
  obtain ⟨result, hresult, -⟩ := exists_value_of_mapM hresults (Parameter.mem_sendersOf.2 ⟨hmem, hsends⟩)
  exact ⟨_, hlast.trans (List.getLast?_eq_some_getLast (List.ne_nil_of_mem hresult))⟩

/-- The result that a target sends, or one that is sent in its place, is kept exactly if no class is named for the arguments that sends none. -/
theorem keepsResult_iff (hkind : path.target.kind ≠ .plainClass) (hsends : ∃ parameter ∈ path.target.parameters, parameter.SendsResult)
    (h : reader.destination path = .ok destination) :
    reader.KeepsResult path destination ↔
      ∀ declaration, reader.table.argumentsClassOf? path = some declaration →
        ∃ parameter ∈ declaration.parameters, parameter.SendsResult := by
  constructor
  · rintro ⟨result, hresult, -⟩ declaration hclass
    obtain ⟨parameter, hmem, hof⟩ := exists_isResultOf_of_result? hkind h hresult
    rcases (SymbolTable.mem_parametersRead_iff hkind).1 hmem with ⟨other, hother, hmem⟩ | ⟨hnone, -⟩
    · rw [hclass] at hother
      rw [Option.some.inj hother]
      exact ⟨parameter, hmem, hof.sends⟩
    · rw [hclass] at hnone
      contradiction
  · intro hall
    have hread : ∃ parameter ∈ reader.table.parametersRead path, parameter.SendsResult := by
      cases hclass : reader.table.argumentsClassOf? path with
      | some declaration =>
        obtain ⟨sender, hmem, hsender⟩ := hall declaration hclass
        exact ⟨sender, (SymbolTable.mem_parametersRead_iff hkind).2 (.inl ⟨declaration, hclass, hmem⟩), hsender⟩
      | none =>
        obtain ⟨sender, hmem, hsender⟩ := hsends
        exact ⟨sender, (SymbolTable.mem_parametersRead_iff hkind).2 (.inr ⟨hclass, hmem⟩), hsender⟩
    obtain ⟨sender, hmem, hsender⟩ := hread
    obtain ⟨result, hresult⟩ := exists_result?_of_sendsResult hkind h hmem hsender
    obtain ⟨parameter, hmem, hof⟩ := exists_isResultOf_of_result? hkind h hresult
    refine ⟨result, hresult, parameter, ?_, hof⟩
    rcases (SymbolTable.mem_parametersRead_iff hkind).1 hmem with hclass | ⟨-, htarget⟩
    · exact .inr hclass
    · exact .inl htarget

/-- A function that sends a name back, and a class of arguments that sends nothing. -/
def askTable (arguments : List (String × AnnotationValue)) : SymbolTable :=
  { declarations := [
      { qualified := "app.AskArgs"
        kind := .plainClass
        parameters := [{ name := "id", type := .plain "kotlin.Int", default? := none }] },
      { qualified := "app.AskName"
        kind := .function
        annotations := [{ type := Library.destination, typeArguments := [], arguments }]
        parameters := [{
          name := "resultNavigator"
          type := { qualified := Library.resultBackNavigator, nullable := false, arguments := [.plain "kotlin.String"] }
          default? := none }] }] }

/-- What can be decided of a destination that some path to a function leads to holds of one that is read. -/
theorem exists_read_of_any (reader : DestinationReader) (p : AnnotationPath → Destination → Prop) [∀ path, DecidablePred (p path)]
    (h : reader.table.symbols.composablePaths.result.toOption.any (fun paths => paths.any fun path =>
      (reader.destination path).toOption.any fun destination => decide (p path destination)) = true) :
    ∃ paths, reader.table.symbols.composablePaths.result = .ok paths ∧
      ∃ path ∈ paths, ∃ destination, reader.destination path = .ok destination ∧ p path destination := by
  obtain ⟨paths, hpaths, hany⟩ := exists_ok_of_any reader.table.symbols.composablePaths.result
    (fun paths => (paths.any fun path => (reader.destination path).toOption.any fun destination => decide (p path destination)) = true)
    (by simpa only [Bool.decide_eq_true] using h)
  obtain ⟨path, hmem, hread⟩ := List.any_eq_true.1 hany
  exact ⟨paths, hpaths, path, hmem, exists_ok_of_any _ _ hread⟩

/-- What the function and the class are read with. -/
def askReader (arguments : List (String × AnnotationValue)) : DestinationReader :=
  { table := askTable arguments, registry := .empty, graphs := { graphs := [], defaultHost? := none } }

/-- The function has the result that it sends if no class is named. -/
theorem keepsResult_iff_ask :
    ∃ paths, (askReader []).table.symbols.composablePaths.result = .ok paths ∧ ∃ path ∈ paths, ∃ destination,
      path.target.kind ≠ .plainClass ∧ (∃ parameter ∈ path.target.parameters, parameter.SendsResult) ∧
        (askReader []).destination path = .ok destination ∧ (askReader []).KeepsResult path destination := by
  obtain ⟨paths, hpaths, path, hmem, destination, h, hkind, hsends, hclass⟩ := exists_read_of_any (askReader [])
    (fun path _ => path.target.kind ≠ .plainClass ∧ (∃ parameter ∈ path.target.parameters, parameter.SendsResult) ∧
      ((askReader []).table.argumentsClassOf? path).isNone = true) (by decide +kernel)
  refine ⟨paths, hpaths, path, hmem, destination, hkind, hsends, h, (keepsResult_iff hkind hsends h).2 fun declaration hsome => ?_⟩
  rw [hsome] at hclass
  contradiction

/-- That the result which a function sends is kept is false in general: it is lost if a class is named that sends none. -/
theorem keepsResult_false :
    ¬∀ (reader : DestinationReader) (paths : List AnnotationPath),
      (SerializerRegistry.collect reader.table.symbols).result = .ok reader.registry →
      (GraphDeclarations.collect reader.table.symbols).result = .ok reader.graphs → reader.table.symbols.composablePaths.result = .ok paths →
        ∀ path ∈ paths, (∃ parameter ∈ path.target.parameters, parameter.SendsResult ∧ parameter.type.arguments.length = 1) →
          ∀ destination, reader.destination path = .ok destination → reader.KeepsResult path destination := by
  intro hall
  obtain ⟨paths, hpaths, path, hmem, destination, h, hsends, hlost⟩ := exists_read_of_any (askReader [("navArgs", .type (.plain "app.AskArgs"))])
    (fun path destination => (∃ parameter ∈ path.target.parameters, parameter.SendsResult ∧ parameter.type.arguments.length = 1) ∧
      destination.result?.isNone = true) (by decide +kernel)
  obtain ⟨result, hresult, -⟩ := hall _ paths rfl rfl hpaths path hmem hsends destination h
  rw [hresult] at hlost
  contradiction

end DestinationReader

end NavGen
