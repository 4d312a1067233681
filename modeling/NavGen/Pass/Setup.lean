import NavGen.Name
import NavGen.Pass.Log
import NavGen.Problem

/-!
# Setup errors

What can be wrong with how declarations are annotated. A pass stops at the first such error, but keeps the log it has written by then;
`Logged` is a computation that does so.
-/

namespace NavGen

/-- A way in which a declaration is not set up as it must be. -/
inductive SetupFault where
  /-- The annotation classes from a marker outward come back to one of them. -/
  | annotationCycle (chain : List String) (again : String)
  | annotationNotCarried (marker : String)
  | hostAndNested
  | severalDefaults (earlier later : Name)
  | unknownParent (parent : Name)
  | startArgumentsWithoutGraph
  | startArgumentsOfNoHost (graph : Name)
  | noStart (route : String)
  | severalStarts (route : String) (marked : List String)
  | unknownArgumentsClass (qualified : String)
  | noResultType (parameter : String)
  | unreadableDefault (argument : String)
  | noActivityResultType
  | noDeepLink
  | listWithoutElement (argument : String)
  | unsupportedType (argument qualified : String)
  | unsupportedArray (argument : String)
  | secondSerializer (value existing : String)
  | serializerKind
  | serializerInterface
  | serializerArgument
  | noModuleInfo
  | resultsNotAnnotations
  | graphsNotTexts
  | missingArgument (carrier argument : String)
  deriving DecidableEq

/-- The message of a setup fault. -/
def SetupFault.message : SetupFault → String
  | .annotationCycle chain again =>
    "annotation class is part of a destination annotation cycle: " ++ " -> ".intercalate (chain ++ [again])
  | .annotationNotCarried marker => "annotation class does not carry '" ++ marker ++ "'"
  | .hostAndNested => "a graph cannot be both a nav host graph and a nested nav graph"
  | .severalDefaults earlier later =>
    "multiple default nav host graphs: '" ++ earlier.qualified ++ "' and '" ++ later.qualified ++ "'"
  | .unknownParent parent => "parent nav graph '" ++ parent.qualified ++ "' cannot be resolved"
  | .startArgumentsWithoutGraph => "default start arguments must name their nav host graph"
  | .startArgumentsOfNoHost graph =>
    "default start arguments target '" ++ graph.qualified ++ "' which is not a nav host graph"
  | .noStart route =>
    "nav graph '" ++ route ++ "' has no start destination; mark one destination or nested graph with start = true"
  | .severalStarts route marked => "nav graph '" ++ route ++ "' has multiple start destinations: " ++ ", ".intercalate marked
  | .unknownArgumentsClass qualified => "nav args class '" ++ qualified ++ "' cannot be resolved"
  | .noResultType parameter => "'" ++ parameter ++ "' has no result type"
  | .unreadableDefault argument => "default value of argument '" ++ argument ++ "' could not be read"
  | .noActivityResultType => "activity result sender has no result type"
  | .noDeepLink => "deepLinks must hold @DeepLink annotations"
  | .listWithoutElement argument => "argument '" ++ argument ++ "' is a list without an element type"
  | .unsupportedType argument qualified =>
    "argument '" ++ argument ++ "' has type '" ++ qualified
      ++ "' which is not a supported navigation argument type; register a nav type serializer for it"
  | .unsupportedArray argument =>
    "argument '" ++ argument ++ "': arrays are only supported for primitives and strings, use a list instead"
  | .secondSerializer value existing => "'" ++ value ++ "' already has nav type serializer '" ++ existing ++ "'"
  | .serializerKind => "type serializers must be either class or object"
  | .serializerInterface => "type serializers must implement DestinationsNavTypeSerializer"
  | .serializerArgument => "type serializer has an issue with its type argument"
  | .noModuleInfo => "module registry carries no module info annotation"
  | .resultsNotAnnotations => "module info 'typeResults' must hold annotations"
  | .graphsNotTexts => "module info 'topLevelGraphs' must hold strings"
  | .missingArgument carrier argument => "'" ++ carrier ++ "' is missing required argument '" ++ argument ++ "'"

/-- A setup fault and the declaration it is found at. -/
structure SetupError where
  declaration : String
  fault : SetupFault
  deriving DecidableEq

/-- The problem that a setup error is. -/
def SetupError.problem (error : SetupError) : Problem :=
  { kind := .setup, declaration := error.declaration, message := error.fault.message }

/-- A computation that writes a log and may stop at a setup error. -/
structure Logged (α : Type) where
  log : Log
  result : Except SetupError α

namespace Logged

variable {α β : Type}

/-- A value, with nothing to log. -/
def pure (value : α) : Logged α :=
  { log := [], result := .ok value }

/-- One computation after another. The log of the first is kept in either case. -/
def bind (first : Logged α) (next : α → Logged β) : Logged β :=
  match first.result with
  | .error error => { log := first.log, result := .error error }
  | .ok value => { log := first.log ++ (next value).log, result := (next value).result }

instance : Monad Logged where
  pure := Logged.pure
  bind := Logged.bind

/-- A computation that logs nothing. -/
def lift (result : Except SetupError α) : Logged α :=
  { log := [], result }

/-- Stops at a fault of a declaration. -/
def fail (declaration : String) (fault : SetupFault) : Logged α :=
  { log := [], result := .error { declaration, fault } }

/-- Writes a debug message. -/
def debug (message : String) : Logged Unit :=
  { log := [{ level := .debug, message }], result := .ok () }

/-- The lists that a computation gives for the items of a list, one after the other. -/
def flatMap (compute : α → Logged (List β)) : List α → Logged (List β)
  | [] => pure []
  | item :: rest => bind (compute item) fun found => bind (flatMap compute rest) fun others => pure (found ++ others)

/-- What a computation gives for each item of a list. -/
def each (compute : α → Logged β) : List α → Logged (List β)
  | [] => pure []
  | item :: rest => bind (compute item) fun found => bind (each compute rest) fun others => pure (found :: others)

end Logged

end NavGen
