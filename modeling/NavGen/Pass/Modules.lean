import NavGen.Library
import NavGen.ModuleSurface
import NavGen.Pass.Setup
import NavGen.Symbol.Table

/-!
# Reading modules that are depended on

A module publishes its navigation by an annotated object in the registry package. The annotation is read back here.
-/

namespace NavGen.ModuleReader

/-- The declarations that are registries of modules. -/
def registries (table : SymbolTable) : List Declaration :=
  (table.inPackage Library.registryPackage).filter fun declaration => Text.begins Library.registryStart declaration.simpleName

/-- What an argument that must be set is read as, if it can be. -/
def requiredArgument {α : Type} (registry : String) (written : AnnotationExpr) (name : String) (read : AnnotationValue → Option α) :
    Except SetupError α :=
  match (written.argument? name).bind read with
  | some value => .ok value
  | none => .error { declaration := registry, fault := .missingArgument written.simpleName name }

/-- The items of an array that is empty when it is not set. -/
def arrayItems (written : AnnotationExpr) (name : String) : List AnnotationValue :=
  ((written.argument? name).map (·.items)).getD []

/-- A published result. -/
def result (registry : String) (value : AnnotationValue) : Except SetupError PublishedResult :=
  match value.asAnnotation? with
  | none => .error { declaration := registry, fault := .resultsNotAnnotations }
  | some written => do
    return {
      destination := ← requiredArgument registry written "destination" (·.asText?)
      type := ← requiredArgument registry written "resultType" (·.asText?)
      isNullable := ← requiredArgument registry written "isResultNullable" (·.asBool?)
      navType := ← requiredArgument registry written "resultNavType" (·.asText?) }

/-- A top level graph. -/
def graph (registry : String) (value : AnnotationValue) : Except SetupError String :=
  match value.asText? with
  | some name => .ok name
  | none => .error { declaration := registry, fault := .graphsNotTexts }

/-- What the annotation of a registry says of its module. -/
def surface (registry : String) (info : AnnotationExpr) : Except SetupError ModuleSurface := do
  let results ← (arrayItems info "typeResults").mapM (result registry)
  let topLevelGraphs ← (arrayItems info "topLevelGraphs").mapM (graph registry)
  let name ← requiredArgument registry info "moduleName" (·.asText?)
  let package ← requiredArgument registry info "packageName" (·.asText?)
  let hasArgumentGetters ← requiredArgument registry info "hasNavArgsPackage" (·.asBool?)
  return { name? := if name.isEmpty then none else some name, package, hasArgumentGetters, topLevelGraphs, results }

/-- Reads the registry of a module. -/
def read (registry : Declaration) : Logged ModuleSurface :=
  match registry.annotations.find? fun written => Text.begins Library.moduleInfoStart written.simpleName with
  | none => Logged.fail registry.qualified .noModuleInfo
  | some info => do
    let surface ← Logged.lift (surface registry.qualified info)
    Logged.debug ("found sub module '" ++ surface.package ++ "' with " ++ toString surface.topLevelGraphs.length
      ++ " top level graphs")
    return surface

/-- Reads the registries of all modules. -/
def readAll (table : SymbolTable) : Logged (List ModuleSurface) :=
  Logged.each read (registries table)

end NavGen.ModuleReader
