import NavGen.Check.Model
import NavGen.Generated.Files
import NavGen.Output.Sink
import NavGen.Pass.Destinations
import NavGen.Pass.Modules
import NavGen.Pass.Options

/-!
# A pass

A pass reads the declarations of a module into a model, checks the model, generates code for it and writes the files. It ends at the first
stage that fails, so that nothing is written unless every stage before succeeds.
-/

namespace NavGen

/-- Why a pass failed. -/
inductive Failure where
  | config (error : OptionError)
  | setup (error : SetupError)
  | invalid (findings : List Finding)
  | output (error : OutputError)

/-- The message of an invalid model. -/
def Report.invalidText (report : Report) : String :=
  "navigation model is invalid:\n" ++ report.text

namespace Failure

/-- The message of a failure. -/
def message : Failure → String
  | .config error => error.message
  | .setup error => error.problem.text
  | .invalid findings => (Report.ofFindings findings).invalidText
  | .output error => error.message

/-- Whether a failure mentions a text. Of the problems of an invalid model only the messages count. -/
def mentions (needle : String) : Failure → Bool
  | .invalid findings => (Report.ofFindings findings).mentions needle
  | failure => Text.occursIn needle failure.message

end Failure

/-- How a pass that does not fail ends. -/
inductive Outcome where
  | nothingFound
  /-- Code was generated in a package; the paths of the files are in the order in which they were written. -/
  | generated (package : String) (paths : List String)
  deriving DecidableEq

/-- The end of a pass: how it ended, what it logged and the output as it is then. -/
structure PassResult (Output : Type) where
  outcome : Except Failure Outcome
  log : Log
  output : Output

namespace Model

/-- The packages of all declarations of a model. The root graph that exists without being declared has none in the module. -/
def declaredPackages (model : Model) : List String :=
  model.destinations.map (·.target.package)
    ++ (model.graphs.filter (·.type.qualified != Library.rootNavGraph)).map (·.type.package)

/-- Reads the model of a module. There is none if the module declares neither a destination nor a graph. -/
def assemble? (symbols : Symbols) : Logged (Option Model) := do
  let composables ← symbols.composablePaths
  let activities ← symbols.activityPaths
  let paths := composables ++ activities
  let graphs ← GraphDeclarations.collect symbols
  if paths.isEmpty && graphs.isEmpty then return none
  let registry ← SerializerRegistry.collect symbols
  let reader : DestinationReader := { table := symbols.table, registry, graphs }
  let destinations ← Logged.each reader.read paths
  let navGraphs ← Logged.lift (graphs.graphsFor symbols destinations)
  let modules ← ModuleReader.readAll symbols.table
  Logged.debug ("assembled " ++ toString destinations.length ++ " destinations, " ++ toString navGraphs.length
    ++ " nav graphs, " ++ toString registry.serializers.length ++ " serializers and " ++ toString modules.length ++ " sub modules")
  let model : Model := { destinations, graphs := navGraphs, serializers := registry.sorted, modules }
  return some model.canonical

end Model

namespace Config

/-- What is generated for a model under a configuration. -/
def generation (config : Config) (model : Model) : Generation :=
  { settings := { package := config.resolvePackage model.declaredPackages, moduleName? := config.moduleName? }, model }

/-- The message that tells what was generated. -/
def generatedMessage (generation : Generation) (files : List GeneratedFile) : String :=
  "generated " ++ toString files.length ++ " files for " ++ toString generation.model.destinations.length ++ " destinations and "
    ++ toString generation.model.graphs.length ++ " nav graphs into '" ++ generation.package ++ "'"

/-- Generates and writes the code of a model that was checked. -/
def writeModel {Output : Type} [FileSink Output] (config : Config) (model : Model) (output : Output) : PassResult Output :=
  let generation := config.generation model
  match writeFiles output generation.files with
  | (output, some error) => { outcome := .error (.output error), log := [], output }
  | (output, none) =>
    { outcome := .ok (.generated generation.package (generation.files.map (·.path)))
      log := [{ level := .info, message := generatedMessage generation generation.files }]
      output }

/-- Checks a model, and generates and writes its code if nothing is found. -/
def checkAndWrite {Output : Type} [FileSink Output] (config : Config) (model : Model) (output : Output) : PassResult Output :=
  if model.isValid then config.writeModel model output
  else
    { outcome := .error (.invalid model.findings)
      log := model.findings.map fun finding => { level := .error, message := finding.problem.text }
      output }

/-- Runs a pass over a symbol table. -/
def run {Output : Type} [FileSink Output] (config : Config) (table : SymbolTable) (output : Output) : PassResult Output :=
  let assembled := Model.assemble? table.symbols
  match assembled.result with
  | .error error => { outcome := .error (.setup error), log := assembled.log, output }
  | .ok none =>
    { outcome := .ok .nothingFound
      log := assembled.log ++ [{ level := .info, message := "no destinations found, nothing to generate" }]
      output }
  | .ok (some model) =>
    let written := config.checkAndWrite model output
    { written with log := assembled.log ++ written.log }

end Config

end NavGen
