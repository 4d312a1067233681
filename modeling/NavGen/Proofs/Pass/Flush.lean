import Mathlib.Data.List.TakeWhile
import NavGen.Pass.Run
import NavGen.Proofs.Check.WellFormed
import NavGen.Proofs.Output.Memory
import NavGen.Proofs.Output.Paths
import NavGen.Proofs.Pass.Options

/-!
# What a pass leaves in an output

A pass touches its output only when the model is valid, and then only by writing the files of one generation. Into an output that holds nothing
they can all be written, because valid models and accepted options give distinct paths. Into an output that holds files writing can stop at a
path that is held: then the files before it stay written, although the pass fails.
-/

namespace NavGen.Config

/-- What a pass generates for a symbol table: there is something if the table gives a model and the model is valid. -/
def generation? (config : Config) (table : SymbolTable) : Option Generation :=
  match (Model.assemble? table.symbols).result with
  | .ok (some model) => if model.isValid then some (config.generation model) else none
  | _ => none

/-! ## How a pass ends -/

section

variable {Output : Type} [FileSink Output]

/-- Without anything to generate, a pass leaves its output alone and does not fail because of it. -/
theorem run_of_generation?_eq_none {config : Config} {table : SymbolTable} (h : config.generation? table = none)
    (output : Output) :
    (config.run table output).output = output ∧
      ((config.run table output).outcome = .ok .nothingFound ∨
        ∃ failure, (config.run table output).outcome = .error failure ∧ ∀ error, failure ≠ .output error) := by
  unfold generation? at h
  rw [run]
  split
  · exact ⟨rfl, Or.inr ⟨_, rfl, fun error => Failure.noConfusion⟩⟩
  · exact ⟨rfl, Or.inl rfl⟩
  · rename_i model hmodel
    rw [hmodel] at h
    simp only [ite_eq_right_iff, reduceCtorEq, imp_false, Bool.not_eq_true] at h
    have hcheck : config.checkAndWrite model output =
        { outcome := .error (.invalid model.findings)
          log := model.findings.map fun finding => { level := .error, message := finding.problem.text }
          output } := by
      unfold checkAndWrite
      rw [h]
      rfl
    rw [hcheck]
    exact ⟨rfl, Or.inr ⟨_, rfl, fun error => Failure.noConfusion⟩⟩

/-- With something to generate, a pass writes its files and ends as the writing does. -/
theorem run_of_generation?_eq_some {config : Config} {table : SymbolTable} {generation : Generation}
    (h : config.generation? table = some generation) (output : Output) :
    (config.run table output).output = (writeFiles output generation.files).1 ∧
      (config.run table output).outcome =
        match (writeFiles output generation.files).2 with
        | some error => .error (.output error)
        | none => .ok (.generated generation.package (generation.files.map (·.path))) := by
  unfold generation? at h
  split at h
  · rename_i model hmodel
    split at h
    · rename_i hvalid
      cases h
      rw [run, hmodel]
      simp only [checkAndWrite, hvalid, if_true, writeModel]
      split
      · rename_i hwrite
        rw [hwrite]
        exact ⟨rfl, rfl⟩
      · rename_i hwrite
        rw [hwrite]
        exact ⟨rfl, rfl⟩
    · contradiction
  · contradiction

end

/-- What is generated is generated for a valid model of the table. -/
theorem generation?_eq_some_iff {config : Config} {table : SymbolTable} {generation : Generation} :
    config.generation? table = some generation ↔
      ∃ model, (Model.assemble? table.symbols).result = .ok (some model) ∧ model.isValid = true ∧ config.generation model = generation := by
  unfold generation?
  constructor
  · intro h
    split at h
    · rename_i model hmodel
      split at h
      · rename_i hvalid
        exact ⟨model, hmodel, hvalid, Option.some.inj h⟩
      · contradiction
    · contradiction
  · rintro ⟨model, hmodel, hvalid, rfl⟩
    rw [hmodel]
    exact if_pos hvalid

/-- What is generated from accepted options has distinct paths. -/
theorem nodup_paths_of_generation? {options : List (String × String)} {config : Config} (h : ofOptions options = .ok config)
    {table : SymbolTable} {generation : Generation} (hgeneration : config.generation? table = some generation) :
    (generation.files.map (·.path)).Nodup := by
  obtain ⟨model, -, hvalid, rfl⟩ := generation?_eq_some_iff.1 hgeneration
  have hnames : model.WellNamed := (Model.nameFindings_eq_nil_iff model).1 (model.isValid_iff_findings.1 hvalid).2.2
  refine Generation.nodup_paths hnames.destinationNames hnames.valueTypeNames fun name hname hslash => ?_
  have hchar := isModuleNameChar_of_mem_pascal (isModuleName_of_ofOptions h hname) hslash
  exact absurd hchar (by decide)

/-! ## Into an empty output -/

/-- A pass with accepted options into an empty output never fails in writing. What it generates it writes completely, to distinct paths; if it
generates nothing, the output stays empty. -/
theorem run_into_empty {options : List (String × String)} {config : Config} (h : ofOptions options = .ok config)
    (table : SymbolTable) :
    match (config.run table MemoryOutput.empty).outcome with
    | .error failure => (∀ error, failure ≠ .output error) ∧ (config.run table MemoryOutput.empty).output = .empty
    | .ok .nothingFound => (config.run table MemoryOutput.empty).output = .empty
    | .ok (.generated package paths) =>
      ∃ generation, config.generation? table = some generation ∧ package = generation.package ∧
        paths = generation.files.map (·.path) ∧ paths.Nodup ∧
          (config.run table MemoryOutput.empty).output.HoldsExactly generation.files := by
  cases hgeneration : config.generation? table with
  | none =>
    obtain ⟨houtput, hnothing | ⟨failure, hfailure, herror⟩⟩ := run_of_generation?_eq_none hgeneration MemoryOutput.empty
    · rw [hnothing]
      exact houtput
    · rw [hfailure]
      exact ⟨herror, houtput⟩
  | some generation =>
    have hpaths := nodup_paths_of_generation? h hgeneration
    have hlacks : ∀ file ∈ generation.files, MemoryOutput.empty.lacks file = true := fun file _ => rfl
    have hwrite : writeFiles MemoryOutput.empty generation.files = (MemoryOutput.empty.adding generation.files, none) := by
      rw [writeFiles_of_nodup _ hpaths, MemoryOutput.writeEach_eq _ hpaths, List.takeWhile_eq_self_iff.2 hlacks,
        List.find?_eq_none.2 fun file hmem => by simp [hlacks file hmem]]
      rfl
    obtain ⟨houtput, houtcome⟩ := run_of_generation?_eq_some hgeneration MemoryOutput.empty
    rw [hwrite] at houtput houtcome
    rw [houtcome]
    refine ⟨generation, rfl, rfl, rfl, hpaths, ?_⟩
    rw [houtput]
    exact MemoryOutput.holdsExactly_adding hpaths

/-- A screen that the root graph starts with. -/
def homeScreen : Declaration :=
  { qualified := "app.HomeScreen"
    kind := .function
    annotations := [{ type := Library.destination, typeArguments := [], arguments := [("start", .bool true)] }] }

/-- A module with one screen that publishes its graphs gets three files. -/
theorem run_into_empty_homeScreen :
    ∃ config, ofOptions [("compose-destinations.moduleName", "home-module")] = .ok config ∧
      ∃ generation, config.generation? { declarations := [homeScreen] } = some generation ∧
        generation.files.map (·.path) =
          ["app/destinations/HomeScreenDestination.kt", "app/NavGraphs.kt",
            "_generated/_ramcosta/_composedestinations/_moduleregistry/_ModuleRegistry_HomeModule.kt"] ∧
          (config.run { declarations := [homeScreen] } MemoryOutput.empty).output.HoldsExactly generation.files := by
  let config : Config := { package? := none, moduleName? := some "home-module", debug := false }
  have hoptions : ofOptions [("compose-destinations.moduleName", "home-module")] = .ok config := rfl
  have houtcome : (config.run { declarations := [homeScreen] } MemoryOutput.empty).outcome.toOption =
      some (.generated "app" ["app/destinations/HomeScreenDestination.kt", "app/NavGraphs.kt",
        "_generated/_ramcosta/_composedestinations/_moduleregistry/_ModuleRegistry_HomeModule.kt"]) := by
    decide +kernel
  have h := run_into_empty hoptions { declarations := [homeScreen] }
  split at h
  · rename_i hfailure
    rw [hfailure] at houtcome
    contradiction
  · rename_i hnothing
    rw [hnothing] at houtcome
    contradiction
  · rename_i package paths hgenerated
    rw [hgenerated] at houtcome
    obtain ⟨generation, hgeneration, -, rfl, -, hexactly⟩ := h
    simp only [Except.toOption, Option.some.injEq, Outcome.generated.injEq] at houtcome
    exact ⟨config, hoptions, generation, hgeneration, houtcome.2, hexactly⟩

/-! ## Into an output that holds files -/

/-- Whether writing what a pass generates stops at a path that the output holds, after at least one file. -/
def BreaksOff (config : Config) (table : SymbolTable) (output : MemoryOutput) : Prop :=
  ∃ generation, config.generation? table = some generation ∧ (generation.files.map (·.path)).Nodup ∧
    (∃ first ∈ generation.files.head?, output.lacks first = true) ∧ ∃ file ∈ generation.files, output.lacks file = false

/-- If writing breaks off, then the pass fails and its first file stays written. -/
theorem run_of_breaksOff {config : Config} {table : SymbolTable} {output : MemoryOutput} (h : config.BreaksOff table output) :
    (∃ failure, (config.run table output).outcome = .error failure) ∧
      ∃ path, output.file? path = none ∧ (config.run table output).output.file? path ≠ none := by
  obtain ⟨generation, hgeneration, hpaths, ⟨first, hfirst, hlacks⟩, held, hheld, hholds⟩ := h
  obtain ⟨houtput, houtcome⟩ := run_of_generation?_eq_some hgeneration output
  rw [writeFiles_of_nodup _ hpaths, MemoryOutput.writeEach_eq _ hpaths] at houtput houtcome
  constructor
  · cases hfind : generation.files.find? (!output.lacks ·) with
    | none =>
      have hlacked := List.find?_eq_none.1 hfind held hheld
      rw [hholds] at hlacked
      exact absurd rfl hlacked
    | some clash =>
      rw [hfind] at houtcome
      exact ⟨_, houtcome⟩
  · refine ⟨first.path, Option.isNone_iff_eq_none.1 hlacks, ?_⟩
    obtain ⟨rest, hfiles⟩ := List.head?_eq_some_iff.1 hfirst
    rw [houtput, hfiles, List.takeWhile_cons, if_pos hlacks, Ne, MemoryOutput.file?, find?_key_eq_none]
    simp [MemoryOutput.adding, GeneratedFile.stored]

/-- If writing does not break off, then a pass that fails leaves the output as it is. -/
theorem output_of_not_breaksOff {config : Config} {table : SymbolTable} {output : MemoryOutput}
    (h : ¬config.BreaksOff table output) {failure : Failure} (hfailure : (config.run table output).outcome = .error failure) :
    (config.run table output).output = output := by
  cases hgeneration : config.generation? table with
  | none => exact (run_of_generation?_eq_none hgeneration output).1
  | some generation =>
    obtain ⟨houtput, houtcome⟩ := run_of_generation?_eq_some hgeneration output
    rw [hfailure] at houtcome
    by_cases hpaths : (generation.files.map (·.path)).Nodup
    · rw [writeFiles_of_nodup _ hpaths, MemoryOutput.writeEach_eq _ hpaths] at houtput houtcome
      cases hfind : generation.files.find? (!output.lacks ·) with
      | none =>
        rw [hfind] at houtcome
        contradiction
      | some clash =>
        -- a file clashes, so it has to be the first one
        have hclash : output.lacks clash = false := by simpa using List.find?_some hfind
        rw [houtput, MemoryOutput.adding_eq_self_iff]
        cases hfiles : generation.files with
        | nil => rfl
        | cons first rest =>
          cases hfirst : output.lacks first with
          | false => rw [List.takeWhile_cons, hfirst, if_neg Bool.false_ne_true]
          | true =>
            refine absurd ⟨generation, hgeneration, hpaths, ⟨first, ?_, hfirst⟩, clash, List.mem_of_find?_eq_some hfind, hclash⟩ h
            rw [hfiles]
            rfl
    · obtain ⟨path, hwrite⟩ := writeFiles_of_not_nodup output hpaths
      rw [houtput, hwrite]

/-- A pass that fails changes nothing in the output, unless writing breaks off. -/
theorem failed_run_keeps_output_iff (config : Config) (table : SymbolTable) (output : MemoryOutput) :
    (∀ failure, (config.run table output).outcome = .error failure →
        ∀ path, (config.run table output).output.file? path = output.file? path) ↔
      ¬config.BreaksOff table output := by
  constructor
  · intro hkeeps hbreaks
    obtain ⟨⟨failure, hfailure⟩, path, hlacked, hwritten⟩ := run_of_breaksOff hbreaks
    rw [hkeeps failure hfailure path] at hwritten
    exact hwritten hlacked
  · intro h failure hfailure path
    rw [output_of_not_breaksOff h hfailure]

/-- That a failed pass changes nothing in the output is false in general: when the path of the object of all graphs is held already, the
destination that comes before it stays written. -/
theorem failed_run_keeps_output_false :
    ¬∀ (config : Config) (table : SymbolTable) (output : MemoryOutput) (failure : Failure),
        (config.run table output).outcome = .error failure →
          ∀ path, (config.run table output).output.file? path = output.file? path := by
  intro hkeeps
  let held : MemoryOutput := { files := [{ path := "app/NavGraphs.kt", content := "existing", sourceIds := [] }] }
  have hfails : (default.run { declarations := [homeScreen] } held).outcome.toOption = none := by decide +kernel
  have hwritten : (default.run { declarations := [homeScreen] } held).output.file?
      "app/destinations/HomeScreenDestination.kt" ≠ held.file? "app/destinations/HomeScreenDestination.kt" := by
    decide +kernel
  cases houtcome : (default.run { declarations := [homeScreen] } held).outcome with
  | error failure => exact hwritten (hkeeps default _ held failure houtcome _)
  | ok outcome =>
    rw [houtcome] at hfails
    contradiction

end NavGen.Config
