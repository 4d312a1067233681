import Mathlib.Data.List.Nodup
import NavGen.Generated.Files
import NavGen.Proofs.Text.Parts

/-!
# The paths of generated files

The files of a generation lie in the package of the generation, in three packages below it and in the package that the registries of all modules
share. Where destinations have distinct names and value types distinct simple names, no two files have the same path, whatever the package of the
generation is and whatever characters names are made of: the part of a path that names one of the packages below tells the files of that package
from all others, and only the registry has a path whose parts all start with an underscore.
-/

namespace NavGen

/-! ## Paths by their characters -/

/-- The characters of a package as a directory. -/
def slashed (package : String) : List Char :=
  package.toList.map fun c => if c = '.' then '/' else c

theorem slashed_append (package below : String) : slashed (package ++ below) = slashed package ++ slashed below := by
  rw [slashed, String.toList_append, List.map_append, slashed, slashed]

/-- The directory of a package that is not empty ends in a slash. -/
theorem toList_relativePath {package : String} (hpackage : package ≠ "") (name extension : String) :
    (relativePath package name extension).toList = slashed package ++ '/' :: (name.toList ++ '.' :: extension.toList) := by
  have hne : (String.ofList (slashed package)).isEmpty = false := by
    rw [Bool.eq_false_iff, ne_eq, String.isEmpty_iff]
    simpa [slashed] using hpackage
  rw [relativePath, ← slashed, hne]
  simp [String.toList_append]

theorem relativePath_empty (name extension : String) : relativePath "" name extension = name ++ "." ++ extension := by
  simp [relativePath]

namespace Generation

/-- The path of a file of a package below that of the generation. -/
def pathBelow (generation : Generation) (below name : String) : String :=
  relativePath (generation.subPackage below) name "kt"

theorem toList_pathBelow (generation : Generation) (below name : String) :
    (generation.pathBelow below name).toList =
      slashed generation.package ++ '/' :: (slashed below ++ '/' :: (name.toList ++ ".kt".toList)) := by
  have hpackage : generation.subPackage below ≠ "" := by
    intro h
    have := congrArg String.toList h
    simp [subPackage] at this
  rw [pathBelow, toList_relativePath hpackage, subPackage, slashed_append, slashed_append, List.append_assoc,
    List.append_assoc]
  rfl

/-- Of the files of a package below, the names can be read off the paths. -/
theorem pathBelow_injective (generation : Generation) (below : String) : Function.Injective (generation.pathBelow below) := by
  intro name name' h
  have hchars := congrArg String.toList h
  rw [toList_pathBelow, toList_pathBelow] at hchars
  have hrest := List.cons.inj (List.append_cancel_left hchars)
  have hname := List.cons.inj (List.append_cancel_left hrest.2)
  exact String.toList_inj.1 (List.append_cancel_right hname.2)

/-- Files of different packages below have different paths. -/
theorem pathBelow_ne (generation : Generation) {below below' : String} (hpart : '/' ∉ slashed below)
    (hpart' : '/' ∉ slashed below') (hne : slashed below ≠ slashed below') (name name' : String) :
    generation.pathBelow below name ≠ generation.pathBelow below' name' := by
  intro h
  have hchars := congrArg String.toList h
  rw [toList_pathBelow, toList_pathBelow] at hchars
  have hrest := List.cons.inj (List.append_cancel_left hchars)
  exact hne (Text.eq_of_append_separator hpart hpart' hrest.2)

/-- The object of all graphs lies in the package of the generation itself, so no file of a package below has its path. -/
theorem pathBelow_ne_graphsFile (generation : Generation) (below name : String) :
    generation.pathBelow below name ≠ generation.graphsFile.path := by
  have hpath : generation.graphsFile.path = relativePath generation.package "NavGraphs" "kt" := rfl
  have hnone : '/' ∉ "NavGraphs".toList ++ '.' :: "kt".toList := by decide
  intro h
  have hchars := congrArg String.toList h
  rw [toList_pathBelow, hpath] at hchars
  by_cases hpackage : generation.package = ""
  · rw [hpackage, relativePath_empty, String.toList_append, String.toList_append, List.append_assoc] at hchars
    exact hnone (hchars ▸ List.mem_append_right _ List.mem_cons_self)
  · rw [toList_relativePath hpackage] at hchars
    have hrest := (List.cons.inj (List.append_cancel_left hchars)).2
    exact hnone (hrest ▸ List.mem_append_right _ List.mem_cons_self)

/-! ## The registry -/

/-- Each part of the path of a registry starts with an underscore, as long as the name of the module brings no slash with it. -/
theorem head?_of_mem_registry {moduleName : String} (hname : '/' ∉ (Text.pascal moduleName).toList) {part : List Char}
    (hpart : part ∈ Text.splitChars '/'
      (relativePath Library.registryPackage (RegistryNames.ofModule moduleName).registry "kt").toList) :
    part.head? = some '_' := by
  have hpackage : Library.registryPackage ≠ "" := by decide
  have hdirectory : Text.splitChars '/' (slashed Library.registryPackage) =
      ["_generated".toList, "_ramcosta".toList, "_composedestinations".toList, "_moduleregistry".toList] := by decide
  have hfile : '/' ∉ Library.registryStart.toList ++ ((Text.pascal moduleName).toList ++ '.' :: "kt".toList) := by
    simp only [List.mem_append, not_or]
    exact ⟨by decide, hname, by decide⟩
  rw [toList_relativePath hpackage, Text.splitChars_append, hdirectory, RegistryNames.ofModule, String.toList_append,
    List.append_assoc, Text.splitChars_of_not_mem hfile, List.mem_append, List.mem_singleton] at hpart
  rcases hpart with hpart | rfl
  · have hall : ∀ part ∈ ["_generated".toList, "_ramcosta".toList, "_composedestinations".toList, "_moduleregistry".toList],
        part.head? = some '_' := by decide
    exact hall part hpart
  · rfl

/-- A path with a part that starts otherwise is not that of a registry. -/
theorem ne_registryPath {moduleName : String} (hname : '/' ∉ (Text.pascal moduleName).toList) {path : String}
    {part : List Char} (hpart : part ∈ Text.splitChars '/' path.toList) (hhead : part.head? ≠ some '_') :
    path ≠ relativePath Library.registryPackage (RegistryNames.ofModule moduleName).registry "kt" := by
  rintro rfl
  exact hhead (head?_of_mem_registry hname hpart)

/-- The name of a package below is a part of the paths of its files. -/
theorem mem_splitChars_pathBelow (generation : Generation) {below : String} (hbelow : '/' ∉ slashed below) (name : String) :
    slashed below ∈ Text.splitChars '/' (generation.pathBelow below name).toList := by
  rw [toList_pathBelow, Text.splitChars_append, Text.splitChars_append, Text.splitChars_of_not_mem hbelow]
  exact List.mem_append_right _ (List.mem_append_left _ (List.mem_singleton_self _))

/-- The name of the object of all graphs is the last part of its path. -/
theorem mem_splitChars_graphsFile (generation : Generation) :
    "NavGraphs.kt".toList ∈ Text.splitChars '/' generation.graphsFile.path.toList := by
  have hpath : generation.graphsFile.path = relativePath generation.package "NavGraphs" "kt" := rfl
  have hfile : Text.splitChars '/' ("NavGraphs".toList ++ '.' :: "kt".toList) = ["NavGraphs.kt".toList] := by decide
  rw [hpath]
  by_cases hpackage : generation.package = ""
  · rw [hpackage]
    decide
  · rw [toList_relativePath hpackage, Text.splitChars_append, hfile]
    exact List.mem_append_right _ (List.mem_singleton_self _)

/-! ## All files -/

/-- The files of the three packages below that of the generation. -/
def filesBelow (generation : Generation) : List GeneratedFile :=
  generation.model.destinations.map generation.destinationFile
    ++ generation.model.valueTypes.map generation.valueTypeFile
    ++ generation.gettersFile?.toList

theorem path_of_mem_gettersFile? {generation : Generation} {file : GeneratedFile} (h : file ∈ generation.gettersFile?.toList) :
    file.path = generation.pathBelow "navargs" "NavArgsGetters" := by
  unfold gettersFile? at h
  split at h
  · rw [List.mem_singleton.1 h]
    rfl
  · contradiction

/-- Where destinations have distinct names and value types distinct simple names, the files of the packages below have distinct paths. -/
theorem nodup_paths_filesBelow {generation : Generation} (hdestinations : (generation.model.destinations.map (·.name)).Nodup)
    (htypes : (generation.model.valueTypes.map (·.value.simple)).Nodup) : (generation.filesBelow.map (·.path)).Nodup := by
  have hobjects : ((generation.model.destinations.map generation.destinationFile).map (·.path)).Nodup := by
    have := hdestinations.map (generation.pathBelow_injective "destinations")
    rw [List.map_map] at this ⊢
    exact this
  have hnavTypes : ((generation.model.valueTypes.map generation.valueTypeFile).map (·.path)).Nodup := by
    have hinjective : Function.Injective fun simple => generation.pathBelow "navtype" (simple ++ "NavType") := by
      intro simple simple' h
      have hname := congrArg String.toList (generation.pathBelow_injective "navtype" h)
      rw [String.toList_append, String.toList_append] at hname
      exact String.toList_inj.1 (List.append_cancel_right hname)
    have := htypes.map hinjective
    rw [List.map_map] at this ⊢
    exact this
  have hgetters : (generation.gettersFile?.toList.map (·.path)).Nodup := by
    cases generation.gettersFile? <;> simp
  have hdestinationsPart : '/' ∉ slashed "destinations" := by decide
  have hnavTypesPart : '/' ∉ slashed "navtype" := by decide
  have hgettersPart : '/' ∉ slashed "navargs" := by decide
  rw [filesBelow, List.map_append, List.map_append, List.nodup_append, List.nodup_append]
  refine ⟨⟨hobjects, hnavTypes, ?_⟩, hgetters, ?_⟩
  · intro path hpath path' hpath'
    simp only [List.map_map, List.mem_map] at hpath hpath'
    obtain ⟨destination, -, rfl⟩ := hpath
    obtain ⟨type, -, rfl⟩ := hpath'
    exact generation.pathBelow_ne hdestinationsPart hnavTypesPart (by decide) _ _
  · intro path hpath path' hpath'
    obtain ⟨file, hfile, rfl⟩ := List.mem_map.1 hpath'
    rw [path_of_mem_gettersFile? hfile]
    rcases List.mem_append.1 hpath with hpath | hpath
    · simp only [List.map_map, List.mem_map] at hpath
      obtain ⟨destination, -, rfl⟩ := hpath
      exact generation.pathBelow_ne hdestinationsPart hgettersPart (by decide) _ _
    · simp only [List.map_map, List.mem_map] at hpath
      obtain ⟨type, -, rfl⟩ := hpath
      exact generation.pathBelow_ne hnavTypesPart hgettersPart (by decide) _ _

/-- A file of a package below has the path of one, in a package whose name is one part that does not start with an underscore. -/
theorem exists_pathBelow {generation : Generation} {file : GeneratedFile} (h : file ∈ generation.filesBelow) :
    ∃ below name, '/' ∉ slashed below ∧ (slashed below).head? ≠ some '_' ∧ file.path = generation.pathBelow below name := by
  simp only [filesBelow, List.mem_append, List.mem_map] at h
  rcases h with (⟨destination, -, rfl⟩ | ⟨type, -, rfl⟩) | h
  · exact ⟨"destinations", destination.name, by decide, by decide, rfl⟩
  · exact ⟨"navtype", type.className, by decide, by decide, rfl⟩
  · exact ⟨"navargs", "NavArgsGetters", by decide, by decide, path_of_mem_gettersFile? h⟩

/-- Where destinations have distinct names, value types distinct simple names and the module a name without slashes, all files have distinct
paths. -/
theorem nodup_paths {generation : Generation} (hdestinations : (generation.model.destinations.map (·.name)).Nodup)
    (htypes : (generation.model.valueTypes.map (·.value.simple)).Nodup)
    (hmodule : ∀ name, generation.settings.moduleName? = some name → '/' ∉ (Text.pascal name).toList) :
    (generation.files.map (·.path)).Nodup := by
  have hgraphs : ((generation.filesBelow ++ [generation.graphsFile]).map (·.path)).Nodup := by
    rw [List.map_append, List.nodup_append]
    refine ⟨nodup_paths_filesBelow hdestinations htypes, by simp, fun path hpath path' hpath' => ?_⟩
    obtain ⟨file, hfile, rfl⟩ := List.mem_map.1 hpath
    obtain ⟨below, name, -, -, hfilePath⟩ := exists_pathBelow hfile
    rw [List.mem_singleton.1 hpath', hfilePath]
    exact generation.pathBelow_ne_graphsFile below name
  have hfiles : generation.files = (generation.filesBelow ++ [generation.graphsFile]) ++ generation.registryFile?.toList := rfl
  rw [hfiles, registryFile?]
  cases hname : generation.settings.moduleName? with
  | none => simpa using hgraphs
  | some moduleName =>
    rw [List.map_append, List.nodup_append]
    refine ⟨hgraphs, by simp, fun path hpath path' hpath' => ?_⟩
    rw [List.mem_singleton.1 hpath']
    obtain ⟨file, hfile, rfl⟩ := List.mem_map.1 hpath
    rcases List.mem_append.1 hfile with hfile | hfile
    · obtain ⟨below, name, hbelow, hhead, hfilePath⟩ := exists_pathBelow hfile
      rw [hfilePath]
      exact ne_registryPath (hmodule moduleName hname) (generation.mem_splitChars_pathBelow hbelow name) hhead
    · rw [List.mem_singleton.1 hfile]
      exact ne_registryPath (hmodule moduleName hname) generation.mem_splitChars_graphsFile (by decide)

end Generation

end NavGen
