import NavGen.Pass.Modules
import NavGen.Proofs.Pass.Results
import NavGen.Proofs.Symbol.Reordering

/-!
# Modules of tables that differ in order

A module that is depended on is read from its registry alone. Its package is the one that the registry publishes, so the packages of the modules are
distinct if the registries publish distinct ones.
-/

namespace NavGen.ModuleReader

/-- The package that a registry publishes for its module. -/
def publishedPackage? (registry : Declaration) : Option String :=
  (registry.annotations.find? fun written => Text.begins Library.moduleInfoStart written.simpleName).bind fun info =>
    (info.argument? "packageName").bind (·.asText?)

theorem requiredArgument_eq_ok_iff {α : Type} {registry : String} {written : AnnotationExpr} {name : String}
    {read : AnnotationValue → Option α} {value : α} :
    requiredArgument registry written name read = .ok value ↔ (written.argument? name).bind read = some value := by
  unfold requiredArgument
  split
  · rename_i found hfound
    rw [hfound, Except.ok.injEq, Option.some.injEq]
  · rename_i hnone
    rw [hnone]
    exact iff_of_false (fun h => by cases h) fun h => by cases h

/-- The package of a module is the one that its registry publishes. -/
theorem publishedPackage?_of_read {registry : Declaration} {surface : ModuleSurface} (h : (read registry).result = .ok surface) :
    publishedPackage? registry = some surface.package := by
  unfold read at h
  unfold publishedPackage?
  split at h
  · cases h
  · rename_i info hinfo
    simp only [Logged.result_bind, Logged.result_lift, Logged.result_debug, Logged.result_pure] at h
    rw [hinfo, Option.bind_some]
    obtain ⟨surface, hsurface, h⟩ := bind_eq_ok.1 h
    cases h
    unfold ModuleReader.surface at hsurface
    obtain ⟨results, -, hsurface⟩ := bind_eq_ok.1 hsurface
    obtain ⟨topLevelGraphs, -, hsurface⟩ := bind_eq_ok.1 hsurface
    obtain ⟨name, -, hsurface⟩ := bind_eq_ok.1 hsurface
    obtain ⟨package, hpackage, hsurface⟩ := bind_eq_ok.1 hsurface
    obtain ⟨hasArgumentGetters, -, hsurface⟩ := bind_eq_ok.1 hsurface
    cases hsurface
    exact requiredArgument_eq_ok_iff.1 hpackage

/-- The packages of the modules are those that are published, in order. -/
theorem packages_of_each_read {registries : List Declaration} {modules : List ModuleSurface}
    (h : (Logged.each read registries).result = .ok modules) :
    modules.map (·.package) = registries.filterMap publishedPackage? := by
  rw [Logged.result_each] at h
  induction registries generalizing modules with
  | nil =>
    rw [List.mapM_nil] at h
    cases h
    rfl
  | cons registry rest ih =>
    obtain ⟨surface, others, hsurface, hothers, rfl⟩ := mapM_cons_eq_ok.1 h
    rw [List.map_cons, List.filterMap_cons_some (publishedPackage?_of_read hsurface), ih hothers]

/-- The modules of both tables are the same up to order, and have distinct packages if those that are published are distinct. -/
theorem endAlike_readAll {table table' : SymbolTable} (h : table.Reorders table')
    (hpackages : ((registries table).filterMap publishedPackage?).Nodup) :
    EndAlike (fun modules modules' => modules.Perm modules' ∧ (modules.map (·.package)).Nodup) (readAll table).result
      (readAll table').result := by
  have hperm : EndAlike List.Perm (readAll table).result (readAll table').result :=
    Logged.each_perm ((h.declarations.filter _).filter _) fun _ _ => EndAlike.of_eq rfl
  refine EndAlike.of_ok (fun modules hok => ?_) fun modules' hok' => ?_
  · obtain ⟨modules', hok', hsame⟩ := hperm.exists_ok_right hok
    refine ⟨modules', hok', hsame, ?_⟩
    rw [packages_of_each_read hok]
    exact hpackages
  · obtain ⟨modules, hok, -⟩ := hperm.exists_ok_left hok'
    exact ⟨modules, hok⟩

end NavGen.ModuleReader
