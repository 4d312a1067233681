import NavGen.Proofs.Pass.Flush

/-!
# The package that declarations share

Without a package in the options, code is generated in the longest package that all declarations share, segment by segment. Segments are compared as a
whole, so that packages which only begin with the same characters share nothing, and the result depends on which packages there are, but not on their
order or on how often each is there.
-/

namespace NavGen

namespace Config

/-- Whether all packages of a list start with some segments. -/
def AllStartWith (packages start : List String) : Prop :=
  ∀ package ∈ packages, start <+: segments package

/-- Whether segments are the longest ones that all packages of a list start with. -/
structure IsLongestStart (packages start : List String) : Prop where
  shared : AllStartWith packages start
  longest : ∀ other, AllStartWith packages other → other.length ≤ start.length

/-- Whether there is no package to derive one from: no package at all, or no segment that all start with. -/
def NothingShared (packages : List String) : Prop :=
  packages = [] ∨ ∀ start, AllStartWith packages start → start = []

/-! ## Segments -/

/-- The segments of a package are not empty and have no dots. -/
theorem of_mem_segments {package segment : String} (h : segment ∈ segments package) : segment ≠ "" ∧ '.' ∉ segment.toList := by
  obtain ⟨hsplit, hnonempty⟩ := List.mem_filter.1 h
  obtain ⟨part, hpart, rfl⟩ := List.mem_map.1 hsplit
  refine ⟨fun hempty => ?_, ?_⟩
  · rw [hempty] at hnonempty
    contradiction
  · rw [String.toList_ofList]
    exact Text.not_mem_of_mem_splitChars hpart

/-- Segments that some package starts with are those of the package that they are joined to. -/
theorem segments_intercalate {package : String} {start : List String} (hne : start ≠ []) (h : start <+: segments package) :
    segments (".".intercalate start) = start := by
  have hstart : ∀ segment ∈ start, segment ≠ "" ∧ '.' ∉ segment.toList := fun segment hmem => of_mem_segments (h.subset hmem)
  rw [segments, Text.split_intercalate hne fun segment hmem => (hstart segment hmem).2]
  refine List.filter_eq_self.2 fun segment hmem => ?_
  simpa using (hstart segment hmem).1

/-! ## The longest start -/

/-- Two lists start with what their common start starts with. -/
theorem prefix_commonStart_iff {start first second : List String} :
    start <+: commonStart first second ↔ start <+: first ∧ start <+: second := by
  fun_induction commonStart first second generalizing start with
  | case1 segment first second ih =>
    cases start with
    | nil => simp
    | cons head start =>
      rw [List.cons_prefix_cons, List.cons_prefix_cons, List.cons_prefix_cons, ih]
      exact and_and_left
  | case2 segment first segment' second hne =>
    cases start with
    | nil => simp
    | cons head start =>
      simp only [List.prefix_nil, List.cons_prefix_cons, reduceCtorEq, false_iff]
      rintro ⟨⟨rfl, -⟩, rfl, -⟩
      exact hne rfl
  | case3 first second hne =>
    cases first with
    | nil => simp +contextual
    | cons segment first =>
      cases second with
      | nil => simp +contextual
      | cons segment' second => exact absurd rfl (hne segment first segment' second rfl)

/-- All packages start with what the segments that they share start with. -/
theorem prefix_sharedSegments_iff {packages start : List String} (hne : packages ≠ []) :
    start <+: sharedSegments packages ↔ AllStartWith packages start := by
  cases packages with
  | nil => contradiction
  | cons first rest =>
    have hfold : ∀ shared : List String, start <+: rest.foldl (fun shared package => commonStart shared (segments package)) shared ↔
        start <+: shared ∧ ∀ package ∈ rest, start <+: segments package := by
      induction rest with
      | nil => simp
      | cons package rest ih =>
        intro shared
        rw [List.foldl_cons, ih (List.cons_ne_nil _ _), prefix_commonStart_iff, List.forall_mem_cons, and_assoc]
    rw [sharedSegments, hfold, AllStartWith, List.forall_mem_cons]

/-- The segments that packages share are the longest ones they all start with. -/
theorem isLongestStart_sharedSegments {packages : List String} (hne : packages ≠ []) : IsLongestStart packages (sharedSegments packages) where
  shared := (prefix_sharedSegments_iff hne).1 (List.prefix_refl _)
  longest _ hother := ((prefix_sharedSegments_iff hne).2 hother).length_le

theorem nothingShared_iff {packages : List String} : NothingShared packages ↔ sharedSegments packages = [] := by
  by_cases hne : packages = []
  · rw [hne]
    exact iff_of_true (Or.inl rfl) rfl
  · rw [NothingShared, or_iff_right hne]
    simp only [← prefix_sharedSegments_iff hne]
    exact ⟨fun h => h _ (List.prefix_refl _), fun h start hstart => List.prefix_nil.1 (h ▸ hstart)⟩

/-- Which segments packages share does not depend on their order or on repeats. -/
theorem sharedSegments_eq_of_mem_iff {packages packages' : List String} (h : ∀ package, package ∈ packages ↔ package ∈ packages') :
    sharedSegments packages = sharedSegments packages' := by
  by_cases hne : packages = []
  · have hne' : packages' = [] := List.eq_nil_iff_forall_not_mem.2 fun package hmem => by simpa [hne] using (h package).2 hmem
    rw [hne, hne']
  · have hne' : packages' ≠ [] := by
      rintro rfl
      exact hne (List.eq_nil_iff_forall_not_mem.2 fun package hmem => by simpa using (h package).1 hmem)
    have hall : ∀ start, start <+: sharedSegments packages ↔ start <+: sharedSegments packages' := by
      intro start
      rw [prefix_sharedSegments_iff hne, prefix_sharedSegments_iff hne', AllStartWith, AllStartWith]
      simp only [h]
    have hprefix := (hall _).1 (List.prefix_refl _)
    exact hprefix.eq_of_length_le ((hall _).2 (List.prefix_refl _)).length_le

/-! ## The package of a pass -/

variable {config : Config}

theorem resolvePackage_of_package?_eq_none (h : config.package? = none) (packages : List String) :
    config.resolvePackage packages = if sharedSegments packages = [] then fallbackPackage else ".".intercalate (sharedSegments packages) := by
  rw [resolvePackage, h]
  simp only [List.isEmpty_iff]

/-- A pass that generates something does so in the package that it finds for the packages of its model. -/
theorem exists_model_of_generated {Output : Type} [FileSink Output] {table : SymbolTable} {output : Output} {package : String}
    {paths : List String} (h : (config.run table output).outcome = .ok (.generated package paths)) :
    ∃ model, (Model.assemble? table.symbols).result = .ok (some model) ∧ package = config.resolvePackage model.declaredPackages := by
  cases hgeneration : config.generation? table with
  | none =>
    obtain ⟨-, hnothing | ⟨failure, hfailure, -⟩⟩ := run_of_generation?_eq_none hgeneration output
    · rw [hnothing] at h
      cases h
    · rw [hfailure] at h
      cases h
  | some generation =>
    obtain ⟨model, hmodel, -, rfl⟩ := generation?_eq_some_iff.1 hgeneration
    obtain ⟨-, houtcome⟩ := run_of_generation?_eq_some hgeneration output
    rw [h] at houtcome
    split at houtcome
    · contradiction
    · obtain ⟨rfl, -⟩ := Outcome.generated.inj (Except.ok.inj houtcome)
      exact ⟨model, hmodel, rfl⟩

/-- The package that is found starts all packages that it is found for, unless they share nothing. -/
theorem segments_resolvePackage_prefix (h : config.package? = none) {packages : List String} (hshared : ¬NothingShared packages) {package : String}
    (hmem : package ∈ packages) : segments (config.resolvePackage packages) <+: segments package := by
  have hne : sharedSegments packages ≠ [] := mt nothingShared_iff.2 hshared
  have hstart := (isLongestStart_sharedSegments fun hempty => hshared (Or.inl hempty)).shared package hmem
  rw [resolvePackage_of_package?_eq_none h, if_neg hne, segments_intercalate hne hstart]
  exact hstart

/-- Without a given package, code is generated in the longest segments that all packages start with, joined by dots, or in the fallback if nothing is
shared. So order and repeats of the packages do not matter, and in each pass that generates something the packages of all destinations and of all
graphs but the root graph start with the one that is found, unless the fallback is used. -/
theorem resolvePackage_exact (h : config.package? = none) :
    (∀ packages, (NothingShared packages ∧ config.resolvePackage packages = fallbackPackage) ∨
        ∃ start, start ≠ [] ∧ IsLongestStart packages start ∧ config.resolvePackage packages = ".".intercalate start) ∧
      (∀ packages packages', (∀ package, package ∈ packages ↔ package ∈ packages') →
        config.resolvePackage packages = config.resolvePackage packages') ∧
      ∀ {Output : Type} [FileSink Output] (table : SymbolTable) (output : Output) (package : String) (paths : List String),
        (config.run table output).outcome = .ok (.generated package paths) →
          ∃ model, (Model.assemble? table.symbols).result = .ok (some model) ∧
            ((NothingShared model.declaredPackages ∧ package = fallbackPackage) ∨
              (∀ destination ∈ model.destinations, segments package <+: segments destination.target.package) ∧
                ∀ graph ∈ model.graphs, graph.type.qualified ≠ Library.rootNavGraph → segments package <+: segments graph.type.package) := by
  refine ⟨fun packages => ?_, fun packages packages' hmem => ?_, fun table output package paths hgenerated => ?_⟩
  · rw [nothingShared_iff, resolvePackage_of_package?_eq_none h]
    by_cases hshared : sharedSegments packages = []
    · exact Or.inl ⟨hshared, if_pos hshared⟩
    · have hne : packages ≠ [] := fun hempty => hshared (by rw [hempty]; rfl)
      exact Or.inr ⟨_, hshared, isLongestStart_sharedSegments hne, if_neg hshared⟩
  · rw [resolvePackage_of_package?_eq_none h, resolvePackage_of_package?_eq_none h, sharedSegments_eq_of_mem_iff hmem]
  · obtain ⟨model, hmodel, rfl⟩ := exists_model_of_generated hgenerated
    refine ⟨model, hmodel, ?_⟩
    by_cases hshared : NothingShared model.declaredPackages
    · refine Or.inl ⟨hshared, ?_⟩
      rw [resolvePackage_of_package?_eq_none h, if_pos (nothingShared_iff.1 hshared)]
    · refine Or.inr ⟨fun destination hmem => ?_, fun graph hmem hroot => ?_⟩
      · exact segments_resolvePackage_prefix h hshared (List.mem_append_left _ (List.mem_map_of_mem hmem))
      · refine segments_resolvePackage_prefix h hshared (List.mem_append_right _ (List.mem_map_of_mem (List.mem_filter.2 ⟨hmem, ?_⟩)))
        exact bne_iff_ne.2 hroot

/-- Two screens of one shop, in packages that go on with the same letters. -/
def shopTable : SymbolTable :=
  let screen (qualified : String) (isStart : Bool) : Declaration :=
    { qualified, kind := .function
      annotations := [{ type := Library.destination, typeArguments := [], arguments := [("start", .bool isStart)] }] }
  { declarations := [screen "com.shop.cart.CartScreen" true, screen "com.shop.cartoon.ToonScreen" false] }

/-- Both screens are in the package of the shop, which the root graph is not in. -/
theorem resolvePackage_exact_shop :
    default.package? = none ∧
      (default.run shopTable MemoryOutput.empty).outcome.toOption =
        some (.generated "com.shop" ["com/shop/destinations/CartScreenDestination.kt", "com/shop/destinations/ToonScreenDestination.kt",
          "com/shop/NavGraphs.kt"]) ∧
      IsLongestStart ["com.shop.cart", "com.shop.cartoon"] ["com", "shop"] ∧
      ∃ model, (Model.assemble? shopTable.symbols).result = .ok (some model) ∧
        ∀ destination ∈ model.destinations, ["com", "shop"] <+: segments destination.target.package := by
  have hpackage : default.package? = none := rfl
  obtain ⟨hpackages, -, hpass⟩ := resolvePackage_exact hpackage
  have houtcome : (default.run shopTable MemoryOutput.empty).outcome.toOption =
      some (.generated "com.shop" ["com/shop/destinations/CartScreenDestination.kt", "com/shop/destinations/ToonScreenDestination.kt",
        "com/shop/NavGraphs.kt"]) := by
    decide +kernel
  have hsegments : segments "com.shop" = ["com", "shop"] := by decide +kernel
  have hnofallback : "com.shop" ≠ fallbackPackage := by decide +kernel
  have hresolved : default.resolvePackage ["com.shop.cart", "com.shop.cartoon"] = "com.shop" := by decide +kernel
  refine ⟨hpackage, houtcome, ?_, ?_⟩
  · rcases hpackages ["com.shop.cart", "com.shop.cartoon"] with ⟨-, hfallback⟩ | ⟨start, hne, hlongest, hstart⟩
    · exact absurd (hresolved.symm.trans hfallback) hnofallback
    · have hown := segments_intercalate hne (hlongest.shared _ List.mem_cons_self)
      rw [← hstart, hresolved, hsegments] at hown
      rwa [hown]
  · cases hrun : (default.run shopTable MemoryOutput.empty).outcome with
    | error failure =>
      rw [hrun] at houtcome
      contradiction
    | ok outcome =>
      rw [hrun] at houtcome
      obtain rfl := Option.some.inj houtcome
      obtain ⟨model, hmodel, ⟨-, hfallback⟩ | ⟨hdestinations, -⟩⟩ := hpass _ _ _ _ hrun
      · exact absurd hfallback hnofallback
      · exact ⟨model, hmodel, fun destination hmem => hsegments ▸ hdestinations destination hmem⟩

end Config

end NavGen
