import Mathlib.Data.List.Forall2
import NavGen.Proofs.Generated.CalledNames
import NavGen.Proofs.Generated.GraphsObject
import NavGen.Proofs.Generated.PublishedModule

/-!
# Scopes of generated files

The generated files are put together from parts, many of which are there only under a condition or once for each argument, deep link, graph or module.
Each part closes the scopes that it opens, whatever it is generated for, and so do the files.
-/

namespace NavGen

namespace Fragment

theorem wellNested_concat {fragments : List Fragment} (h : ∀ fragment ∈ fragments, Layout.WellNested fragment.layout) :
    Layout.WellNested (Fragment.concat fragments).layout :=
  Layout.WellNested.flatMap h

theorem wellNested_section? {fragment : Fragment} (h : Layout.WellNested fragment.layout) (condition : Bool) :
    Layout.WellNested (Fragment.section? condition fragment).layout := by
  cases condition with
  | false => exact Layout.wellNested_nil
  | true => exact h.blank

end Fragment

namespace Generation

variable (generation : Generation)

/-! ## Files of destinations -/

section

variable (destination : Destination)

theorem wellNested_argumentsProperty (arguments : List Argument) : Layout.WellNested (generation.argumentsProperty arguments).layout := by
  refine Layout.WellNested.bracketed (Layout.WellNested.flatMap fun argument _ => Layout.WellNested.braced ?_ _ _) _ _
  rw [Argument.description_eq]
  exact Layout.wellNested_map_code (fun line => line) _

theorem wellNested_deepLinkLines (route : String) (link : DeepLink) : Layout.WellNested (deepLinkLines route link) := by
  refine Layout.WellNested.braced ?_ _ _
  -- inside stand lines alone, from one to three of them
  cases link.action? <;> cases link.mimeType? <;> exact fun _ => rfl

theorem wellNested_deepLinksProperty : Layout.WellNested (deepLinksProperty destination).layout :=
  (Layout.WellNested.flatMap fun link _ => wellNested_deepLinkLines _ link).bracketed _ _

/-- The properties of an activity are lines, which leave all scopes as they are. -/
theorem wellNested_activityProperties (info : ActivityInfo) : Layout.WellNested (activityProperties destination info).layout :=
  fun _ => rfl

/-- So are those of a result. -/
theorem wellNested_resultProperties (result : ResultSender) : Layout.WellNested (generation.resultProperties result).layout :=
  fun _ => rfl

theorem wellNested_activitySection : Layout.WellNested (activitySection destination).layout := by
  unfold activitySection
  split
  · exact Layout.wellNested_nil
  · exact Fragment.wellNested_section? (wellNested_activityProperties destination _) _

theorem wellNested_resultSection : Layout.WellNested (generation.resultSection destination).layout := by
  unfold resultSection
  split
  · exact Layout.wellNested_nil
  · exact Fragment.wellNested_section? (generation.wellNested_resultProperties _) _

theorem wellNested_routePartLines (parts : List RoutePart) : Layout.WellNested (generation.routePartLines parts) := by
  fun_induction routePartLines with
  | case1 => exact Layout.wellNested_nil
  | case2 => exact Layout.wellNested_nil.code _
  | case3 _ _ _ ih => exact ih.code _

/-- The operator stands one level deeper for its parameters, and in its body twice for the parts of the route. -/
theorem wellNested_invokeOperator : Layout.WellNested (generation.invokeOperator destination).layout := by
  unfold invokeOperator
  split
  · exact Layout.wellNested_nil.code _
  · have hparameters := (Layout.wellNested_map_code (·.parameterCode) destination.arguments).indented
    have hroute := ((generation.wellNested_routePartLines destination.routeParts).indented.code "baseRoute +").indented
    have hbody := ((hroute.append (Layout.wellNested_nil.code ")")).code "return Direction(").braced (.code "): Direction") ""
    simpa using (hparameters.append hbody).code "public operator fun invoke("

theorem wellNested_argumentsClass (arguments : List Argument) : Layout.WellNested (argumentsClass arguments) :=
  ((Layout.wellNested_map_code _ arguments).bracketed _ _).append Layout.wellNested_nil.blank

theorem wellNested_argumentsReader : Layout.WellNested (generation.argumentsReader destination).layout := by
  refine Layout.WellNested.append ?_ (Layout.WellNested.braced ((Layout.wellNested_map_code _ _).bracketed _ _) _ _)
  split
  · exact Layout.wellNested_nil
  · exact wellNested_argumentsClass _

theorem wellNested_destinationMembers : Layout.WellNested (generation.destinationMembers destination).layout := by
  have hroute : ∀ text, Layout.WellNested [Layout.code text] := Layout.wellNested_nil.code
  refine Fragment.wellNested_concat ?_
  simp only [List.forall_mem_cons]
  exact ⟨
    Fragment.wellNested_section? (hroute _) _,
    Fragment.wellNested_section? (hroute _) _,
    Fragment.wellNested_section? (generation.wellNested_argumentsProperty _) _,
    Fragment.wellNested_section? (wellNested_deepLinksProperty destination) _,
    wellNested_activitySection destination,
    generation.wellNested_resultSection destination,
    Fragment.wellNested_section? (generation.wellNested_invokeOperator destination) _,
    Fragment.wellNested_section? (generation.wellNested_argumentsReader destination) _,
    nofun⟩

theorem wellNested_destinationSource : Layout.WellNested (generation.destinationSource destination).body.layout :=
  (generation.wellNested_destinationMembers destination).braced _ _

end

/-! ## Files of value types -/

section

variable (type : ValueType)

theorem wellNested_enumerationBody (package : String) : Layout.WellNested (type.enumerationBody package).layout := by
  refine Layout.WellNested.append (Layout.wellNested_nil.line _) ?_
  split
  · exact (Layout.wellNested_nil.line _).blank
  · exact Layout.wellNested_nil

/-- Each function of a nav type class has a body of its own inside the class. -/
theorem wellNested_memberFunction (signature line : String) : Layout.WellNested (ValueType.memberFunction signature line) :=
  ((Layout.wellNested_nil.code line).braced _ _).blank

theorem wellNested_navTypeClass : Layout.WellNested type.navTypeClass.layout := by
  have hmember := wellNested_memberFunction
  refine Layout.WellNested.append (((Layout.wellNested_nil.code _).indented).code _) (Layout.WellNested.braced ?_ _ _)
  exact (((((hmember _ _).append (hmember _ _)).append (hmember _ _)).append (hmember _ _)).append (hmember _ _)).append (hmember _ _)

theorem wellNested_classBody (package : String) : Layout.WellNested (type.classBody package).layout := by
  refine Fragment.wellNested_concat ?_
  simp only [List.forall_mem_cons]
  exact ⟨
    Layout.wellNested_nil.line _,
    Fragment.wellNested_section? (Layout.wellNested_nil.line _) _,
    Fragment.wellNested_section? (wellNested_navTypeClass type) _,
    nofun⟩

theorem wellNested_valueTypeSource : Layout.WellNested (generation.valueTypeSource type).body.layout := by
  unfold valueTypeSource
  dsimp only
  split
  · exact wellNested_enumerationBody type _
  · exact wellNested_classBody type _

end

/-! ## Files of the whole module -/

/-- The branch for all other classes goes on one level deeper behind its brackets. -/
theorem wellNested_otherBranch (packages : List String) : Layout.WellNested (otherBranch packages) := by
  unfold otherBranch
  split
  · exact Layout.wellNested_nil.code _
  · exact ((Layout.wellNested_map_code _ _).bracketed _ _).append (Layout.wellNested_nil.code _).indented

theorem wellNested_gettersSource : Layout.WellNested generation.gettersSource.body.layout := by
  have hbranches : Layout.WellNested (generation.destinationsWithArguments.map getterBranch) := Layout.wellNested_map_code _ _
  exact Layout.WellNested.append ((Layout.wellNested_nil.code _).blank.code _)
    (((hbranches.append (wellNested_otherBranch _)).braced _ _).braced _ _)

theorem wellNested_externalLayout : Layout.WellNested generation.externalLayout := by
  unfold externalLayout
  split
  · exact Layout.wellNested_nil
  · exact ((Layout.wellNested_map_code _ _).bracketed _ _).blank

theorem wellNested_graphsSource : Layout.WellNested generation.graphsSource.body.layout := by
  rw [layout_graphsSource]
  exact ((wellNested_graphsLayout _).append generation.wellNested_externalLayout).braced _ _

theorem wellNested_registrySource (moduleName : String) : Layout.WellNested (generation.registrySource moduleName).body.layout := by
  have harguments := (ArgumentCode.wellNested_argumentLayout
    (infoArguments (.ofModule moduleName) moduleName generation.surface)).bracketed
      (.code ("@" ++ (RegistryNames.ofModule moduleName).info ++ "(")) ")"
  rw [layout_registrySource]
  exact (wellNested_registryClasses _).append (harguments.append (Layout.wellNested_nil.line _))

/-! ## All files -/

theorem wellNested_of_mem_sources {source : NamedSource} (h : source ∈ generation.sources) : Layout.WellNested source.file.body.layout := by
  simp only [sources, List.mem_append, List.mem_map, List.mem_singleton, Option.mem_toList, Option.map_eq_some_iff] at h
  rcases h with (((⟨destination, -, rfl⟩ | ⟨type, -, rfl⟩) | h) | rfl) | ⟨moduleName, -, rfl⟩
  · exact generation.wellNested_destinationSource destination
  · exact generation.wellNested_valueTypeSource type
  · split at h
    · rw [List.mem_singleton.1 h]
      exact generation.wellNested_gettersSource
    · contradiction
  · exact generation.wellNested_graphsSource
  · exact generation.wellNested_registrySource moduleName

/-- Each generated file is the text of a source file whose scopes match. Nothing is closed at depth zero, and nothing stays open. -/
theorem balanced_files :
    List.Forall₂ (fun source file => Layout.Balanced source.file.body.layout ∧ source.file.text = file.content)
      generation.sources generation.files := by
  have hcontent : List.Forall₂ (fun source file => source.file.text = file.content) generation.sources generation.files := by
    have htexts : List.Forall₂ Eq (generation.sources.map (·.file.text)) (generation.files.map (·.content)) := by
      rw [List.forall₂_eq_eq_eq]
      exact generation.content_files.symm
    rwa [List.forall₂_map_left_iff, List.forall₂_map_right_iff] at htexts
  exact (List.forall₂_and_left _ _).2 ⟨fun source hsource => (generation.wellNested_of_mem_sources hsource).balanced, hcontent⟩

end Generation

end NavGen
