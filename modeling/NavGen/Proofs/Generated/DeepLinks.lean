import NavGen.Proofs.Check.WellFormed
import NavGen.Proofs.Generated.ArgumentRenderings
import NavGen.Proofs.Model.Placeholders
import NavGen.Proofs.Pass.AssembledModel

/-!
# Deep links with the whole route

The pattern of a deep link may stand for the whole route of its destination. The check of a model reads the placeholders of the pattern as it is
written, but the pattern that is generated has the route in it, whose braces join in when placeholders are read once more. If no pair of braces is
open where the route comes in, the generated pattern binds arguments alone as soon as the route by itself does. If one is open, then the route closes
it, and what stands between the braces is no argument, so that the check accepts a link that binds something else.
-/

namespace NavGen

/-- Whether a pattern stands for the whole route somewhere. -/
def DeepLink.NamesRoute (link : DeepLink) : Prop :=
  Library.fullRoutePlaceholder.toList <:+: link.uriPattern.toList

/-- Whether no pair of braces is open where a pattern stands for the whole route. -/
def DeepLink.RouteOutsideBraces (link : DeepLink) : Prop :=
  OutsideBraces Library.fullRoutePlaceholder.toList none link.uriPattern.toList

/-- That is so exactly if each opening brace has a closing one between it and the route. -/
theorem DeepLink.routeOutsideBraces_iff {link : DeepLink} :
    link.RouteOutsideBraces ↔
      ∀ before after, link.uriPattern.toList = before ++ Library.fullRoutePlaceholder.toList ++ after → Text.ClosesBraces before := by
  simp only [RouteOutsideBraces, OutsideBraces, openAfter_none_eq_none_iff]

namespace Destination

open DeepLink

/-- Whether all that a pattern binds are arguments of a destination. -/
def BindsOnly (destination : Destination) (pattern : String) : Prop :=
  ∀ name ∈ (DeepLink.ofPattern pattern).placeholders, ∃ argument ∈ destination.arguments, argument.name = name

instance (destination : Destination) (pattern : String) : Decidable (destination.BindsOnly pattern) :=
  inferInstanceAs (Decidable (∀ name ∈ (DeepLink.ofPattern pattern).placeholders, ∃ argument ∈ destination.arguments, argument.name = name))

/-- Whether the route of a destination can come into a deep link: outside braces, and with placeholders that are arguments. -/
structure TakesRoute (destination : Destination) (link : DeepLink) : Prop where
  outside : link.RouteOutsideBraces
  route : link.NamesRoute → destination.BindsOnly destination.routeTemplate

variable {destination : Destination}

/-- A pattern binds arguments alone if each text between its braces is blank or, without the blanks around it, an argument. -/
theorem bindsOnly_iff {pattern : String} :
    destination.BindsOnly pattern ↔ ∀ braced ∈ bracedFrom none pattern.toList, Text.trimChars braced ≠ [] →
      ∃ argument ∈ destination.arguments, argument.name = String.ofList (Text.trimChars braced) := by
  simp only [BindsOnly, placeholders, ofPattern, List.mem_map, List.mem_filter, Bool.not_eq_true', List.isEmpty_eq_false_iff]
  constructor
  · intro h braced hmem hne
    exact h _ ⟨_, ⟨⟨braced, hmem, rfl⟩, hne⟩, rfl⟩
  · rintro h _ ⟨_, ⟨⟨braced, hmem, rfl⟩, hne⟩, rfl⟩
    exact h braced hmem hne

/-- The placeholder for the whole route is read as it is: it has no braces and is not blank. -/
theorem fullRoutePlaceholder_facts : Library.fullRoutePlaceholder.toList ≠ [] ∧ Text.Unbraced Library.fullRoutePlaceholder.toList ∧
    ∃ c ∈ Library.fullRoutePlaceholder.toList, Text.isBlankChar c = false :=
  ⟨by decide +kernel, by decide +kernel, '@', by decide +kernel, by decide +kernel⟩

/-! ## The braces of a route -/

/-- The characters of a route: those of the base route, then those of each part. -/
theorem toList_routeTemplate (destination : Destination) :
    destination.routeTemplate.toList = destination.baseRoute.toList ++ destination.routeParts.flatMap (·.template.toList) := by
  have hjoin : ∀ parts : List RoutePart, (String.join (parts.map (·.template))).toList = parts.flatMap (·.template.toList) := by
    intro parts
    induction parts with
    | nil => rfl
    | cons part rest ih => rw [List.map_cons, String.join_cons, String.toList_append, ih, List.flatMap_cons]
  rw [← append_join_routeParts, String.toList_append, hjoin]

theorem toList_template (part : RoutePart) :
    part.template.toList = part.opening.toList ++ '\x7b' :: part.argument.name.toList ++ ['\x7d'] := by
  simp [RoutePart.template]

/-- A route leaves no pair of braces open. -/
theorem openAfter_routeTemplate (hbase : Text.Unbraced destination.baseRoute.toList) : openAfter none destination.routeTemplate.toList = none := by
  rw [toList_routeTemplate, openAfter_append, openAfter_none_of_unbraced hbase]
  induction destination.routeParts with
  | nil => rfl
  | cons part rest ih => rw [List.flatMap_cons, openAfter_append, toList_template, openAfter_closed, ih]

/-- What opens a query parameter are the sign before it, the name of its argument and an equals sign. -/
theorem mem_opening_queryParts {opening : String} {arguments : List Argument} {part : RoutePart} (h : part ∈ queryParts opening arguments)
    {c : Char} (hc : c ∈ part.opening.toList) : c ∈ opening.toList ∨ c = '&' ∨ c ∈ part.argument.name.toList ∨ c = '=' := by
  obtain ⟨sign, hsign, hopening⟩ := exists_opening_of_mem_queryParts h
  rw [hopening, String.toList_append, String.toList_append, List.mem_append, List.mem_append] at hc
  rcases hc with (hc | hc) | hc
  · rcases hsign with rfl | rfl
    · exact Or.inl hc
    · exact Or.inr (Or.inl (by simpa using hc))
  · exact Or.inr (Or.inr (Or.inl hc))
  · exact Or.inr (Or.inr (Or.inr (by simpa using hc)))

/-- What opens a part of a route has no braces if the name of its argument has none. -/
theorem unbraced_opening {part : RoutePart} (h : part ∈ destination.routeParts) (hname : Text.Unbraced part.argument.name.toList) :
    Text.Unbraced part.opening.toList := by
  intro c hc
  rcases List.mem_append.1 h with h | h
  · obtain ⟨argument, -, rfl⟩ := List.mem_map.1 h
    have hslash : Text.Unbraced "/".toList := by decide
    exact hslash c hc
  · have hsigns : Text.Unbraced ['?', '&', '='] := by decide
    rcases mem_opening_queryParts h hc with hsign | rfl | hmem | rfl
    · exact hsigns c (List.mem_cons.2 (Or.inl (by simpa using hsign)))
    · exact hsigns _ (by decide)
    · exact hname c hmem
    · exact hsigns _ (by decide)

/-- A route with arguments closes a pair of braces that is open before it, and the text of that pair has an opening brace: that of the first
argument. -/
theorem exists_nested_routeTemplate (hbase : Text.Unbraced destination.baseRoute.toList) (harguments : destination.arguments ≠ [])
    (hnames : ∀ argument ∈ destination.arguments, Text.Unbraced argument.name.toList) (read : List Char) :
    ∃ braced ∈ bracedFrom (some read) destination.routeTemplate.toList, '\x7b' ∈ braced := by
  have hperm := destination.perm_argument_routeParts
  rw [toList_routeTemplate]
  cases hparts : destination.routeParts with
  | nil =>
    rw [hparts] at hperm
    exact absurd hperm.nil_eq.symm harguments
  | cons part rest =>
    have hpart : part ∈ destination.routeParts := by rw [hparts]; exact List.mem_cons_self
    have hunbraced := hnames _ (hperm.mem_iff.1 (List.mem_map_of_mem hpart))
    have hname := not_mem_of_unbraced hunbraced
    have hbefore : '\x7d' ∉ destination.baseRoute.toList ++ (part.opening.toList ++ '\x7b' :: part.argument.name.toList) := by
      simp only [List.mem_append, List.mem_cons, not_or]
      exact ⟨not_mem_of_unbraced hbase, not_mem_of_unbraced (unbraced_opening hpart hunbraced), by decide, hname⟩
    have hsplit : destination.baseRoute.toList ++ List.flatMap (·.template.toList) (part :: rest) =
        (destination.baseRoute.toList ++ (part.opening.toList ++ '\x7b' :: part.argument.name.toList)) ++
          '\x7d' :: rest.flatMap (·.template.toList) := by
      rw [List.flatMap_cons, toList_template]
      simp only [List.append_assoc, List.singleton_append]
    rw [hsplit, bracedFrom_some_append hbefore]
    exact ⟨_, List.mem_cons_self, by simp⟩

/-! ## Generated patterns -/

theorem toList_resolvedPattern (link : DeepLink) (route : String) :
    (link.resolvedPattern route).toList = Text.replaceChars Library.fullRoutePlaceholder.toList route.toList 0 link.uriPattern.toList :=
  String.toList_ofList

/-- Where a pattern stands for the route outside braces, it binds arguments alone if the pattern as written and the route do. -/
theorem bindsOnly_resolvedPattern_iff_of_outside (hbase : Text.Unbraced destination.baseRoute.toList) {link : DeepLink}
    (houtside : link.RouteOutsideBraces) :
    destination.BindsOnly (link.resolvedPattern destination.routeTemplate) ↔
      destination.BindsOnly link.uriPattern ∧ (link.NamesRoute → destination.BindsOnly destination.routeTemplate) := by
  obtain ⟨hne, hunbraced, -⟩ := fullRoutePlaceholder_facts
  have hmem := mem_bracedFrom_replaceChars_iff hne hunbraced (openAfter_routeTemplate hbase) houtside
  simp only [bindsOnly_iff, toList_resolvedPattern, hmem, or_imp, and_imp, forall_and]
  refine and_congr_right fun _ => ⟨fun h hroute braced => h braced hroute, fun h braced hroute => h hroute braced⟩

/-- A destination without arguments has no placeholders in its route, so the generated pattern binds nothing if the pattern as written does not. -/
theorem bindsOnly_resolvedPattern_of_no_arguments (hbase : Text.Unbraced destination.baseRoute.toList) (harguments : destination.arguments = [])
    {link : DeepLink} (hpattern : destination.BindsOnly link.uriPattern) :
    destination.BindsOnly (link.resolvedPattern destination.routeTemplate) := by
  obtain ⟨hne, hunbraced, hblank⟩ := fullRoutePlaceholder_facts
  have hroute : destination.routeTemplate = destination.baseRoute := by
    simp [routeTemplate, mandatory, optional, query, harguments]
  rw [bindsOnly_iff] at hpattern ⊢
  have hall : ∀ braced ∈ bracedFrom none link.uriPattern.toList, ∀ c ∈ braced, Text.isBlankChar c = true := by
    intro braced hmem c hc
    by_contra hcBlank
    have htrim := List.ne_nil_of_mem (Text.mem_trimChars hc (Bool.eq_false_iff.2 hcBlank))
    obtain ⟨argument, hargument, -⟩ := hpattern braced hmem htrim
    rw [harguments] at hargument
    exact absurd hargument List.not_mem_nil
  rw [toList_resolvedPattern, hroute]
  exact fun braced hmem => hpattern braced (bracedFrom_replaceChars_subset hne hunbraced hblank hbase (Or.inl rfl) hall hmem)

/-- If a destination has arguments and no name of one has braces, then a pattern that binds arguments alone takes the route in outside braces. -/
theorem routeOutsideBraces_of_bindsOnly (hbase : Text.Unbraced destination.baseRoute.toList) (harguments : destination.arguments ≠ [])
    (hnames : ∀ argument ∈ destination.arguments, Text.Unbraced argument.name.toList) {link : DeepLink}
    (h : destination.BindsOnly (link.resolvedPattern destination.routeTemplate)) : link.RouteOutsideBraces := by
  obtain ⟨hne, hunbraced, -⟩ := fullRoutePlaceholder_facts
  by_contra hinside
  obtain ⟨braced, hmem, hbrace⟩ := exists_nested_of_not_outsideBraces hne hunbraced (openAfter_routeTemplate hbase)
    (exists_nested_routeTemplate hbase harguments hnames) hinside
  rw [← toList_resolvedPattern] at hmem
  have htrim := Text.mem_trimChars hbrace (by decide)
  obtain ⟨argument, hargument, hname⟩ := bindsOnly_iff.1 h braced hmem (List.ne_nil_of_mem htrim)
  refine (hnames argument hargument '\x7b' ?_).1 rfl
  rw [hname, String.toList_ofList]
  exact htrim

end Destination

namespace Model

variable {model : Model} {destination : Destination}

/-- The base route of a destination of a valid model has no braces. -/
theorem WellFormed.unbraced_baseRoute (h : model.WellFormed) (hdestination : destination ∈ model.destinations) :
    Text.Unbraced destination.baseRoute.toList := by
  have hplain := h.names.plainRoutes _ (List.mem_append_left _ (List.mem_map_of_mem hdestination))
  intro c hc
  have hreserved := hplain.unreserved c hc
  constructor
  · rintro rfl
    exact hreserved (by decide)
  · rintro rfl
    exact hreserved (by decide)

/-- A deep link of a valid model, as it is generated, binds arguments of its destination alone exactly if there are none or the route can come into
the link. What is left open is the case that the names of arguments have braces themselves and the route comes in between braces, too. -/
theorem bindsOnly_resolvedPattern_iff (hvalid : model.isValid = true) (hdestination : destination ∈ model.destinations) {link : DeepLink}
    (hlink : link ∈ destination.deepLinks)
    (hnames : link.RouteOutsideBraces ∨ ∀ argument ∈ destination.arguments, Text.Unbraced argument.name.toList) :
    destination.BindsOnly (link.resolvedPattern destination.routeTemplate) ↔ destination.arguments = [] ∨ destination.TakesRoute link := by
  have hmodel := (isValid_iff_wellFormed model).1 hvalid
  have hbase := hmodel.unbraced_baseRoute hdestination
  have hpattern : destination.BindsOnly link.uriPattern := ((hmodel.destinations destination hdestination).deepLinks link hlink).placeholders
  by_cases harguments : destination.arguments = []
  · exact iff_of_true (Destination.bindsOnly_resolvedPattern_of_no_arguments hbase harguments hpattern) (Or.inl harguments)
  · rw [or_iff_right harguments]
    constructor
    · intro h
      have houtside := hnames.elim id fun hnames => Destination.routeOutsideBraces_of_bindsOnly hbase harguments hnames h
      exact ⟨houtside, ((Destination.bindsOnly_resolvedPattern_iff_of_outside hbase houtside).1 h).2⟩
    · rintro ⟨houtside, hroute⟩
      exact (Destination.bindsOnly_resolvedPattern_iff_of_outside hbase houtside).2 ⟨hpattern, hroute⟩

/-- A screen with an argument that must be given and one that may be left out, and with one deep link. -/
def linkedTable (pattern : String) : SymbolTable :=
  { declarations := [{
      qualified := "app.ProfileScreen"
      kind := .function
      parameters := [
        { name := "userId", type := .plain "kotlin.Int", default? := none },
        { name := "tab", type := { qualified := "kotlin.String", nullable := true, arguments := [] }, default? := none }]
      annotations := [{
        type := Library.destination
        typeArguments := []
        arguments := [
          ("start", .bool true),
          ("deepLinks", .array [.nested Library.deepLink [] [("uriPattern", .text pattern)]])] }] }] }

/-- A pattern with an argument of its own takes the route in behind it. -/
theorem bindsOnly_resolvedPattern_iff_host :
    ∃ model, (assemble? (linkedTable "https://user-\x7buserId\x7d.app/@ramcosta.destinations.fullroute@").symbols).result = .ok (some model) ∧
      model.isValid = true ∧ ∃ destination ∈ model.destinations, ∃ link ∈ destination.deepLinks, destination.arguments ≠ [] ∧
        link.resolvedPattern destination.routeTemplate = "https://user-\x7buserId\x7d.app/profile_screen/\x7buserId\x7d?tab=\x7btab\x7d" ∧
        (∀ argument ∈ destination.arguments, Text.Unbraced argument.name.toList) ∧ destination.TakesRoute link := by
  obtain ⟨model, hassembled, hvalid, destination, hdestination, link, hlink, hlength, hpattern, hnames, hbinds⟩ := exists_assembled
    (linkedTable "https://user-\x7buserId\x7d.app/@ramcosta.destinations.fullroute@").symbols
    (fun model => model.isValid = true ∧ ∃ destination ∈ model.destinations, ∃ link ∈ destination.deepLinks,
      destination.arguments.length = 2 ∧
      link.resolvedPattern destination.routeTemplate = "https://user-\x7buserId\x7d.app/profile_screen/\x7buserId\x7d?tab=\x7btab\x7d" ∧
      (∀ argument ∈ destination.arguments, Text.Unbraced argument.name.toList) ∧
      destination.BindsOnly (link.resolvedPattern destination.routeTemplate)) (by decide +kernel)
  have harguments : destination.arguments ≠ [] := List.ne_nil_of_length_pos (hlength ▸ Nat.two_pos)
  have htakes := (bindsOnly_resolvedPattern_iff hvalid hdestination hlink (Or.inr hnames)).1 hbinds
  exact ⟨model, hassembled, hvalid, destination, hdestination, link, hlink, harguments, hpattern, hnames, htakes.resolve_left harguments⟩

/-- That the deep links of a valid model bind arguments alone is false in general: the route can come in where a pair of braces is open. -/
theorem bindsOnly_resolvedPattern_false :
    ¬∀ model : Model, model.isValid = true → ∀ destination ∈ model.destinations, ∀ link ∈ destination.deepLinks,
      destination.BindsOnly (link.resolvedPattern destination.routeTemplate) := by
  intro hbinds
  obtain ⟨model, -, hvalid, destination, hdestination, link, hlink, hbroken⟩ := exists_assembled
    (linkedTable "app://\x7b@ramcosta.destinations.fullroute@").symbols
    (fun model => model.isValid = true ∧ ∃ destination ∈ model.destinations, ∃ link ∈ destination.deepLinks,
      ¬destination.BindsOnly (link.resolvedPattern destination.routeTemplate)) (by decide +kernel)
  exact hbroken (hbinds model hvalid destination hdestination link hlink)

end Model

end NavGen
