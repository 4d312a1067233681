import NavGen.Proofs.Generated.DeepLinks

/-!
# Placeholders of a route

A route is written argument by argument, each with a pair of braces of its own, and read as a deep link pattern it is scanned for braces from left to
right. Reading gives back what was written: each argument once, those that have to be given before those that may be left out, and nothing that the
base of the route or the signs between the arguments would add.
-/

namespace NavGen

/-- Whether a name is read back from a pair of braces as it was written. -/
structure Text.IsBindable (name : String) : Prop where
  nonempty : name ≠ ""
  unbraced : Unbraced name.toList
  /-- There are no blanks around the name. -/
  trimmed : trim name = name

instance (name : String) : Decidable (Text.IsBindable name) :=
  decidable_of_iff (name ≠ "" ∧ Text.Unbraced name.toList ∧ Text.trim name = name)
    ⟨fun ⟨hne, hunbraced, htrim⟩ => ⟨hne, hunbraced, htrim⟩, fun ⟨hne, hunbraced, htrim⟩ => ⟨hne, hunbraced, htrim⟩⟩

namespace DeepLink

/-- What a pattern binds are the texts between its braces, if these can be read back. -/
theorem placeholders_eq_of_isBindable {pattern : String} {names : List String} (hbraced : bracedFrom none pattern.toList = names.map String.toList)
    (hnames : ∀ name ∈ names, Text.IsBindable name) : (ofPattern pattern).placeholders = names := by
  have htrim : (names.map String.toList).map Text.trimChars = names.map String.toList := by
    rw [List.map_map]
    refine List.map_congr_left fun name hmem => ?_
    rw [Function.comp_apply, ← String.ofList_inj, String.ofList_toList]
    exact (hnames name hmem).trimmed
  have hnonempty : (names.map String.toList).filter (!·.isEmpty) = names.map String.toList := by
    refine List.filter_eq_self.2 fun cs hcs => ?_
    obtain ⟨name, hmem, rfl⟩ := List.mem_map.1 hcs
    have hne := (hnames name hmem).nonempty
    simpa using hne
  rw [placeholders, ofPattern, hbraced, htrim, hnonempty, List.map_map]
  exact (List.map_congr_left fun name _ => String.ofList_toList).trans (List.map_id names)

end DeepLink

namespace Destination

open DeepLink

variable {destination : Destination}

/-- A part of a route has the name of its argument between braces, and nothing else. -/
theorem bracedFrom_template_append {part : RoutePart} (hopening : '\x7b' ∉ part.opening.toList) (hname : '\x7d' ∉ part.argument.name.toList)
    (rest : List Char) : bracedFrom none (part.template.toList ++ rest) = part.argument.name.toList :: bracedFrom none rest := by
  have hparts : part.template.toList ++ rest = part.opening.toList ++ '\x7b' :: (part.argument.name.toList ++ '\x7d' :: rest) := by
    rw [toList_template]
    simp only [List.append_assoc, List.cons_append, List.nil_append]
  rw [hparts, bracedFrom_none_append hopening, bracedFrom_none_pair hname]

/-- So the parts one after the other have the names of their arguments. -/
theorem bracedFrom_parts {parts : List RoutePart} (hopenings : ∀ part ∈ parts, '\x7b' ∉ part.opening.toList)
    (hnames : ∀ part ∈ parts, '\x7d' ∉ part.argument.name.toList) :
    bracedFrom none (parts.flatMap (·.template.toList)) = parts.map (·.argument.name.toList) := by
  induction parts with
  | nil => rfl
  | cons part rest ih =>
    rw [List.forall_mem_cons] at hopenings hnames
    rw [List.flatMap_cons, bracedFrom_template_append hopenings.1 hnames.1, ih hopenings.2 hnames.2, List.map_cons]

/-- If the base route opens no braces and the names of arguments can be read back from braces, then the placeholders of the route are the names of all
arguments that have to be given, in order, and then those of all others, in order. -/
theorem placeholders_routeTemplate (hbase : '\x7b' ∉ destination.baseRoute.toList)
    (hnames : ∀ argument ∈ destination.arguments, Text.IsBindable argument.name) :
    (DeepLink.ofPattern destination.routeTemplate).placeholders =
      destination.mandatory.map (·.name) ++ destination.optional.map (·.name) := by
  have hunbraced : ∀ part ∈ destination.routeParts, Text.Unbraced part.argument.name.toList := fun part hpart =>
    (hnames _ (destination.perm_argument_routeParts.mem_iff.1 (List.mem_map_of_mem hpart))).unbraced
  have hopenings : ∀ part ∈ destination.routeParts, '\x7b' ∉ part.opening.toList := fun part hpart hmem =>
    (unbraced_opening hpart (hunbraced part hpart) _ hmem).1 rfl
  have hall : destination.mandatory.map (·.name) ++ destination.optional.map (·.name) =
      destination.routeParts.map (·.argument.name) := by
    rw [← List.map_append, ← argument_routeParts, List.map_map]
    rfl
  rw [hall]
  refine placeholders_eq_of_isBindable ?_ fun name hmem => ?_
  · rw [toList_routeTemplate, bracedFrom_none_append hbase,
      bracedFrom_parts hopenings fun part hpart => not_mem_of_unbraced (hunbraced part hpart), List.map_map]
    rfl
  · obtain ⟨part, hpart, rfl⟩ := List.mem_map.1 hmem
    exact hnames _ (destination.perm_argument_routeParts.mem_iff.1 (List.mem_map_of_mem hpart))

/-- A destination whose base route closes a pair of braces, with arguments of both kinds in turn, one with a blank in its name. -/
def feedDestination : Destination :=
  let argument (name : String) (nullable : Bool) (default? : Option String) : Argument :=
    { name, type := ⟨Name.ofQualified "kotlin.String", nullable, []⟩, navType := .primitive .string, default? }
  { name := "FeedDestination", target := Name.ofQualified "app.Feed", kind := .composable, baseRoute := "feed\x7d"
    graph := Name.ofQualified "app.RootGraph", isStart := true
    arguments := [argument "tab" true none, argument "id" false none, argument "page" false (some "1"), argument "user name" false none]
    argumentsClass? := none, deepLinks := [], result? := none, sourceIds := [] }

/-- The placeholders of a route with arguments of both kinds. -/
theorem placeholders_routeTemplate_feed :
    feedDestination.routeTemplate = "feed\x7d/\x7bid\x7d/\x7buser name\x7d?tab=\x7btab\x7d&page=\x7bpage\x7d" ∧
      '\x7b' ∉ feedDestination.baseRoute.toList ∧ (∀ argument ∈ feedDestination.arguments, Text.IsBindable argument.name) ∧
      (DeepLink.ofPattern feedDestination.routeTemplate).placeholders = ["id", "user name", "tab", "page"] := by
  have hbase : '\x7b' ∉ feedDestination.baseRoute.toList := by decide
  have hnames : ∀ argument ∈ feedDestination.arguments, Text.IsBindable argument.name := by decide +kernel
  exact ⟨by decide +kernel, hbase, hnames, placeholders_routeTemplate hbase hnames⟩

end Destination

end NavGen
