import NavGen.Check.Destinations
import NavGen.Proofs.Keys
import NavGen.Proofs.Model.Placeholders

/-!
# When nothing is found of a destination

The check of a destination finds nothing exactly if its arguments have distinct names, its deep links have a pattern that binds its arguments
alone, and its graph is in the model.
-/

namespace NavGen

/-- Whether a deep link has a pattern and binds arguments of a destination alone. -/
structure Destination.LinksBy (destination : Destination) (link : DeepLink) : Prop where
  pattern : Text.isBlank link.uriPattern = false
  placeholders : ∀ name ∈ link.placeholders, ∃ argument ∈ destination.arguments, argument.name = name

/-- Whether a destination of a model is well formed on its own. -/
structure Model.WellFormedDestination (model : Model) (destination : Destination) : Prop where
  argumentNames : (destination.arguments.map (·.name)).Nodup
  deepLinks : ∀ link ∈ destination.deepLinks, destination.LinksBy link
  /-- The graph that owns the destination is in the model, under the same simple and qualified name. -/
  graph : ∃ graph ∈ model.graphs, graph.type = destination.graph

theorem repeatedArguments_eq_nil_iff (seen : List String) (arguments : List Argument) :
    repeatedArguments seen arguments = [] ↔ FreshAfter seen (arguments.map (·.name)) := by
  induction arguments generalizing seen with
  | nil => simp [repeatedArguments, freshAfter_nil]
  | cons argument rest ih => simp [repeatedArguments, freshAfter_cons, ih]

namespace Destination

theorem argument?_isNone_iff (destination : Destination) (name : String) :
    (destination.argument? name).isNone = true ↔ ¬∃ argument ∈ destination.arguments, argument.name = name := by
  rw [argument?, ← find?_key_isSome, ← Option.not_isSome, Bool.not_eq_true', Bool.not_eq_true]

/-- A deep link binds arguments alone if what stands between its braces is blank or, without the blanks around it, the name of an argument. -/
theorem linksBy_iff {destination : Destination} {link : DeepLink} :
    destination.LinksBy link ↔ Text.isBlank link.uriPattern = false ∧ ∀ before braced after : String,
      link.uriPattern = before ++ "\x7b" ++ braced ++ "\x7d" ++ after → Text.ClosesBraces before.toList → '\x7d' ∉ braced.toList →
        Text.trim braced ≠ "" → ∃ argument ∈ destination.arguments, argument.name = Text.trim braced := by
  constructor
  · rintro ⟨hpattern, hplaceholders⟩
    refine ⟨hpattern, fun before braced after hsplit hbefore hbraced hne => hplaceholders _ ?_⟩
    exact DeepLink.mem_placeholders_iff.2 ⟨hne, before, braced, after, hsplit, hbefore, hbraced, rfl⟩
  · rintro ⟨hpattern, hbraces⟩
    refine ⟨hpattern, fun name hname => ?_⟩
    obtain ⟨hne, before, braced, after, hsplit, hbefore, hbraced, rfl⟩ := DeepLink.mem_placeholders_iff.1 hname
    exact hbraces before braced after hsplit hbefore hbraced hne

theorem deepLinkFaults_eq_nil_iff (destination : Destination) (link : DeepLink) :
    destination.deepLinkFaults link = [] ↔ destination.LinksBy link := by
  unfold deepLinkFaults
  split
  · rename_i hblank
    refine iff_of_false (List.cons_ne_nil _ _) fun h => ?_
    rw [h.pattern] at hblank
    contradiction
  · rename_i hblank
    simp only [List.map_eq_nil_iff, List.filter_eq_nil_iff, argument?_isNone_iff, not_not]
    exact ⟨fun h => ⟨by simpa using hblank, h⟩, fun h => h.placeholders⟩

end Destination

namespace Model

theorem graph?_isNone_iff (model : Model) (type : Name) :
    (model.graph? type).isNone = true ↔ ¬∃ graph ∈ model.graphs, graph.type = type := by
  rw [graph?, ← find?_key_isSome, ← Option.not_isSome, Bool.not_eq_true', Bool.not_eq_true]

theorem destinationFaults_eq_nil_iff (model : Model) (destination : Destination) :
    model.destinationFaults destination = [] ↔ model.WellFormedDestination destination := by
  have harguments : repeatedArguments [] destination.arguments = [] ↔ (destination.arguments.map (·.name)).Nodup := by
    rw [repeatedArguments_eq_nil_iff, freshAfter_nil_iff]
  have hlinks : destination.deepLinks.flatMap destination.deepLinkFaults = [] ↔
      ∀ link ∈ destination.deepLinks, destination.LinksBy link := by
    simp only [List.flatMap_eq_nil_iff, Destination.deepLinkFaults_eq_nil_iff]
  have hgraph : (if (model.graph? destination.graph).isNone then [Fault.unknownGraph destination.graph] else []) = [] ↔
      ∃ graph ∈ model.graphs, graph.type = destination.graph := by
    rw [ite_eq_right_iff, graph?_isNone_iff]
    simp
  rw [destinationFaults, List.append_eq_nil_iff, List.append_eq_nil_iff, harguments, hlinks, hgraph]
  exact ⟨fun ⟨⟨h1, h2⟩, h3⟩ => ⟨h1, h2, h3⟩, fun h => ⟨⟨h.argumentNames, h.deepLinks⟩, h.graph⟩⟩

/-- Nothing is found of the destinations one by one exactly if each is well formed on its own. -/
theorem destinationFindings_eq_nil_iff (model : Model) :
    model.destinations.flatMap model.destinationFindings = [] ↔
      ∀ destination ∈ model.destinations, model.WellFormedDestination destination := by
  simp only [List.flatMap_eq_nil_iff, destinationFindings, List.map_eq_nil_iff, destinationFaults_eq_nil_iff]

end Model

end NavGen
