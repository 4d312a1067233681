import NavGen.Check.Destinations
import NavGen.Check.Names
import NavGen.Check.Topology

/-!
# Checking a model

A model is valid when nothing is found: first destination by destination, then of the graphs, then of the names.
-/

namespace NavGen.Model

/-- All that is found of a model, in order. -/
def findings (model : Model) : List Finding :=
  model.destinations.flatMap model.destinationFindings ++ model.graphFindings ++ model.nameFindings

/-- Whether nothing is found of a model. -/
def isValid (model : Model) : Bool :=
  model.findings.isEmpty

end NavGen.Model

namespace NavGen

/-- The report of a list of findings. -/
def Report.ofFindings (findings : List Finding) : Report :=
  { problems := findings.map (·.problem) }

end NavGen
