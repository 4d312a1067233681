import NavGen.Check.Finding

/-!
# Checking destinations

Of each destination on its own: the names of its arguments differ, its deep links bind only its arguments, and the graph that owns it is in
the model.
-/

namespace NavGen

/-- A fault for each argument whose name an argument before it has. -/
def repeatedArguments (seen : List String) : List Argument → List Fault
  | [] => []
  | argument :: rest =>
    (if seen.contains argument.name then [.repeatedArgument argument.name] else [])
      ++ repeatedArguments (argument.name :: seen) rest

/-- The faults of a deep link of a destination. -/
def Destination.deepLinkFaults (destination : Destination) (link : DeepLink) : List Fault :=
  if Text.isBlank link.uriPattern then [.blankDeepLink]
  else
    (link.placeholders.filter fun name => (destination.argument? name).isNone).map fun name =>
      .unknownPlaceholder link.uriPattern name destination.name

/-- The faults of a destination of a model. -/
def Model.destinationFaults (model : Model) (destination : Destination) : List Fault :=
  repeatedArguments [] destination.arguments
    ++ destination.deepLinks.flatMap destination.deepLinkFaults
    ++ (if (model.graph? destination.graph).isNone then [.unknownGraph destination.graph] else [])

/-- What is found of one destination. -/
def Model.destinationFindings (model : Model) (destination : Destination) : List Finding :=
  (model.destinationFaults destination).map fun fault => { declaration := destination.target.qualified, fault }

end NavGen
