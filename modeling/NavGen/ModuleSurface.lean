/-!
# What a module publishes

The part of a module's navigation that other modules see: where its code is generated, its top level graphs and the results that its
destinations send back.
-/

namespace NavGen

/-- A destination that sends a result back, as its module publishes it. -/
structure PublishedResult where
  destination : String
  type : String
  isNullable : Bool
  navType : String
  deriving DecidableEq

/-- The navigation that a module exports. -/
structure ModuleSurface where
  name? : Option String
  /-- The package of the generated code. -/
  package : String
  /-- Whether getters of arguments are generated below that package. -/
  hasArgumentGetters : Bool
  /-- The top level graphs, by their property names. -/
  topLevelGraphs : List String
  results : List PublishedResult
  deriving DecidableEq

/-- The qualified reference to a top level graph of the module. -/
def ModuleSurface.graphReference (surface : ModuleSurface) (graph : String) : String :=
  surface.package ++ ".NavGraphs." ++ graph

end NavGen
