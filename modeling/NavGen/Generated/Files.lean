import NavGen.Generated.ArgumentGetters
import NavGen.Generated.DestinationObject
import NavGen.Generated.GraphsObject
import NavGen.Generated.ModuleRegistry
import NavGen.Generated.ValueTypeFile

/-!
# All generated files

What is generated for a model: a file for each destination and each value type, the getters of arguments, the object of all graphs and the
registry of the module. Order and content depend on the model and the settings alone.
-/

namespace NavGen.Generation

/-- The generated files, in order. -/
def files (generation : Generation) : List GeneratedFile :=
  generation.model.destinations.map generation.destinationFile
    ++ generation.model.valueTypes.map generation.valueTypeFile
    ++ generation.gettersFile?.toList
    ++ [generation.graphsFile]
    ++ generation.registryFile?.toList

end NavGen.Generation
