import NavGen.Model.Snapshot
import NavGen.Output.Directory
import NavGen.Output.Limited
import NavGen.Output.Memory
import NavGen.Pass.Run
import NavGen.Symbol.Snapshot
import NavGen.Proofs.Check.Destinations
import NavGen.Proofs.Check.Entering
import NavGen.Proofs.Check.Names
import NavGen.Proofs.Check.ParentChains
import NavGen.Proofs.Check.Topology
import NavGen.Proofs.Check.WellFormed
import NavGen.Proofs.Generated.DeclaredNames
import NavGen.Proofs.Generated.PublishedModule
import NavGen.Proofs.Output.Memory
import NavGen.Proofs.Output.Paths
import NavGen.Proofs.Pass.Flush
import NavGen.Proofs.Order
import NavGen.Proofs.Pass.AnnotationChains
import NavGen.Proofs.Pass.AnnotationPath
import NavGen.Proofs.Pass.DeclaredGraphs
import NavGen.Proofs.Pass.Destinations
import NavGen.Proofs.Pass.Reordering
import NavGen.Proofs.Generated.ArgumentRenderings
import NavGen.Proofs.Pass.CombinedAnnotations
import NavGen.Proofs.Generated.NavTypeNames
import NavGen.Proofs.Generated.GraphMembers
import NavGen.Proofs.Generated.DeepLinks
import NavGen.Proofs.Generated.OperatorScope
import NavGen.Proofs.Pass.NavTypes
import NavGen.Proofs.Generated.RouteTemplates
import NavGen.Proofs.Pass.UnrelatedDeclarations
import NavGen.Proofs.Pass.RecordedSources
import NavGen.Proofs.Pass.Imports
import NavGen.Proofs.Model.Snapshot
import NavGen.Proofs.Symbol.Snapshot
import NavGen.Proofs.Pass.CompletedGraphs
import NavGen.Proofs.Pass.MarkedStarts
import NavGen.Proofs.Check.ParentCycles
import NavGen.Proofs.Symbol.Supertypes
import NavGen.Proofs.Symbol.AliasChains
import NavGen.Proofs.Pass.RegisteredSerializers
import NavGen.Proofs.Pass.AliasedSerializers
import NavGen.Proofs.Pass.Parameters
import NavGen.Output.Tables
import NavGen.Proofs.Generated.RoutePlaceholders
import NavGen.Proofs.Model.CollectedValueTypes
import NavGen.Proofs.Output.Tables
import NavGen.Proofs.Pass.SharedPackage
import NavGen.Proofs.Generated.ModuleRegistries
import NavGen.Proofs.Check.ParentSearch
import NavGen.Proofs.Source.Literals
import NavGen.Proofs.Generated.BalancedFiles
