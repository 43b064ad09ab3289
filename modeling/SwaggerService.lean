import SwaggerService.Main
import SwaggerService.Proofs.Outline
import SwaggerService.Proofs.Returns
import SwaggerService.Proofs.SchemaOutline
import SwaggerService.Proofs.Drawing
import SwaggerService.Proofs.Blueprint
import SwaggerService.Proofs.Loading
import SwaggerService.Proofs.Names
import SwaggerService.Proofs.Shapes
import SwaggerService.Proofs.Synthesis
import SwaggerService.Proofs.TypeOrder
import SwaggerService.Proofs.Congruence
import SwaggerService.Proofs.Grouping
import SwaggerService.Proofs.Methods
import SwaggerService.Proofs.Expansion
import SwaggerService.Proofs.PathTable
import SwaggerService.Proofs.Steps
import SwaggerService.Proofs.Views
import SwaggerService.Proofs.DepthLimit
import SwaggerService.Proofs.Nesting
import SwaggerService.Proofs.RoundTrip
import SwaggerService.Proofs.Citations
import SwaggerService.Proofs.Culprits
import SwaggerService.Proofs.Provenance
import SwaggerService.Proofs.Required
import SwaggerService.Proofs.Copies
import SwaggerService.Proofs.NamingLaw
import SwaggerService.Proofs.DistinctKeys
import SwaggerService.Proofs.TypedLookup
import SwaggerService.Proofs.Lookups
import SwaggerService.Proofs.Parallel
import SwaggerService.Proofs.RawIndependence
import SwaggerService.Proofs.EntryOrder
import SwaggerService.Proofs.Reordering
import SwaggerService.Proofs.SectionOrder
import SwaggerService.Proofs.Addresses
import SwaggerService.Proofs.PointerGrammar
import SwaggerService.Proofs.ReferenceChains
import SwaggerService.Proofs.InterfaceNames
import SwaggerService.Proofs.StatedRules
import SwaggerService.Proofs.DefinitionReferences
import SwaggerService.Proofs.Extraction
import SwaggerService.Proofs.Decimals
import SwaggerService.Proofs.SuccessChoice
import SwaggerService.Proofs.Arguments
import SwaggerService.Proofs.Disks
import SwaggerService.Proofs.CommandRuns
import SwaggerService.Proofs.SuffixSearch
import SwaggerService.Proofs.WalkFrame
import SwaggerService.Proofs.WordSplitting
import SwaggerService.Proofs.SingularForms
