import StructureDerive.Main
import StructureDerive.Proofs.DocumentIsolation
import StructureDerive.Proofs.Closure
import StructureDerive.Proofs.DanglingMarker
import StructureDerive.Proofs.DeclarationOrder
import StructureDerive.Proofs.Writing
import StructureDerive.Proofs.Fault
import StructureDerive.Proofs.IdentifierPath
import StructureDerive.Proofs.EntryGrammar
import StructureDerive.Proofs.ParameterList
import StructureDerive.Proofs.ClauseAttachment
import StructureDerive.Proofs.GuardDecision
import StructureDerive.Proofs.EntrySpelling
import StructureDerive.Proofs.TestMatrix
import StructureDerive.Proofs.TypeArguments
import StructureDerive.Proofs.ConcreteTests
import StructureDerive.Proofs.NameSpelling
import StructureDerive.Proofs.ScopeNames
import StructureDerive.Proofs.CatalogExtension
import StructureDerive.Proofs.LargerCatalog
import StructureDerive.Proofs.ExtensionLaws
import StructureDerive.Proofs.ExtensionRuns
import StructureDerive.Proofs.Ascii
import StructureDerive.Proofs.CheckedGeneration
import StructureDerive.Proofs.ImplIndependence
import StructureDerive.Proofs.FirstOccurrence
import StructureDerive.Proofs.PredicateList
import StructureDerive.Proofs.FileWriting
import StructureDerive.Proofs.GenerationEffects
import StructureDerive.Proofs.LineEndings
import StructureDerive.Proofs.RegionBytes
import StructureDerive.Proofs.EditDistance
import StructureDerive.Proofs.MarkerOrder
import StructureDerive.Proofs.ParameterNames
import StructureDerive.Proofs.InstantiationClash
import StructureDerive.Proofs.PlainText
import StructureDerive.Proofs.Table
import StructureDerive.Proofs.GuardTable
import StructureDerive.Proofs.BlankSegment
import StructureDerive.Proofs.WhereField
import StructureDerive.Proofs.TableReading
import StructureDerive.Proofs.ExtensionFault
import StructureDerive.Proofs.CatalogReading
import StructureDerive.Proofs.TargetTable
import StructureDerive.Proofs.Suggestion
import StructureDerive.Proofs.DeclarableKinds
import StructureDerive.Proofs.FileLookup
import StructureDerive.Proofs.NearestConfiguration
import StructureDerive.Proofs.ConfigurationReading
