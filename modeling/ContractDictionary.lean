import ContractDictionary.Calendar.DateTime
import ContractDictionary.CommandLine.Run
import ContractDictionary.Compile.Compilation
import ContractDictionary.Compile.Normal
import ContractDictionary.Document.Reader
import ContractDictionary.Document.Reading
import ContractDictionary.Files.Tree
import ContractDictionary.Generation.Context
import ContractDictionary.Generation.Output
import ContractDictionary.Json.Token
import ContractDictionary.Json.Tree
import ContractDictionary.Json.Value
import ContractDictionary.Keyed
import ContractDictionary.Main
import ContractDictionary.Model.Dictionary
import ContractDictionary.Model.Entity
import ContractDictionary.Model.Term
import ContractDictionary.Number.Binary64
import ContractDictionary.Proofs.Calendar.WrittenDates
import ContractDictionary.Proofs.CommandLine.SetupFaults
import ContractDictionary.Proofs.CommandLine.WrittenTemplates
import ContractDictionary.Proofs.Compile.AddedMembers
import ContractDictionary.Proofs.Compile.AllowedValues
import ContractDictionary.Proofs.Compile.BrokenMembers
import ContractDictionary.Proofs.Compile.ContractTypes
import ContractDictionary.Proofs.Compile.Contracts
import ContractDictionary.Proofs.Compile.Defaults
import ContractDictionary.Proofs.Compile.DroppedDefaults
import ContractDictionary.Proofs.Compile.MarkedMembers
import ContractDictionary.Proofs.Compile.NormalForms
import ContractDictionary.Proofs.Compile.Recompiling
import ContractDictionary.Proofs.Compile.ScalingEffects
import ContractDictionary.Proofs.Compile.Sections
import ContractDictionary.Proofs.Compile.Validity
import ContractDictionary.Proofs.Document.AlikeDocuments
import ContractDictionary.Proofs.Document.AlikeMembers
import ContractDictionary.Proofs.Document.Entries
import ContractDictionary.Proofs.Document.Fields
import ContractDictionary.Proofs.Document.MemberOptions
import ContractDictionary.Proofs.Document.Members
import ContractDictionary.Proofs.Document.Rearrangement
import ContractDictionary.Proofs.Document.Rereading
import ContractDictionary.Proofs.Document.Scan
import ContractDictionary.Proofs.Files.Paths
import ContractDictionary.Proofs.Files.WrittenTrees
import ContractDictionary.Proofs.Generation.Batches
import ContractDictionary.Proofs.Generation.ChangedDefaults
import ContractDictionary.Proofs.Generation.ClassFields
import ContractDictionary.Proofs.Generation.ConventionalNames
import ContractDictionary.Proofs.Generation.DeclaredTypes
import ContractDictionary.Proofs.Generation.Descriptions
import ContractDictionary.Proofs.Generation.Faults
import ContractDictionary.Proofs.Generation.FieldTypes
import ContractDictionary.Proofs.Generation.Indexes
import ContractDictionary.Proofs.Generation.Languages
import ContractDictionary.Proofs.Generation.Locations
import ContractDictionary.Proofs.Generation.OutputDirectory
import ContractDictionary.Proofs.Generation.Overwriting
import ContractDictionary.Proofs.Generation.References
import ContractDictionary.Proofs.Generation.Runs
import ContractDictionary.Proofs.Generation.Sights
import ContractDictionary.Proofs.Generation.Warnings
import ContractDictionary.Proofs.Generation.WriteCalls
import ContractDictionary.Proofs.Model.ContractTypeIds
import ContractDictionary.Proofs.Model.StableSorting
import ContractDictionary.Proofs.Outcome
import ContractDictionary.Proofs.Target.DiscoveredFunctions
import ContractDictionary.Proofs.Target.FunctionFiles
import ContractDictionary.Proofs.Target.FunctionNames
import ContractDictionary.Proofs.Target.Literals
import ContractDictionary.Proofs.Target.Naming
import ContractDictionary.Proofs.Template.Filling
import ContractDictionary.Proofs.Template.Fitting
import ContractDictionary.Proofs.Text.Case
import ContractDictionary.Proofs.Text.QuotedText
import ContractDictionary.Proofs.Text.WordBoundaries
import ContractDictionary.Sorting
import ContractDictionary.Target.Artifact
import ContractDictionary.Target.Literal
import ContractDictionary.Target.Naming
import ContractDictionary.Template.Builtin
import ContractDictionary.Template.Collection
import ContractDictionary.Template.Reading
import ContractDictionary.Template.Render
import ContractDictionary.Template.Syntax
import ContractDictionary.Template.Tag
import ContractDictionary.Text.Basic
import ContractDictionary.Text.Words
