import CimSchema.CommandLine.Program
import CimSchema.Main
import CimSchema.Proofs.Config.Substitution
import CimSchema.Proofs.Error
import CimSchema.Proofs.Error.Leaves
import CimSchema.Proofs.Files.Changes
import CimSchema.Proofs.Files.Growth
import CimSchema.Proofs.FirstSeen
import CimSchema.Proofs.Generation.Effect
import CimSchema.Proofs.Generation.Enumeration
import CimSchema.Proofs.Generation.FileSet
import CimSchema.Proofs.Generation.Places
import CimSchema.Proofs.Generation.References
import CimSchema.Proofs.Generation.Refused
import CimSchema.Proofs.Generation.Steps
import CimSchema.Proofs.Load.Document
import CimSchema.Proofs.Load.Interleaving
import CimSchema.Proofs.Load.Padding
import CimSchema.Proofs.Load.References
import CimSchema.Proofs.Load.Roles
import CimSchema.Proofs.Merge.Classes
import CimSchema.Proofs.Merge.Properties
import CimSchema.Proofs.Merge.Reorder
import CimSchema.Proofs.Model.CycleSearch
import CimSchema.Proofs.Model.Cycles
import CimSchema.Proofs.Model.Forest
import CimSchema.Proofs.Model.Lookup
import CimSchema.Proofs.Model.Multiplicity
import CimSchema.Proofs.Model.Reach
import CimSchema.Proofs.Model.ReadBack
import CimSchema.Proofs.Name.Lookup
import CimSchema.Proofs.Profile.Absorb
import CimSchema.Proofs.Profile.Closed
import CimSchema.Proofs.Profile.Gather
import CimSchema.Proofs.Profile.Keyword
import CimSchema.Proofs.Profile.Least
import CimSchema.Proofs.Profile.Monotone
import CimSchema.Proofs.Profile.Typed
import CimSchema.Proofs.Reorder
import CimSchema.Proofs.Resolve.Ancestors
import CimSchema.Proofs.Resolve.Coherent
import CimSchema.Proofs.Resolve.Ends
import CimSchema.Proofs.Resolve.Faults
import CimSchema.Proofs.Resolve.Inverse
import CimSchema.Proofs.Resolve.Merged
import CimSchema.Proofs.Resolve.Records
import CimSchema.Proofs.Resolve.Reorder
import CimSchema.Proofs.Resolve.ReorderMembers
import CimSchema.Proofs.Resolve.Repetition
import CimSchema.Proofs.Resolve.Strict
import CimSchema.Proofs.Resolve.Typed
import CimSchema.Proofs.Target.Comment
import CimSchema.Proofs.Target.Documentation
import CimSchema.Proofs.Target.Enumeration
import CimSchema.Proofs.Target.EnumeratorText
import CimSchema.Proofs.Target.FixedEnumerator
import CimSchema.Proofs.Target.FixedText
import CimSchema.Proofs.Target.Identifier
import CimSchema.Proofs.Target.ImportBlock
import CimSchema.Proofs.Target.Layout
import CimSchema.Proofs.Target.Names
import CimSchema.Proofs.Target.References
import CimSchema.Proofs.Target.Undocumented
import CimSchema.Proofs.Target.Unmapped
import CimSchema.Proofs.Target.Views
import CimSchema.Proofs.Text.Blank
import CimSchema.Proofs.Text.Replace
import CimSchema.Proofs.Text.StringLiteral
import CimSchema.Proofs.Text.Words
