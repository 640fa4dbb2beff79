import QueryGroup.Emitted
import QueryGroup.Main
import QueryGroup.Markup.Checker
import QueryGroup.Markup.Lines
import QueryGroup.Proofs.Fidelity
import QueryGroup.Proofs.WellFormed
import QueryGroup.Report.Encode
import QueryGroup.Proofs.Canonical
import QueryGroup.Proofs.Recompilation
import QueryGroup.Proofs.Admission
import QueryGroup.Proofs.Image
import QueryGroup.Proofs.LayoutFields
import QueryGroup.Proofs.IgnoredData
import QueryGroup.Proofs.QueryBlocks
import QueryGroup.Proofs.OptionEffects
import QueryGroup.Markup.Processor
import QueryGroup.Proofs.LineEnds
import QueryGroup.Proofs.TreeStrings
import QueryGroup.Proofs.XmlReading
import QueryGroup.Proofs.AuditTrail
import QueryGroup.Proofs.BuiltTrees
import QueryGroup.Proofs.FileEffects
import QueryGroup.Proofs.Subcommands
import QueryGroup.Proofs.Occurrences
import QueryGroup.Proofs.CastRecovery
import QueryGroup.Proofs.EscapePasses
import QueryGroup.Proofs.EscapedTexts
import QueryGroup.Proofs.PassOrder
import QueryGroup.Proofs.PaddedParts
import QueryGroup.Proofs.NamedFields
import QueryGroup.Proofs.ReportValues
import QueryGroup.Proofs.AliasSplitting
import QueryGroup.Proofs.Nesting
import QueryGroup.Proofs.DecodingPaths
import QueryGroup.Proofs.ToleratedMembers
import QueryGroup.Proofs.BuiltContent
import QueryGroup.Proofs.ReflectedDepth
import QueryGroup.Proofs.Matching
