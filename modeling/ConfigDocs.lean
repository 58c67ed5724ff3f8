import ConfigDocs.Command.Run
import ConfigDocs.Main
import ConfigDocs.Proofs.Flattening
import ConfigDocs.Proofs.InlineTable
import ConfigDocs.Proofs.Interchange
import ConfigDocs.Proofs.Exclusion
import ConfigDocs.Proofs.Reordering
import ConfigDocs.Proofs.TypeGrammar
import ConfigDocs.Proofs.WrittenForm
import ConfigDocs.Proofs.HtmlMarkup
import ConfigDocs.Proofs.MarkdownTable
import ConfigDocs.Proofs.AsciiDocTable
import ConfigDocs.Proofs.DiskGrowth
import ConfigDocs.Proofs.Idempotence
import ConfigDocs.Proofs.Observation
import ConfigDocs.Proofs.PassOutcomes
import ConfigDocs.Proofs.NamedTypes
import ConfigDocs.Proofs.LastWrite
import ConfigDocs.Proofs.Preview
import ConfigDocs.Proofs.NameLookup
import ConfigDocs.Proofs.ModelRoundTrip
import ConfigDocs.Proofs.Nullability
import ConfigDocs.Proofs.Confinement
import ConfigDocs.Proofs.ElementContent
import ConfigDocs.Proofs.Entities
import ConfigDocs.Proofs.Words
import ConfigDocs.Proofs.CommentText
import ConfigDocs.Proofs.PageLines
import ConfigDocs.Proofs.ParameterNames
import ConfigDocs.Proofs.RequestedTarget
import ConfigDocs.Proofs.Height
import ConfigDocs.Proofs.DisplayedForm
import ConfigDocs.Proofs.RenderSession
import ConfigDocs.Proofs.ReservedNamespaces
import ConfigDocs.Proofs.Merging
import ConfigDocs.Proofs.FileTarget
