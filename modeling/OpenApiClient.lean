import OpenApiClient.Main
import OpenApiClient.Proofs.Client.Banner
import OpenApiClient.Proofs.Client.Clashes
import OpenApiClient.Proofs.Client.Comment
import OpenApiClient.Proofs.Client.DeclaredNames
import OpenApiClient.Proofs.Client.FilledPath
import OpenApiClient.Proofs.Client.GroupingRun
import OpenApiClient.Proofs.Client.InterfaceReading
import OpenApiClient.Proofs.Client.ModuleScope
import OpenApiClient.Proofs.Client.NameSearch
import OpenApiClient.Proofs.Client.PathOrder
import OpenApiClient.Proofs.Client.PathSegments
import OpenApiClient.Proofs.Client.QueryObject
import OpenApiClient.Proofs.Client.Readding
import OpenApiClient.Proofs.Client.References
import OpenApiClient.Proofs.Client.ReturnType
import OpenApiClient.Proofs.Client.Statistics
import OpenApiClient.Proofs.Command.Containment
import OpenApiClient.Proofs.Command.Listing
import OpenApiClient.Proofs.Command.Preamble
import OpenApiClient.Proofs.MediaType.LetterCase
import OpenApiClient.Proofs.Naming.Humps
import OpenApiClient.Proofs.Naming.Letters
import OpenApiClient.Proofs.Naming.Stability
import OpenApiClient.Proofs.Output.FileTree
import OpenApiClient.Proofs.Output.LineEnds
import OpenApiClient.Proofs.Output.Writing
import OpenApiClient.Proofs.Schema.TypeText
import OpenApiClient.Proofs.Written.Parameters
import OpenApiClient.Proofs.Written.Reference
import OpenApiClient.Proofs.Written.Wrapper
