import RegistrySearch.Catalog.Payload
import RegistrySearch.Config.Load
import RegistrySearch.Query.Payload
import RegistrySearch.Search.NameQuestion
import RegistrySearch.Search.Session
import RegistrySearch.Proofs.Catalog.Memo
import RegistrySearch.Proofs.Except
import RegistrySearch.Proofs.Search.Direct
import RegistrySearch.Proofs.Document.Evaluation
import RegistrySearch.Proofs.Query.Declared
import RegistrySearch.Proofs.Search.Meaning
import RegistrySearch.Proofs.Json.Members
import RegistrySearch.Proofs.Query.Grammar
import RegistrySearch.Proofs.Query.Reading
import RegistrySearch.Proofs.Search.Totality
import RegistrySearch.Proofs.Json.Draft
import RegistrySearch.Proofs.Text.Utf8
import RegistrySearch.Proofs.Json.RoundTrip
import RegistrySearch.Proofs.Query.RoundTrip
import RegistrySearch.Proofs.Search.History
import RegistrySearch.Proofs.Catalog.NameFields
import RegistrySearch.Proofs.Search.Conditions
import RegistrySearch.Proofs.Search.Routing
import RegistrySearch.Proofs.Query.Faults
import RegistrySearch.Proofs.Query.FirstFault
import RegistrySearch.Proofs.Document.FieldId
import RegistrySearch.Proofs.Search.RecordConditions
import RegistrySearch.Proofs.Search.ReadBack
import RegistrySearch.Proofs.Search.FieldPaths
import RegistrySearch.Proofs.Search.Grouping
import RegistrySearch.Proofs.Json.TextFaults
import RegistrySearch.Proofs.Query.Unreadable
import RegistrySearch.Proofs.Catalog.Agreement
import RegistrySearch.Proofs.Catalog.Routes
import RegistrySearch.Proofs.Search.Influence
import RegistrySearch.Proofs.Json.Grammar
import RegistrySearch.Proofs.Search.RequestText
import RegistrySearch.Proofs.Query.Rewording
import RegistrySearch.Proofs.Room
import RegistrySearch.Proofs.Yaml.Room
import RegistrySearch.Proofs.Config.Files
import RegistrySearch.Proofs.Config.Layers
import RegistrySearch.Proofs.Config.Overlap
import RegistrySearch.Proofs.Config.Loading
import RegistrySearch.Proofs.Config.Settings
import RegistrySearch.Proofs.Config.Effective
import RegistrySearch.Proofs.Document.Segment
import RegistrySearch.Proofs.Catalog.Recency
import RegistrySearch.Proofs.Search.Lookups
import RegistrySearch.Proofs.Search.Refusals
import RegistrySearch.Proofs.Search.NameQuestion
import RegistrySearch.Proofs.Catalog.Grammar
import RegistrySearch.Proofs.Catalog.Reading
import RegistrySearch.Proofs.Catalog.RoundTrip
import RegistrySearch.Proofs.Config.Merging
import RegistrySearch.Proofs.Payload.Forms
import RegistrySearch.Proofs.Text.Similarity
import RegistrySearch.Proofs.Search.Unsupported
import RegistrySearch.Proofs.Search.Accounting
import RegistrySearch.Proofs.Config.Refusals
import RegistrySearch.Proofs.Catalog.UniqueFields
import RegistrySearch.Proofs.Search.ClauseParts
