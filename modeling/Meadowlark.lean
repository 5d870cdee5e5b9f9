import Meadowlark.Construction.Core.JsonText
import Meadowlark.Construction.Core.DocumentStore
import Meadowlark.Proof.Core.Writes
import Meadowlark.Proof.Mongo.ConcurrentAliases
import Meadowlark.Proof.Mongo.UpdateFrame
import Meadowlark.Proof.Mongo.Timestamps
import Meadowlark.Proof.Mongo.AllOrNothing
import Meadowlark.Proof.Postgres.SequentialIntegrity
import Meadowlark.Proof.Postgres.AliasUniqueness
import Meadowlark.Proof.Creators
import Meadowlark.Construction.Mongo.Ownership
import Meadowlark.Construction.Postgres.Ownership
import Meadowlark.Proof.Mongo.ConcurrentUuids
import Meadowlark.Construction.Postgres.Authorization
import Meadowlark.Construction.Postgres.Pool
import Meadowlark.Proof.Postgres.Exits
import Meadowlark.Proof.Postgres.ClosedCalls
import Meadowlark.Systems.RowVersions
import Meadowlark.Construction.Postgres.Concurrency
import Meadowlark.Systems.Conduct
import Meadowlark.Proof.Postgres.LostUpdates
import Meadowlark.Proof.Core.Requests
import Meadowlark.Proof.Mongo.Requests
import Meadowlark.Proof.Postgres.Requests
import Meadowlark.Proof.Core.Sequences
import Meadowlark.Proof.Core.Confinement
import Meadowlark.Proof.Mongo.Confinement
import Meadowlark.Proof.Postgres.Confinement
import Meadowlark.Proof.Confinement
import Meadowlark.Systems.SeparatedTexts
import Meadowlark.Proof.Core.Identities
import Meadowlark.Construction.Authorization.Server
import Meadowlark.Construction.Authorization.Token
import Meadowlark.Proof.Authorization.Tokens
import Meadowlark.Construction.Authorization.Body
import Meadowlark.Construction.Authorization.Handler
import Meadowlark.Construction.Authorization.ReadHandlers
import Meadowlark.Construction.Mongo.Authorization
import Meadowlark.Proof.Authorization.Credentials
import Meadowlark.Proof.Mongo.Credentials
import Meadowlark.Proof.Credentials
import Meadowlark.Proof.Authorization.Bootstrap
import Meadowlark.Proof.Mongo.Bootstrap
import Meadowlark.Proof.Bootstrap
import Meadowlark.Construction.Core.TokenCaches
import Meadowlark.Proof.Core.Authorization
import Meadowlark.Construction.Core.SchemaValidation
import Meadowlark.Proof.Core.ValidatorCaches
import Meadowlark.Proof.Core.References
import Meadowlark.Proof.Postgres.ReferenceValidation
import Meadowlark.Proof.Mongo.MissingReferences
import Meadowlark.Proof.Core.PathGrammar
import Meadowlark.Proof.Mongo.SequentialStores
import Meadowlark.Proof.Core.Blocking
import Meadowlark.Proof.Mongo.Deletion
import Meadowlark.Proof.Postgres.Deletion
import Meadowlark.Proof.Blocking
import Meadowlark.Proof.Mongo.Progress
import Meadowlark.Construction.Mongo.Sessions
import Meadowlark.Proof.Mongo.Sessions
import Meadowlark.Construction.Core.Extraction
import Meadowlark.Proof.Core.DescriptorValues
import Meadowlark.Proof.Core.JsonPaths
import Meadowlark.Systems.Mappings
import Meadowlark.Systems.Selections
import Meadowlark.Construction.Core.JsonPaths
import Meadowlark.Proof.DescriptorValues
import Meadowlark.Proof.Core.DocumentReferences
import Meadowlark.Proof.Core.MergedIdentities
import Meadowlark.Proof.Core.ReferenceIds
import Meadowlark.Proof.Core.ReadProtection
import Meadowlark.Proof.ReadProtection
import Meadowlark.Proof.Mongo.NewestWrites
import Meadowlark.Proof.NewestWrites
import Meadowlark.Proof.Core.RequestLogging
import Meadowlark.Proof.Core.Metadata
import Meadowlark.Proof.Core.NumberText
import Meadowlark.Proof.Search.Paging
import Meadowlark.Proof.Core.Uris
import Meadowlark.Proof.Core.NotFound
import Meadowlark.Proof.Core.DescriptorLoader
import Meadowlark.Proof.Mongo.DescriptorLoads
import Meadowlark.Systems.Differences
import Meadowlark.Proof.Core.JsonRoundTrip
import Meadowlark.Proof.Authorization.Replacements
import Meadowlark.Proof.Authorization.RecasedText
import Meadowlark.Proof.Authorization.Corrections
import Meadowlark.Proof.Authorization.Respelling
import Meadowlark.Construction.Core.Listeners
import Meadowlark.Construction.Search.UpdateDocuments
import Meadowlark.Proof.Core.Listeners
import Meadowlark.Proof.Mongo.Deposits
import Meadowlark.Proof.Postgres.Deposits
import Meadowlark.Systems.Mirrors
import Meadowlark.Proof.Search.Mirror
import Meadowlark.Proof.Core.LastWrites
import Meadowlark.Proof.PublishedWrites
import Meadowlark.Proof.Core.Statuses
import Meadowlark.Proof.Statuses
import Meadowlark.Proof.Core.WriteProtection
import Meadowlark.Proof.Mongo.WriteProtection
import Meadowlark.Proof.Postgres.WriteProtection
import Meadowlark.Proof.WriteProtection
import Meadowlark.Proof.Authorization.Introspection
import Meadowlark.Proof.Authorization.Directory
import Meadowlark.Proof.ClientDirectory
import Meadowlark.Proof.Authorization.Deployment
import Meadowlark.Proof.Deployment
import Meadowlark.Proof.DefaultDeny
import Meadowlark.Proof.Search.OwnershipFilter
import Meadowlark.Systems.LateReports
import Meadowlark.Proof.Core.Reports
import Meadowlark.Proof.Search.Bodies
import Meadowlark.Proof.Search.LateListeners
import Meadowlark.Proof.Mongo.LateListeners
import Meadowlark.Proof.Postgres.LateListeners
import Meadowlark.Proof.LateListeners
