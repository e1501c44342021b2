import ReportMigration.Text.Blank
import ReportMigration.Text.Like
import ReportMigration.Number.Double
import ReportMigration.Json.Reader
import ReportMigration.Json.Writer
import ReportMigration.Time.Iso
import ReportMigration.Text.Quoted
import ReportMigration.Id
import ReportMigration.Catalogue.Label
import ReportMigration.Catalogue.Database
import ReportMigration.Files.Disk
import ReportMigration.Storage.ObjectStore
import ReportMigration.Catalogue.Snapshot
import ReportMigration.Accounts.Organization
import ReportMigration.Accounts.User
import ReportMigration.Servers.Credential
import ReportMigration.Servers.StaleCredential
import ReportMigration.Projects.Folder
import ReportMigration.Projects.Listing
import ReportMigration.Projects.Tree
import ReportMigration.Projects.Search
import ReportMigration.Reports.Log
import ReportMigration.Reports.Stage
import ReportMigration.Reports.Visual
import ReportMigration.Reports.Removal
import ReportMigration.Projects.Upload
import ReportMigration.Gateway.Accounts
import ReportMigration.Gateway.Reports
import ReportMigration.Gateway.Servers
import ReportMigration.Gateway.Storage
import ReportMigration.Vocabulary.All
import ReportMigration.Catalogue.Address
import ReportMigration.Diagnostics.Logger
import ReportMigration.Raise
import ReportMigration.Reports.VisualRequest
import ReportMigration.Reports.WorkFolder
import ReportMigration.Text.Pattern
import ReportMigration.Wording.All
import ReportMigration.Api.All
import ReportMigration.Catalogue.Schema
import ReportMigration.Gateway.Callers
import ReportMigration.Gateway.Models
import ReportMigration.Workload.All
import ReportMigration.Proofs.Execution
import ReportMigration.Proofs.Reports.Removal
import ReportMigration.Proofs.Storage.Folder
import ReportMigration.Proofs.Storage.Bucket
import ReportMigration.Proofs.Storage.Container
import ReportMigration.Proofs.Projects.Forest
import ReportMigration.Proofs.Projects.Pruning
import ReportMigration.Proofs.Projects.Removal
import ReportMigration.Proofs.Servers.Removal
import ReportMigration.Proofs.Projects.Walks
import ReportMigration.Proofs.Reports.Leftover
import ReportMigration.Proofs.Catalogue.Frame
import ReportMigration.Proofs.Projects.Upkeep
import ReportMigration.Proofs.Projects.Reachable
import ReportMigration.Proofs.Files.Tree
import ReportMigration.Proofs.Identifier
import ReportMigration.Proofs.Projects.Plan
import ReportMigration.Proofs.Projects.Upload
import ReportMigration.Proofs.Projects.Mirror
import ReportMigration.Proofs.Projects.Access
import ReportMigration.Proofs.Projects.Deliveries
import ReportMigration.Proofs.Accounts.Registration
import ReportMigration.Proofs.Number.Rounding
import ReportMigration.Proofs.Number.Digits
import ReportMigration.Proofs.Number.Decimal
import ReportMigration.Proofs.Json.Tokens
import ReportMigration.Proofs.Json.RoundTrip
import ReportMigration.Proofs.Json.Reading
import ReportMigration.Proofs.Files.Writing
import ReportMigration.Proofs.Storage.Transfer
import ReportMigration.Proofs.Value
import ReportMigration.Proofs.Text.Matching
import ReportMigration.Proofs.Text.Octets
import ReportMigration.Proofs.Text.Base64
import ReportMigration.Proofs.Secret
import ReportMigration.Proofs.Reports.Stages
import ReportMigration.Proofs.Files.Folders
import ReportMigration.Proofs.Storage.Download
import ReportMigration.Proofs.Storage.Completeness
import ReportMigration.Proofs.Servers.SiteData
import ReportMigration.Proofs.Servers.Discovery
import ReportMigration.Proofs.Servers.History
import ReportMigration.Proofs.Servers.StaleCredentials
import ReportMigration.Proofs.Reports.Contexts
import ReportMigration.Proofs.Accounts.SigningIn
import ReportMigration.Proofs.Files.Paths
import ReportMigration.Proofs.Projects.Inventory
import ReportMigration.Proofs.Projects.Search
import ReportMigration.Proofs.Projects.Hierarchy
import ReportMigration.Proofs.Files.Growth
import ReportMigration.Proofs.Flows.Desk
import ReportMigration.Proofs.Flows.Leftovers
import ReportMigration.Proofs.Reports.Counts
import ReportMigration.Proofs.Accounts.Changes
import ReportMigration.Proofs.Accounts.Names
import ReportMigration.Proofs.Catalogue.Paging
import ReportMigration.Proofs.Reports.Use
import ReportMigration.Proofs.Projects.Lineage
import ReportMigration.Proofs.Storage.SignedAddress
import ReportMigration.Proofs.Files.Confinement
import ReportMigration.Proofs.Flows.Confinement
import ReportMigration.Proofs.Files.Opening
import ReportMigration.Proofs.Storage.Failures
import ReportMigration.Proofs.Accounts.Callers
import ReportMigration.Proofs.Reports.Logging
import ReportMigration.Proofs.Projects.WorkbookNames
import ReportMigration.Proofs.Reports.Visuals
import ReportMigration.Proofs.Flows.Packages
