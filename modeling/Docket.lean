import Docket.Identity
import Docket.Json.Printer
import Docket.Json.Reader
import Docket.Main
import Docket.Paging
import Docket.Program
import Docket.Proofs.Abort
import Docket.Proofs.Finished
import Docket.Proofs.Isolation
import Docket.Proofs.Items
import Docket.Proofs.Offender
import Docket.Proofs.Protocol
import Docket.Proofs.Refinement
import Docket.Proofs.Selected
import Docket.Proofs.Syntax.Variables
import Docket.Query.Compile
import Docket.Result.Decode
import Docket.Result.Response
import Docket.Service.Exchange
import Docket.Service.Wire
import Docket.Settings.Basic
import Docket.Settings.Environment
import Docket.Settings.File
import Docket.Settings.Flag
import Docket.Sidebar.Collection
import Docket.Sidebar.Fetch
import Docket.Sidebar.Filter
import Docket.Sidebar.Summary
import Docket.Proofs.Stage
import Docket.Proofs.PageBound
import Docket.Proofs.Changes
import Docket.Proofs.Verdict
import Docket.Proofs.CommandLine
import Docket.Proofs.Conversation
import Docket.Proofs.Arguments
import Docket.Proofs.Filters
import Docket.Proofs.Layers
import Docket.Proofs.Restriction
import Docket.Proofs.Token
import Docket.Proofs.Access
import Docket.Proofs.Endpoint
import Docket.Proofs.Navigation
import Docket.Proofs.Syntax.Declarations
import Docket.Proofs.Scopes
import Docket.Proofs.Kinds
import Docket.Proofs.Calendar.Dates
import Docket.Proofs.Calendar.Timestamps
import Docket.Proofs.Wait
import Docket.Proofs.Accumulation
import Docket.Proofs.Flavour
import Docket.Proofs.Syntax.StringLiteral
import Docket.Proofs.Reconversion
