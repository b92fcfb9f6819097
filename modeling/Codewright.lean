import Codewright.Chat.Channel
import Codewright.Main
import Codewright.Markup.Sanitize
import Codewright.Service.JobStatus
import Codewright.Session.Run
import Codewright.Session.Transcript
import Codewright.Proofs.Session.Execution
import Codewright.Proofs.Session.Writing
import Codewright.Proofs.Session.Transcript
import Codewright.Proofs.Session.Steps
import Codewright.Proofs.Session.CallOrder
import Codewright.Proofs.Session.Reachable
import Codewright.Proofs.Session.Snapshot
import Codewright.Proofs.Session.Failure
import Codewright.Proofs.Staging
import Codewright.Proofs.Session.CodeResult
import Codewright.Proofs.Markup.Plain
import Codewright.Proofs.Session.PlainText
import Codewright.Proofs.Session.Cancellation
import Codewright.Proofs.Session.Offer
import Codewright.Proofs.Workspace.Path
import Codewright.Proofs.Workspace.Walk
import Codewright.Proofs.Workspace.Locate
import Codewright.Proofs.Workspace.Confinement
import Codewright.Proofs.Session.Confinement
import Codewright.Proofs.Session.Succession
import Codewright.Proofs.Session.Delivery
import Codewright.Proofs.Console.Retry
import Codewright.Proofs.Workspace.Content
import Codewright.Proofs.Text.Utf8
import Codewright.Proofs.Workspace.Spelling
import Codewright.Proofs.Session.Preview
import Codewright.Proofs.Session.Entries
import Codewright.Proofs.Session.Budget
import Codewright.Proofs.Session.FailedCall
import Codewright.Proofs.Session.History
import Codewright.Proofs.Session.Rounds
import Codewright.Proofs.Console.Execution
import Codewright.Proofs.Console.BlankLine
import Codewright.Proofs.Staging.Rounds
import Codewright.Proofs.Workspace.Listing
import Codewright.Proofs.Session.RemoteTexts
import Codewright.Proofs.Console.Progress
import Codewright.Proofs.Json.Strings
import Codewright.Proofs.Json.Written
import Codewright.Proofs.Json.Reading
import Codewright.Proofs.Service.RoundTrip
import Codewright.Proofs.Chat.Lines
import Codewright.Proofs.Session.Waiting
import Codewright.Proofs.Workspace.Tree
import Codewright.Proofs.Session.Acceptance
import Codewright.Proofs.Markup.Deletion
import Codewright.Proofs.Markup.Element
import Codewright.Proofs.Markup.Body
import Codewright.Proofs.Markup.Tags
import Codewright.Proofs.Markup.Assembly
import Codewright.Proofs.Session.Approach
import Codewright.Proofs.Markup.Kept
import Codewright.Proofs.Session.Routing
import Codewright.Proofs.Workspace.Zip
import Codewright.Proofs.Session.Upload
import Codewright.Proofs.Workspace.Segments
import Codewright.Proofs.Workspace.Folder
import Codewright.Proofs.Workspace.Legal
import Codewright.Proofs.Workspace.Echo
import Codewright.Proofs.Workspace.Complete
import Codewright.Proofs.Workspace.Effects
import Codewright.Proofs.Workspace.Repeat
import Codewright.Proofs.Session.Interruption
import Codewright.Proofs.Session.Repetition
import Codewright.Proofs.Service.Requests
import Codewright.Proofs.Text.Trim
import Codewright.Proofs.Settings
import Codewright.Proofs.Workspace.Resolution
