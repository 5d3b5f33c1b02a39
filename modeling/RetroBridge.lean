import RetroBridge.Library.Run
import RetroBridge.Jobs.Model
import RetroBridge.Jobs.Claim
import RetroBridge.Jobs.Submit
import RetroBridge.Jobs.RunJob
import RetroBridge.Jobs.System
import RetroBridge.Jobs.Change
import RetroBridge.Jobs.Cap
import RetroBridge.Jobs.Quota
import RetroBridge.Jobs.Fencing
import RetroBridge.Jobs.Exclusive
import RetroBridge.Jobs.LifeCycle
import RetroBridge.Jobs.Cancel
import RetroBridge.Jobs.Record
import RetroBridge.Jobs.Recovery
import RetroBridge.Jobs.ClaimOrder
import RetroBridge.Jobs.Waiting
import RetroBridge.Jobs.Storage
import RetroBridge.Jobs.Uploads
import RetroBridge.Jobs.Outputs
import RetroBridge.Jobs.Capture
import RetroBridge.Jobs.Renewal
import RetroBridge.Jobs.Classify
import RetroBridge.Jobs.Drain
import RetroBridge.Jobs.Exits
import RetroBridge.Jobs.Creation
import RetroBridge.Jobs.Commands
import RetroBridge.Jobs.OutputTail
import RetroBridge.Jobs.EventStream
import RetroBridge.Jobs.UploadText
import RetroBridge.Jobs.BulkCancel
import RetroBridge.Jobs.Pages
import RetroBridge.Jobs.Privacy
import RetroBridge.Jobs.LivePage
import RetroBridge.Jobs.OutputPath
import RetroBridge.Terminal.Model
import RetroBridge.Terminal.Lease
import RetroBridge.Terminal.Bridge
import RetroBridge.Terminal.Server
import RetroBridge.Terminal.PortLoop
import RetroBridge.Terminal.Move
import RetroBridge.Terminal.Operations
import RetroBridge.Terminal.Sends
import RetroBridge.Terminal.Exclusive
import RetroBridge.Terminal.Orphan
import RetroBridge.Terminal.Isolation
import RetroBridge.Terminal.Startup
import RetroBridge.Terminal.Cluster
import RetroBridge.Terminal.SessionQuota
import RetroBridge.Terminal.ReaderLife
import RetroBridge.Terminal.FinalRecord
import RetroBridge.Terminal.LeaseRecovery
import RetroBridge.Terminal.Faults
import RetroBridge.Terminal.Handles
import RetroBridge.Terminal.Course
import RetroBridge.Terminal.Decoding
import RetroBridge.Terminal.Replay
import RetroBridge.Terminal.History
import RetroBridge.Terminal.Timeouts
import RetroBridge.Terminal.Budget
import RetroBridge.Terminal.Idle
import RetroBridge.Terminal.Grant
import RetroBridge.Transport.Telnet
import RetroBridge.Transport.Encoding
import RetroBridge.Transport.Socket
import RetroBridge.Transport.Paths
import RetroBridge.Transport.Closing
import RetroBridge.Auth.Login
import RetroBridge.Auth.Throttle
import RetroBridge.Auth.Redirect
import RetroBridge.Security.RateLimit
import RetroBridge.Security.ClientAddress
import RetroBridge.Security.Limiter
import RetroBridge.Admin.Settings
import RetroBridge.Admin.Accounts
import RetroBridge.Admin.Deletion
import RetroBridge.Admin.Administrators
import RetroBridge.Maintenance.Tokens
import RetroBridge.Maintenance.Backup
import RetroBridge.Maintenance.Restore
import RetroBridge.Simulation.Xmodem
import RetroBridge.Simulation.Terminal
import RetroBridge.Integrations.Linking
import RetroBridge.Terminal.Overstay
import RetroBridge.Terminal.Page
import RetroBridge.Jobs.Mail
import RetroBridge.Installation.Lines
