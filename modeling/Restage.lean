import Restage.Archive
import Restage.Clock
import Restage.Config
import Restage.Config.Settings
import Restage.Config.Source
import Restage.Deflate
import Restage.Deflate.Bits
import Restage.Deflate.Code
import Restage.Discovery.Cycle
import Restage.Discovery.Loop
import Restage.Discovery.Pace
import Restage.Disk
import Restage.Disk.Obsolete
import Restage.Disk.Tree
import Restage.Disk.Trouble
import Restage.Download
import Restage.Fault
import Restage.Floor
import Restage.Floor.Enrol
import Restage.Floor.Moves
import Restage.Group
import Restage.Gzip
import Restage.Gzip.Crc
import Restage.Instance
import Restage.Job
import Restage.Job.Directory
import Restage.Job.Row
import Restage.Json
import Restage.Json.Reader
import Restage.Json.Token
import Restage.Json.Writer
import Restage.LogFilter
import Restage.LogFilter.Pattern
import Restage.Main
import Restage.Manager
import Restage.Manager.Sweep
import Restage.Manager.Worker
import Restage.Outcome
import Restage.Path
import Restage.Proofs.Config
import Restage.Proofs.Config.Rules
import Restage.Proofs.Discovery.Admissions
import Restage.Proofs.Discovery.Calendar
import Restage.Proofs.Discovery.Classes
import Restage.Proofs.Discovery.Concerns
import Restage.Proofs.Discovery.Events
import Restage.Proofs.Discovery.Failures
import Restage.Proofs.Discovery.Grants
import Restage.Proofs.Discovery.Order
import Restage.Proofs.Discovery.Repeats
import Restage.Proofs.Discovery.Settled
import Restage.Proofs.Discovery.Submitting
import Restage.Proofs.Discovery.Turns
import Restage.Proofs.Discovery.Visits
import Restage.Proofs.Discovery.Worlds
import Restage.Proofs.Disk
import Restage.Proofs.Disk.Children
import Restage.Proofs.Disk.Files
import Restage.Proofs.Disk.Runs
import Restage.Proofs.Disk.Sound
import Restage.Proofs.Download
import Restage.Proofs.Download.Bodies
import Restage.Proofs.Floor.Accounts
import Restage.Proofs.Floor.Calls
import Restage.Proofs.Floor.Cancelling
import Restage.Proofs.Floor.Concerns
import Restage.Proofs.Floor.Enrolment
import Restage.Proofs.Floor.Landing
import Restage.Proofs.Floor.Posts
import Restage.Proofs.Floor.Sound
import Restage.Proofs.Floor.Tables
import Restage.Proofs.Group.Answers
import Restage.Proofs.Group.Concerns
import Restage.Proofs.Group.Dispatchers
import Restage.Proofs.Group.Fatality
import Restage.Proofs.Group.Flights
import Restage.Proofs.Group.Ownership
import Restage.Proofs.Group.Placement
import Restage.Proofs.Group.Portraits
import Restage.Proofs.Group.Rejections
import Restage.Proofs.Group.Removal
import Restage.Proofs.Group.Replicas
import Restage.Proofs.Group.Runs
import Restage.Proofs.Group.Sights
import Restage.Proofs.Group.Stopping
import Restage.Proofs.Group.Sweeping
import Restage.Proofs.Group.Tracking
import Restage.Proofs.Job.Names
import Restage.Proofs.Job.Obsolete
import Restage.Proofs.Job.Recency
import Restage.Proofs.Manager.Acts
import Restage.Proofs.Manager.Ages
import Restage.Proofs.Manager.Barred
import Restage.Proofs.Manager.Concerns
import Restage.Proofs.Manager.Flights
import Restage.Proofs.Manager.Foreseen
import Restage.Proofs.Manager.Forgetting
import Restage.Proofs.Manager.Handing
import Restage.Proofs.Manager.Moves
import Restage.Proofs.Manager.Pages
import Restage.Proofs.Manager.Permits
import Restage.Proofs.Manager.Portraits
import Restage.Proofs.Manager.Replicas
import Restage.Proofs.Manager.Rolls
import Restage.Proofs.Manager.Sights
import Restage.Proofs.Manager.Sound
import Restage.Proofs.Manager.Steps
import Restage.Proofs.Manager.Stopping
import Restage.Proofs.Manager.Sweeping
import Restage.Proofs.Path
import Restage.Proofs.Slice.Archives
import Restage.Proofs.Slice.Filing
import Restage.Proofs.Slice.Target
import Restage.Proofs.Store
import Restage.Proofs.TimeId.Spelling
import Restage.Proofs.TimeId.Ticks
import Restage.Proofs.TimeId.Words
import Restage.Rehearsal
import Restage.Rehearsal.Command
import Restage.Rehearsal.Desk
import Restage.Rehearsal.Script
import Restage.Slice
import Restage.Slice.Key
import Restage.Slice.Piece
import Restage.StartUp
import Restage.Store
import Restage.Tar
import Restage.Tar.Header
import Restage.Tar.Records
import Restage.Tar.Sparse
import Restage.Text.Base64
import Restage.Text.Blank
import Restage.Text.Hex
import Restage.Text.Lossy
import Restage.Text.Quoted
import Restage.Text.Unseen
import Restage.TimeId
import Restage.TimeId.Spelling
import Restage.Url
import Restage.Url.Fault
import Restage.Url.Host
