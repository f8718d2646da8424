import ChannelWatch.Chain
import ChannelWatch.Cycle.Collect
import ChannelWatch.Cycle.Produce
import ChannelWatch.Cycle.Sweep
import ChannelWatch.Endpoint
import ChannelWatch.Endpoint.Backoff
import ChannelWatch.Endpoint.Connection
import ChannelWatch.Error
import ChannelWatch.ErrorInbox
import ChannelWatch.EventKind
import ChannelWatch.Gateway
import ChannelWatch.Id
import ChannelWatch.Job
import ChannelWatch.Json
import ChannelWatch.Keccak
import ChannelWatch.Log
import ChannelWatch.Log.Draft
import ChannelWatch.Log.Terms
import ChannelWatch.NodeLog
import ChannelWatch.Octets
import ChannelWatch.Program
import ChannelWatch.Proofs.Accounting
import ChannelWatch.Proofs.Announcement
import ChannelWatch.Proofs.Answered
import ChannelWatch.Proofs.Attention
import ChannelWatch.Proofs.Attribution
import ChannelWatch.Proofs.Cadence
import ChannelWatch.Proofs.Cancellation
import ChannelWatch.Proofs.Checkpoint
import ChannelWatch.Proofs.Collect
import ChannelWatch.Proofs.Course
import ChannelWatch.Proofs.Decoding
import ChannelWatch.Proofs.Dispatch
import ChannelWatch.Proofs.Drive
import ChannelWatch.Proofs.Duration
import ChannelWatch.Proofs.Effect
import ChannelWatch.Proofs.Emission
import ChannelWatch.Proofs.Failover
import ChannelWatch.Proofs.Format
import ChannelWatch.Proofs.Growth
import ChannelWatch.Proofs.Holding
import ChannelWatch.Proofs.Ignored
import ChannelWatch.Proofs.Incident
import ChannelWatch.Proofs.Moment
import ChannelWatch.Proofs.Pass
import ChannelWatch.Proofs.Produce
import ChannelWatch.Proofs.Rebuilding
import ChannelWatch.Proofs.Reference
import ChannelWatch.Proofs.Remainder
import ChannelWatch.Proofs.Returned
import ChannelWatch.Proofs.Round
import ChannelWatch.Proofs.Scan
import ChannelWatch.Proofs.Settled
import ChannelWatch.Proofs.Spelling
import ChannelWatch.Proofs.Straight
import ChannelWatch.Proofs.Strand
import ChannelWatch.Proofs.Submit
import ChannelWatch.Proofs.Succession
import ChannelWatch.Proofs.Supply
import ChannelWatch.Proofs.Sweep
import ChannelWatch.Proofs.Turn
import ChannelWatch.Proofs.Untouched
import ChannelWatch.Proofs.Unwinding
import ChannelWatch.Proofs.Walk
import ChannelWatch.Proofs.Watched
import ChannelWatch.Query
import ChannelWatch.Query.NodeFilter
import ChannelWatch.Query.Watch
import ChannelWatch.Queue
import ChannelWatch.Session
import ChannelWatch.Settings
import ChannelWatch.Store
import ChannelWatch.StoredEvent
import ChannelWatch.Table
import ChannelWatch.Text.Blank
import ChannelWatch.Text.Hex
import ChannelWatch.Text.Numeral
import ChannelWatch.Text.Quoted
import ChannelWatch.Text.Separated
import ChannelWatch.Text.Visible
import ChannelWatch.Timeline
import ChannelWatch.Timeline.Line
import ChannelWatch.Timeline.Run
import ChannelWatch.Timeline.Scene
import ChannelWatch.Timeline.Task
import ChannelWatch.Timeline.Ticker
import ChannelWatch.Url
import ChannelWatch.Url.Host
import ChannelWatch.Url.Ipv4
import ChannelWatch.Url.Ipv6
import ChannelWatch.Url.Percent
import ChannelWatch.Url.Punycode
import ChannelWatch.Watch
import ChannelWatch.Window
import ChannelWatch.World
