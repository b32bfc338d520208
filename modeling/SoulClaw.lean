import SoulClaw.Foundation.Runs
import SoulClaw.Foundation.Table
import SoulClaw.Foundation.Json
import SoulClaw.Foundation.Text
import SoulClaw.Foundation.Base64
import SoulClaw.Domain.Jobs
import SoulClaw.Worker.Queue
import SoulClaw.Domain.JobEffects
import SoulClaw.Worker.Moves
import SoulClaw.Worker.Attempts
import SoulClaw.Worker.Coupling
import SoulClaw.Worker.Terminal
import SoulClaw.Worker.Races
import SoulClaw.Worker.Recovery
import SoulClaw.Worker.Drain
import SoulClaw.Domain.Approvals
import SoulClaw.Runtime.A2A
import SoulClaw.Domain.ToolEffects
import SoulClaw.Domain.Gate
import SoulClaw.Runtime.Delegation
import SoulClaw.Foundation.JsonText
import SoulClaw.Runtime.Agent
import SoulClaw.Runtime.ResumeTurn
import SoulClaw.Api.Approvals
import SoulClaw.Runtime.TurnEffects
import SoulClaw.Api.SingleUse
import SoulClaw.Api.Finality
import SoulClaw.Foundation.Resumption
import SoulClaw.Runtime.IdealTurn
import SoulClaw.Runtime.Rounds
import SoulClaw.Runtime.Uninterrupted
import SoulClaw.Runtime.Checkpoints
import SoulClaw.Runtime.Resumed
import SoulClaw.Runtime.Containment
import SoulClaw.Runtime.Transcript
import SoulClaw.Domain.Idempotency
import SoulClaw.Worker.Keys
import SoulClaw.Runtime.Gateway
import SoulClaw.Runtime.Signatures
import SoulClaw.Runtime.Replays
import SoulClaw.Foundation.Keyed
import SoulClaw.Foundation.Yaml
import SoulClaw.Wiki.Markdown
import SoulClaw.Wiki.Compile
import SoulClaw.Wiki.Lint
import SoulClaw.Wiki.Image
import SoulClaw.Wiki.Resolution
import SoulClaw.Wiki.BrokenLinks
import SoulClaw.Wiki.ErrorBook
import SoulClaw.Wiki.Unparsed
import SoulClaw.Foundation.Uuid
import SoulClaw.Foundation.Lines
import SoulClaw.Memories.File
import SoulClaw.Memories.Service
import SoulClaw.Memories.Effects
import SoulClaw.Memories.Consistency
import SoulClaw.Memories.Restored
import SoulClaw.Memories.Chains
import SoulClaw.Memories.Entries
import SoulClaw.Memories.Audit
import SoulClaw.Memories.RoundTrip
import SoulClaw.Memories.Interference
import SoulClaw.Foundation.Files
import SoulClaw.Wiki.Storage
import SoulClaw.Wiki.Proposals
import SoulClaw.Wiki.Archive
import SoulClaw.Infra.RateLimit
import SoulClaw.Infra.Windows
import SoulClaw.Infra.Expiry
import SoulClaw.Infra.Resilience
import SoulClaw.Infra.Breaker
import SoulClaw.Skills.Package
import SoulClaw.Skills.Storage
import SoulClaw.Skills.Service
import SoulClaw.Skills.Applied
import SoulClaw.Skills.Rollback
import SoulClaw.Skills.Writing
import SoulClaw.Skills.Atomicity
import SoulClaw.Skills.Stale
import SoulClaw.Skills.Mirror
import SoulClaw.Memories.Index
import SoulClaw.Memories.Indexed
import SoulClaw.Evolution.Service
import SoulClaw.Foundation.Calls
import SoulClaw.Evolution.SingleUse
import SoulClaw.Domain.A2ATasks
import SoulClaw.Runtime.RemoteResults
import SoulClaw.Runtime.RemoteTasks
import SoulClaw.Runtime.StreamTurns
import SoulClaw.Runtime.StreamFold
import SoulClaw.Runtime.StreamFaults
import SoulClaw.Runtime.EventLog
import SoulClaw.Runtime.Artifacts
import SoulClaw.Runtime.TaskIds
import SoulClaw.Runtime.PublishedIds
import SoulClaw.Runtime.Mcp
import SoulClaw.Runtime.McpCalls
import SoulClaw.Runtime.McpNames
import SoulClaw.Runtime.McpPolicy
import SoulClaw.Foundation.JsonRead
import SoulClaw.Foundation.JsonChars
import SoulClaw.Runtime.Sse
import SoulClaw.Runtime.SseFrames
import SoulClaw.Wiki.LinkScan
import SoulClaw.Wiki.Repairs
import SoulClaw.Domain.Conversation
import SoulClaw.Domain.RecentMessages
import SoulClaw.Domain.SummaryCoverage
import SoulClaw.Runtime.Senders
import SoulClaw.Runtime.Deliveries
import SoulClaw.Api.ToolRuns
import SoulClaw.Domain.SafetyFloor
import SoulClaw.Wiki.DroppedLinks
import SoulClaw.Foundation.Ranking
import SoulClaw.Memories.Search
import SoulClaw.Memories.Ranked
import SoulClaw.Wiki.Search
import SoulClaw.Wiki.TopResults
import SoulClaw.Wiki.Sufficiency
import SoulClaw.Wiki.Malformed
import SoulClaw.Wiki.KeyedUpdates
import SoulClaw.Wiki.RepairedTwice
import SoulClaw.Wiki.IndexLinks
import SoulClaw.Wiki.IndexRepairs
import SoulClaw.Foundation.Base64
import SoulClaw.Foundation.Calendar
import SoulClaw.Runtime.Cron
import SoulClaw.Runtime.CronBackoff
import SoulClaw.Runtime.CronFreshness
import SoulClaw.Evolution.Seeding
import SoulClaw.Evolution.Upkeep
import SoulClaw.Evolution.History
import SoulClaw.Runtime.Heartbeat
import SoulClaw.Runtime.HeartbeatTasks
import SoulClaw.Runtime.Dream
import SoulClaw.Runtime.DreamReview
import SoulClaw.Evolution.Carried
import SoulClaw.Runtime.DreamVerifications
import SoulClaw.Runtime.DreamProposals
import SoulClaw.Runtime.HostRuntime
import SoulClaw.Runtime.Snippets
import SoulClaw.Infra.CircuitReports
import SoulClaw.Infra.Delays
import SoulClaw.Infra.Trace
import SoulClaw.Infra.StatusGauges
import SoulClaw.Runtime.DreamGroups
import SoulClaw.Skills.Lookup
import SoulClaw.Api.Login
import SoulClaw.Skills.Containment
import SoulClaw.Skills.Scanning
import SoulClaw.Worker.Records
import SoulClaw.Foundation.Histories
import SoulClaw.Infra.Security
import SoulClaw.Api.Accounts
import SoulClaw.Api.Throttle
import SoulClaw.Wiki.Navigation
import SoulClaw.Wiki.Browsing
import SoulClaw.Memories.Conflicts
import SoulClaw.Memories.Resync
import SoulClaw.Runtime.McpSeed
import SoulClaw.Runtime.Connections
import SoulClaw.Runtime.Dialogue
