import OpenClaw.Tasks.FlowCancellation
import OpenClaw.Transcript.ToolResultGuard
import OpenClaw.Transcript.KeptHistory
import OpenClaw.Transcript.SanitizedIds
import OpenClaw.Outbound.ExclusiveSends
import OpenClaw.Outbound.EntryFates
import OpenClaw.Agents.CircuitBreaker
import OpenClaw.Session.TruncatedSessions
import OpenClaw.Patch.ApplyPatch
import OpenClaw.Reply.FollowupLedger
import OpenClaw.Auth.ProfileCooldowns
import OpenClaw.Session.ExclusiveLock
import OpenClaw.Markdown.FaithfulChunks
import OpenClaw.Gateway.NodeReconnects
import OpenClaw.Routing.DirectSessions
import OpenClaw.Routing.CachedRoutes
import OpenClaw.Config.UserOverlay
import OpenClaw.Session.SerialUpdates
import OpenClaw.Transcript.TransportPairing
import OpenClaw.Session.RewrittenBranches
import OpenClaw.Agents.NarrowedTools
import OpenClaw.Heartbeat.DeliveredWakes
import OpenClaw.Process.SupervisedRuns
import OpenClaw.Gateway.ForwardedApprovals
import OpenClaw.Gateway.ReclaimedLocks
import OpenClaw.Net.GuardedFetches
import OpenClaw.Acp.AnsweredPrompts
import OpenClaw.Cron.StaggeredSlots
import OpenClaw.Cron.ErrorBackoff
import OpenClaw.Cron.RetryBudget
import OpenClaw.Cron.IntervalSpacing
import OpenClaw.Cron.AtomicUpdates
import OpenClaw.Exec.WindowsArgv
import OpenClaw.Exec.ArgPatterns
import OpenClaw.Exec.StdinOnly
import OpenClaw.Exec.UnwrappedCommands
import OpenClaw.Transcript.ValidTurns
import OpenClaw.Process.AccountedCommands
import OpenClaw.Transcript.PrunedContext
import OpenClaw.Patch.ExactHunks
import OpenClaw.Gateway.StreamedText
import OpenClaw.Gateway.WorkRevisions
import OpenClaw.Gateway.RateLimits
import OpenClaw.Net.EmbeddedAddresses
import OpenClaw.Reply.DebouncedOrder
import OpenClaw.Reply.DrainProgress
import OpenClaw.Process.OutputBuffers
import OpenClaw.Exec.CommandText
import OpenClaw.Cron.WallClockTimes
