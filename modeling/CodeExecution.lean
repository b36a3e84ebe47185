import CodeExecution.Guarantees.Bootstrap
import CodeExecution.Guarantees.BoundedAttempts
import CodeExecution.Guarantees.Completion
import CodeExecution.Guarantees.Conservation
import CodeExecution.Guarantees.DeadLetters
import CodeExecution.Guarantees.Detail
import CodeExecution.Guarantees.Detection
import CodeExecution.Guarantees.Draining
import CodeExecution.Guarantees.Exclusion
import CodeExecution.Guarantees.FinishedStreams
import CodeExecution.Guarantees.JobHistory
import CodeExecution.Guarantees.JobInHand
import CodeExecution.Guarantees.LetterPages
import CodeExecution.Guarantees.Listing
import CodeExecution.Guarantees.LiveSource
import CodeExecution.Guarantees.MemoryForgery
import CodeExecution.Guarantees.OutputCaps
import CodeExecution.Guarantees.OutputPersistence
import CodeExecution.Guarantees.Payloads
import CodeExecution.Guarantees.PublishOrder
import CodeExecution.Guarantees.QueueOrder
import CodeExecution.Guarantees.Turnaround
import CodeExecution.Guarantees.Reaper
import CodeExecution.Guarantees.Rebuild
import CodeExecution.Guarantees.Recovery
import CodeExecution.Guarantees.RecoveryTime
import CodeExecution.Guarantees.Refusal
import CodeExecution.Guarantees.Replay
import CodeExecution.Guarantees.ResultAgreement
import CodeExecution.Guarantees.RetryCount
import CodeExecution.Guarantees.RetryPath
import CodeExecution.Guarantees.RunIsolation
import CodeExecution.Guarantees.ShownResults
import CodeExecution.Guarantees.Shutdown
import CodeExecution.Guarantees.SingleExecutor
import CodeExecution.Guarantees.SocketRegistry
import CodeExecution.Guarantees.StaleReplies
import CodeExecution.Guarantees.Startup
import CodeExecution.Guarantees.StreamChunks
import CodeExecution.Guarantees.StreamClose
import CodeExecution.Guarantees.StreamCoverage
import CodeExecution.Guarantees.StreamOrder
import CodeExecution.Guarantees.TerminalStatus
import CodeExecution.Guarantees.Timing
