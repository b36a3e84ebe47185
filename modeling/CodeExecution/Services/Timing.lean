import CodeExecution.Services.Detection
import CodeExecution.Settings

/-! Time: the interval of the heartbeats, and the times to live of the heartbeats and of the lock. -/

namespace CodeExecution

/-- The delay of `setInterval(sendHeartbeat, 5000)`, in milliseconds. -/
def heartbeatIntervalMs : Nat := 5000

/-- `EX 15`, in milliseconds. -/
def heartbeatTtlMs : Nat := 15000

/-- `REAPER_LOCK_TTL_MS`. -/
def reaperLockTtlMs : Nat := 15000

/-- The platform with its heartbeats, on a clock that all processes share. -/
structure Timed where
  current : Detection
  /-- Milliseconds that have passed. -/
  now : Nat
  /-- When the heartbeat of a worker expires, as long as its key exists. -/
  expiry : WorkerId → Nat
  /-- When `sendHeartbeat` of a worker has settled last. -/
  settled : WorkerId → Nat
  /-- The last `SET` of a worker has not reached Redis. -/
  missed : WorkerId → Bool
  /-- When the lock expires, as long as its key exists. -/
  lockExpiry : Nat

/-- Nothing has happened at time zero. -/
def Timed.initial : Timed where
  current := .initial
  now := 0
  expiry := fun _ => 0
  settled := fun _ => 0
  missed := fun _ => false
  lockExpiry := 0

/-- One thing that happens on the clock. -/
inductive TimedLabel where
  /-- Time passes. -/
  | elapse (ms : Nat)
  /-- Something happens at this moment. -/
  | act (label : DetectionLabel)
  deriving DecidableEq

namespace Timed

variable (state : Timed)

/-- Redis drops a key once its time to live is over, and not before. -/
def ripe : DetectionLabel → Bool
  | .heartbeatExpires worker => state.current.heartbeats worker && state.expiry worker ≤ state.now
  | .platform .lockExpires => state.lockExpiry ≤ state.now
  | _ => true

/-- A `SET` with a time to live is remembered with the moment it expires at. -/
def record (next : Detection) : DetectionLabel → Timed
  | .heartbeat worker outcome =>
    { state with
      current := next
      expiry :=
        if outcome.applied then Function.update state.expiry worker (state.now + heartbeatTtlMs)
        else state.expiry
      settled := Function.update state.settled worker state.now
      missed := Function.update state.missed worker !outcome.applied }
  | .platform (.scan _ _) =>
    -- NX sets the lock only while it is absent.
    { state with
      current := next
      lockExpiry :=
        if state.current.platform.store.reaperLock = none ∧
          next.platform.store.reaperLock ≠ none then state.now + reaperLockTtlMs
        else state.lockExpiry }
  | _ => { state with current := next }

/-- One step on the clock, where the label is enabled. -/
def step : TimedLabel → Option Timed
  | .elapse ms => some { state with now := state.now + ms }
  | .act label =>
    if state.ripe label then (detection.step state.current label).map fun next => state.record next label
    else none

end Timed

/-- The platform on a clock as a labelled machine. -/
def timed : Machine Timed TimedLabel where
  step := Timed.step

/-- What a step on the clock does to the platform: its own label, or the comparison behind two loops. -/
def platformLabels (state : Timed) : TimedLabel → List Label
  | .elapse _ | .act (.heartbeat _ _) | .act (.heartbeatExpires _) => []
  | .act (.platform label) => [label]
  | .act (.scanPage lockId found last) =>
    match (state.current.loops lockId).queueKeys?, last with
    | some queueKeys, true =>
      [.detect lockId (queueKeys.map extractWorkerIdFromQueue)
        (((state.current.iteration lockId).add found).found.map extractWorkerIdFromHeartbeat)]
    | _, _ => []

/--
The services keep their schedule.

A worker's first heartbeat reaches Redis, although `sendHeartbeat` would swallow its failure.
A live worker's next heartbeat settles within the interval and this lag, and no two in a row fail.
The scan that has the lock is over before the lock expires, and the monitor is not restarted.
-/
def timely (lag : Nat) (state : Timed) : TimedLabel → Prop
  | .elapse ms =>
    (∀ worker, state.current.announced worker = true →
      state.current.platform.workers worker ≠ .crashed →
      state.now + ms ≤ state.settled worker + heartbeatIntervalMs + lag) ∧
    ∀ lockId, (state.current.platform.scans lockId).critical = true →
      state.now + ms < state.lockExpiry
  | .act (.heartbeat worker outcome) =>
    outcome.applied = true ∨
      (state.current.announced worker = true ∧ state.missed worker = false)
  | .act (.platform label) =>
    match label with
    | .scanDies _ | .startupBegin | .startup _ | .startupSelect _ => False
    | _ => True
  | .act label => scanGuarantee state.current label

end CodeExecution
