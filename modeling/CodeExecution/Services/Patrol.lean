import CodeExecution.Services.Timing

/-! The monitor's schedule: one scan after another, called by an interval. -/

namespace CodeExecution

/-- `REAPER_INTERVAL_MS` by default. -/
def reaperIntervalMs : Nat := 10000

/-- A scan has been called and has not returned. -/
def ScanPoint.ongoing : ScanPoint → Bool
  | .acquire | .detect | .recover _ _ _ | .release => true
  | .idle | .finished => false

/-- The clock with the scans that one monitor calls. -/
structure Patrol where
  current : Timed
  /-- When a scan was called. -/
  started : LockId → Nat
  /-- When the latest scan was called. -/
  latest : Option Nat

/-- The monitor begins at time zero. -/
def Patrol.initial : Patrol where
  current := .initial
  started := fun _ => 0
  latest := none

/-- Where the platform stands. -/
abbrev Patrol.services (state : Patrol) : Platform := state.current.current.platform

/-- One step on the clock, where the label is enabled. -/
def Patrol.step (state : Patrol) (label : TimedLabel) : Option Patrol :=
  (timed.step state.current label).map fun next =>
    match label with
    | .act (.platform (.scanStart lockId)) =>
      { current := next
        started := Function.update state.started lockId state.current.now
        latest := some state.current.now }
    | _ => { state with current := next }

/-- The clock with the scans of one monitor as a labelled machine. -/
def patrol : Machine Patrol TimedLabel where
  step := Patrol.step

/--
The monitor keeps its schedule, and Redis keeps no key beyond its time to live.

Each scan is called at most `period` after the one before, and `setInterval` never fires early.
It takes at most `duration`, and its calls resolve; the monitor is not restarted.
-/
def onPatrol (period duration : Nat) (state : Patrol) : TimedLabel → Prop
  | .elapse ms =>
    (∀ worker, state.current.current.heartbeats worker = true →
      state.current.now + ms ≤ state.current.expiry worker) ∧
    state.current.now + ms ≤ state.latest.getD 0 + period ∧
    ∀ lockId, (state.services.scans lockId).ongoing = true →
      state.current.now + ms ≤ state.started lockId + duration
  | .act (.platform label) =>
    match label with
    | .scanStart _ => ∀ last ∈ state.latest, last + reaperIntervalMs ≤ state.current.now
    | .scan _ outcome => outcome = .resolves
    | .scanDies _ | .startupBegin | .startup _ | .startupSelect _ => False
    -- Workers and gateways may fail and crash as they like.
    | _ => True
  | .act label => scanGuarantee state.current.current label

end CodeExecution
