import CodeExecution.Settings

/-! Graceful shutdown: workers that are told to stop, and leave their loop once the job in hand is done. -/

namespace CodeExecution

/-- The worker whose program a label moves on. -/
def Label.mover? : Label → Option WorkerId
  | .workerStart mover | .worker mover _ | .launch mover | .sandbox mover _ => some mover
  | _ => none

/-- The platform, with what its workers have been told. -/
structure Fleet where
  current : Platform
  /-- `shouldRun` is false. -/
  stopping : WorkerId → Bool
  /-- The loop has been left, and the heartbeat interval cleared. -/
  departed : WorkerId → Bool

/-- Nobody has been told to stop. -/
def Fleet.initial : Fleet where
  current := .initial
  stopping := fun _ => false
  departed := fun _ => false

/-- One thing that happens to the fleet. -/
inductive FleetLabel where
  /-- A step of the platform. -/
  | platform (label : Label)
  /-- The handler of SIGTERM or SIGINT runs, which only sets a flag. -/
  | signal (worker : WorkerId)
  deriving DecidableEq

/-- `while (shouldRun)`, which a worker reads whenever it comes to the head of its loop. -/
def Fleet.arrive (fleet : Fleet) (label : Label) (next : Platform) : Fleet :=
  match label.mover? with
  | some worker =>
    if fleet.stopping worker = true ∧ next.workers worker = .running .pop then
      -- The process makes no call from here on, which is all the others can see of a dead one.
      { fleet with
        current := { next with workers := Function.update next.workers worker .crashed }
        departed := Function.update fleet.departed worker true }
    else { fleet with current := next }
  | none => { fleet with current := next }

/-- One step of the fleet, where the label is enabled. -/
def Fleet.step (fleet : Fleet) : FleetLabel → Option Fleet
  | .platform label => (platform.step fleet.current label).map (fleet.arrive label)
  | .signal worker =>
    -- A process that is gone has no handler; one that has not begun its loop has one.
    if fleet.current.workers worker = .crashed then none
    else some { fleet with stopping := Function.update fleet.stopping worker true }

/-- The fleet as a labelled machine. -/
def fleet : Machine Fleet FleetLabel where
  step := Fleet.step

/-- What is noticed at a step: a worker that leaves its loop has not crashed. -/
def fleetNotices (state : Fleet) : FleetLabel → List Notice
  | .platform label => notices state.current label
  | .signal _ => []

/-- Workers may crash or be told to stop at any time, every call resolves, and every sandbox ends. -/
def fleetCrashStop (state : Fleet) : FleetLabel → Bool
  | .platform label => crashStop state.current label
  | .signal _ => true

/-- Arriving at the head of the loop, a worker goes on or departs. -/
theorem Fleet.arrive_cases (state : Fleet) (label : Label) (next : Platform) :
    state.arrive label next = { state with current := next } ∨
    ∃ worker, label.mover? = some worker ∧ state.stopping worker = true ∧
      next.workers worker = .running .pop ∧ state.arrive label next =
        { state with
          current := { next with workers := Function.update next.workers worker .crashed }
          departed := Function.update state.departed worker true } := by
  unfold arrive
  split
  · next worker moves =>
    -- The flag matters only at the head of the loop.
    split
    · next leaves => exact .inr ⟨worker, moves, leaves.1, leaves.2, rfl⟩
    · exact .inl rfl
  · exact .inl rfl

end CodeExecution
