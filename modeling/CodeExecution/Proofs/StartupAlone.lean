import CodeExecution.Proofs.Coverage

/-! The startup recovery on its own, over any rows and any lists. -/

namespace CodeExecution

/-- The record of a job after the bulk update. -/
def JobRecord.reset (record : JobRecord) : JobRecord :=
  record.map fun row => if row.1 = .running then (.pending, row.2) else row

/-- Nobody but the startup recovery acts. -/
def startupAlone : Label → Bool
  | .clock _ | .startup _ | .startupSelect _ => true
  | _ => false

/-- How far the recovery has come from one store, and what it has made of it. -/
inductive StartupAlone (start store : Store) : StartupPoint → Prop where
  /-- Nothing has been written. -/
  | resetting (rows : ∀ id, store.recordOf id = start.recordOf id)
      (pending : store.pending = start.pending) (processing : store.processing = start.processing) :
      StartupAlone start store .resetRunning
  /-- The rows are reset, and the lists are as before. -/
  | checking {point : StartupPoint} (rows : ∀ id, store.recordOf id = (start.recordOf id).reset)
      (pending : store.pending = start.pending) (processing : store.processing = start.processing)
      (decided : point = .checkDepth ∨ (point = .selectPending ∧ start.pending = []) ∨
        (point = .finished ∧ start.pending ≠ [])) :
      StartupAlone start store point
  /-- The rows that were read are pushed one after another. -/
  | rehydrating (left : List SubmissionRow)
      (rows : ∀ id, store.recordOf id = (start.recordOf id).reset) (empty : start.pending = [])
      (covered : ∀ id, store.statusOf id = some .pending →
        store.Lists id ∨ ∃ row ∈ left, row.id = id) :
      StartupAlone start store (.rehydrateAll left)
  /-- A call has rejected. -/
  | failed : StartupAlone start store .failed

/-- A row that the bulk read returns for every job that is PENDING. -/
theorem Store.pendingRows.covers {store : Store} {rows : List SubmissionRow}
    (read : store.pendingRows rows) {id : JobId} (waiting : store.statusOf id = some .pending) :
    ∃ row ∈ rows, row.id = id := by
  -- The selection contains the stored row of the job.
  obtain ⟨row, found, status⟩ := Option.map_eq_some_iff.mp waiting
  have same : row.id = id := KeyedTable.key_of_lookup found
  have selected : row ∈ store.submissions.select fun row => row.status = .pending :=
    KeyedTable.mem_select_iff.mpr ⟨same ▸ found, by simpa using status⟩
  exact ⟨row, read.1.mem_iff.mpr selected, same⟩

/-- Pushing the payload of a row lists its job, and every job that was listed before. -/
theorem Store.Lists.of_pushed {store : Store} {row : SubmissionRow} {id : JobId}
    (lists : store.Lists id ∨ row.id = id) :
    (store.pushPending (.payload (payloadOfRow row))).Lists id := by
  -- The pushed payload names the key of its row.
  rcases lists with (queued | held) | rfl
  · exact .inl (List.mem_cons_of_mem _ queued)
  · exact .inr held
  · exact .inl List.mem_cons_self

/-- A resolved call of the recovery brings it to its next phase. -/
theorem StartupAlone.resolves {start store : Store} {point : StartupPoint}
    {after : StartupPoint × Store} (phase : StartupAlone start store point)
    (resolved : point.resolve store = some after) : StartupAlone start after.2 after.1 := by
  -- The three calls that can resolve are the UPDATE, the LLEN and an LPUSH.
  cases phase with
  | resetting rows pending processing =>
    obtain rfl := Option.some.inj resolved
    refine .checking (fun id => ?_) pending processing (.inl rfl)
    rw [Store.recordOf_resetRunning, rows]
    rfl
  | checking rows pending processing decided =>
    rcases decided with rfl | ⟨rfl, _⟩ | ⟨rfl, _⟩
    · obtain rfl := Option.some.inj resolved
      refine .checking rows pending processing (.inr ?_)
      rw [pending]
      split
      · next empty => exact .inl ⟨rfl, List.length_eq_zero_iff.mp empty⟩
      · next filled => exact .inr ⟨rfl, fun empty => filled (by rw [empty]; rfl)⟩
    · simp [StartupPoint.resolve] at resolved
    · simp [StartupPoint.resolve] at resolved
  | rehydrating left rows empty covered =>
    cases left with
    | nil => simp [StartupPoint.rehydrateAll, StartupPoint.resolve] at resolved
    | cons row rest =>
      obtain rfl := Option.some.inj resolved
      refine .rehydrating rest rows empty fun id waiting => ?_
      rcases covered id waiting with lists | ⟨other, member, same⟩
      · exact .inl (.of_pushed (.inl lists))
      · rcases List.mem_cons.mp member with rfl | later
        · exact .inl (.of_pushed (.inr same))
        · exact .inr ⟨other, later, same⟩
  | failed => simp [StartupPoint.resolve] at resolved

/--
A property of the recovery and its store is kept by every run of the recovery on its own.

The clock keeps it, as do the calls that resolve and the bulk read, and it holds of a failed recovery.
-/
theorem startupAlone_step {phase : Store → StartupPoint → Prop}
    (clock : ∀ store now point, phase store point → phase { store with now } point)
    (resolves : ∀ store point after, phase store point → point.resolve store = some after →
      phase after.2 after.1)
    (reads : ∀ store rows, phase store .selectPending → store.pendingRows rows →
      phase store (.rehydrateAll rows))
    (failed : ∀ store, phase store .failed) {state next : Platform} {label : Label}
    (holds : phase state.store state.startup) (permitted : startupAlone label = true)
    (stepped : platform.step state label = some next) : phase next.store next.startup := by
  cases Platform.step_cases stepped with
  | clock now => exact clock _ now _ holds
  | @startupSelect rows selecting read =>
    rw [selecting] at holds
    exact reads _ rows holds read
  | startup went =>
    rcases awaitCall_cases went with ⟨_, resolved⟩ | ⟨_, point, handled, rfl⟩ |
      ⟨_, _, point, _, handled, rfl⟩
    · exact resolves _ _ _ holds resolved
    all_goals
      -- Whatever rejects, the exception leaves the function.
      cases at_ : state.startup <;> simp only [at_, StartupPoint.handler, Option.some.injEq,
        reduceCtorEq] at handled <;> obtain rfl := handled <;> exact failed _
  | _ => simp [startupAlone] at permitted

/-- No row and no list depends on the clock. -/
theorem StartupAlone.clock {start store : Store} {point : StartupPoint}
    (phase : StartupAlone start store point) (now : Timestamp) :
    StartupAlone start { store with now } point := by
  cases phase with
  | resetting rows pending processing => exact .resetting rows pending processing
  | checking rows pending processing decided => exact .checking rows pending processing decided
  | rehydrating left rows empty covered => exact .rehydrating left rows empty covered
  | failed => exact .failed

/-- At the bulk read the rows are reset, and the pending list was empty. -/
theorem StartupAlone.at_read {start store : Store} (phase : StartupAlone start store .selectPending) :
    (∀ id, store.recordOf id = (start.recordOf id).reset) ∧ start.pending = [] := by
  -- The read follows the depth check, and the other phases stand elsewhere.
  generalize at_ : StartupPoint.selectPending = point at phase
  cases phase with
  | checking reset pending processing decided =>
    subst at_
    exact ⟨reset, by simpa using decided⟩
  | rehydrating left _ _ _ => cases left <;> simp [StartupPoint.rehydrateAll] at at_
  | resetting | failed => simp at at_

/-- The bulk read finds a row for every job that is PENDING. -/
theorem StartupAlone.reads {start store : Store} (phase : StartupAlone start store .selectPending)
    {rows : List SubmissionRow} (read : store.pendingRows rows) :
    StartupAlone start store (.rehydrateAll rows) :=
  .rehydrating rows phase.at_read.1 phase.at_read.2 fun _ waiting => .inr (read.covers waiting)

/-- A step of the recovery on its own keeps its phases. -/
theorem StartupAlone.step {start : Store} {state next : Platform} {label : Label}
    (phase : StartupAlone start state.store state.startup) (permitted : startupAlone label = true)
    (stepped : platform.step state label = some next) :
    StartupAlone start next.store next.startup :=
  -- The rule's four cases are the lemmas above.
  startupAlone_step (fun _ now _ phase => phase.clock now)
    (fun _ _ _ phase resolved => phase.resolves resolved) (fun _ _ phase read => phase.reads read)
    (fun _ => .failed) phase permitted stepped

/-- A row is PENDING after the reset when it was open before, and none is RUNNING. -/
theorem statusOf_reset {start store : Store} {id : JobId}
    (rows : store.recordOf id = (start.recordOf id).reset) :
    store.statusOf id ≠ some .running ∧
      (store.statusOf id = some .pending ↔
        start.statusOf id = some .pending ∨ start.statusOf id = some .running) := by
  -- The reset turns RUNNING into PENDING, and nothing else.
  rw [Store.statusOf_eq, Store.statusOf_eq, rows]
  cases start.recordOf id with
  | none => simp [JobRecord.reset]
  | some row => obtain ⟨status, retryCount⟩ := row; cases status <;> simp [JobRecord.reset]

end CodeExecution
