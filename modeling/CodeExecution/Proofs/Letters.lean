import CodeExecution.Proofs.Authorship

/-! Letters between the COMMIT of a dead-letter transaction and their arrival in the dead-letter list. -/

namespace CodeExecution

variable {state next : Platform} {label : Label} {sender : Writer} {letter : DLQPayload}

/-- A process has committed a dead-letter transaction, and is about to push the letter. -/
inductive Sends (state : Platform) : Writer → DLQPayload → Prop
  | worker {worker : WorkerId} {letter : DLQPayload}
      (running : state.workers worker = .running (.deadLetterPush letter)) :
      Sends state (.worker worker) letter
  | scan {lockId : LockId} {letter : DLQPayload} {cursor : Cursor} {owner : WorkerId}
      {rest : List WorkerId}
      (recovers : state.scans lockId = .recover (.deadLetterPush letter cursor) owner rest) :
      Sends state (.scan lockId) letter

/-- A worker writes by its own calls only. -/
theorem Label.writer_ne_worker {worker : WorkerId}
    (other : ∀ outcome, label ≠ .worker worker outcome) :
    label.writer? ≠ some (.worker worker) := by
  -- Only one kind of label names a worker as the writer.
  cases label with
  | worker mover outcome =>
    intro same
    obtain rfl : mover = worker := by simpa [Label.writer?] using same
    exact other outcome rfl
  | _ => simp [Label.writer?]

/-- A scan writes by its own calls only. -/
theorem Label.writer_ne_scan {lockId : LockId} (other : ∀ outcome, label ≠ .scan lockId outcome) :
    label.writer? ≠ some (.scan lockId) := by
  cases label with
  | scan mover outcome =>
    intro same
    obtain rfl : mover = lockId := by simpa [Label.writer?] using same
    exact other outcome rfl
  | _ => simp [Label.writer?]

/-- A worker is about to push a letter only after it has committed the job as FAILED. -/
theorem WorkerPoint.resolve_deadLetterPush {was : WorkerPoint} {worker : WorkerId}
    {store later : Store} (resolved : was.resolve worker store = some (.deadLetterPush letter, later)) :
    was = .deadLetter .commit letter := by
  -- Every other call leads to points without a letter.
  generalize isNext : WorkerPoint.deadLetterPush letter = next at resolved
  cases WorkerPoint.resolve_cases resolved with
  | letterCommit => rw [WorkerPoint.deadLetterPush.inj isNext]
  | rollback =>
    unfold requeueWithBackoff at isNext
    split at isNext <;> simp at isNext
  | _ => simp at isNext

/-- No exception leads to the push of a letter. -/
theorem WorkerPoint.handler_ne_deadLetterPush {was : WorkerPoint} (letter : DLQPayload) :
    was.handler ≠ some (.deadLetterPush letter) := by
  -- The handlers lead into a requeue, or back to the head of the loop.
  intro handled
  cases was with
  | persist call job result =>
    cases call <;> simp only [WorkerPoint.handler, requeueWithBackoff, Option.some.injEq] at handled
    all_goals first | (split at handled <;> simp at handled) | simp at handled
  | deadLetter call own => cases call <;> simp [WorkerPoint.handler] at handled
  | claim job | statusCheck job | repush job | discard job | acknowledge job
  | complete call chunk job =>
    simp only [WorkerPoint.handler, requeueWithBackoff, Option.some.injEq] at handled
    split at handled <;> simp at handled
  | _ => simp [WorkerPoint.handler] at handled

/-- A letter that is to be pushed after a step was so before, or its transaction commits now. -/
theorem Sends.before (stepped : state.step label = some next) (sends : Sends next sender letter) :
    (Sends state sender letter ∧ label.writer? ≠ some sender) ∨
      (label.writer? = some sender ∧ state.effect label = .commitDeadLetter letter) := by
  -- A process comes to the push only from its COMMIT, when that resolves.
  cases sends with
  | @worker worker _ running =>
    rcases Platform.step_worker stepped running with ⟨was, other⟩ |
      ⟨outcome, before, after, rfl, was, went, rfl⟩ | ⟨_, _, _, impossible, _⟩ |
      ⟨_, before, _, _, settled, _⟩ | ⟨_, _, impossible, _⟩
    · exact .inl ⟨.worker was, Label.writer_ne_worker other⟩
    · rcases awaitCall_cases went with ⟨rfl, resolved⟩ | ⟨_, _, handled, same⟩ |
        ⟨_, _, _, _, handled, same⟩
      · obtain rfl := WorkerPoint.resolve_deadLetterPush resolved
        exact .inr ⟨rfl, by simp [Platform.effect, was, CallOutcome.applied, WorkerPoint.effect]⟩
      · obtain ⟨rfl, _⟩ := Prod.mk.inj same
        exact absurd handled (WorkerPoint.handler_ne_deadLetterPush letter)
      · obtain ⟨rfl, _⟩ := Prod.mk.inj same
        exact absurd handled (WorkerPoint.handler_ne_deadLetterPush letter)
    · simp at impossible
    -- A sandbox that ends leads to the result or to a requeue.
    · unfold WorkerPoint.sandboxSettled requeueWithBackoff at settled
      repeat' split at settled
      all_goals simp at settled
    · simp at impossible
  | @scan lockId _ cursor owner rest recovers =>
    rcases Platform.step_scan stepped lockId with ⟨same, other⟩ | ⟨rfl, _, rfl⟩ |
      ⟨outcome, after, rfl, went, rfl⟩ | ⟨_, _, rfl, _, rfl⟩ | ⟨rfl, rfl⟩
    · exact .inl ⟨.scan (same ▸ recovers), Label.writer_ne_scan other⟩
    · simp at recovers
    · obtain ⟨stands, later⟩ := after
      obtain rfl : stands = .recover (.deadLetterPush letter cursor) owner rest := by
        simpa using recovers
      rcases ScanPoint.call_recover went with ⟨was, before, rfl, resolved⟩ | ⟨_, _, _, _, impossible⟩ |
        ⟨impossible, _⟩
      · obtain rfl := RecoverPoint.resolve_deadLetterPush resolved
        exact .inr ⟨rfl, by
          simp [Platform.effect, before, CallOutcome.applied, ScanPoint.effect, RecoverPoint.effect]⟩
      · simp at impossible
      · simp at impossible
    -- A recovery begins with a read, not with a push.
    · exact absurd (ScanPoint.recoverAll_recover (by simpa using recovers)).1 (by simp)
    · simp at recovers

/-- The letter of a committed transaction is lost: its process dies, or its LPUSH fails. -/
def losesLetter (state : Platform) : Label → Bool
  | .worker worker outcome =>
    match state.workers worker with
    | .running (.deadLetterPush _) => !outcome.applied
    -- The transaction is committed, but its process takes it for rolled back.
    | .running (.deadLetter .commit _) => outcome = .rejects true
    | _ => false
  | .workerCrash worker =>
    match state.workers worker with
    | .running (.deadLetterPush _) => true
    | _ => false
  | .scan lockId outcome =>
    match state.scans lockId with
    | .recover (.deadLetterPush _ _) _ _ => !outcome.applied
    | .recover (.deadLetter .commit _ _) _ _ => outcome = .rejects true
    | _ => false
  | .scanDies lockId =>
    match state.scans lockId with
    | .recover (.deadLetterPush _ _) _ _ => true
    | _ => false
  | _ => false

/-- A letter that is not lost stays to be pushed, or is pushed now. -/
theorem Sends.after (stepped : state.step label = some next) (kept : losesLetter state label = false)
    (sends : Sends state sender letter) :
    (Sends next sender letter ∧ label.writer? ≠ some sender) ∨
      (label.writer? = some sender ∧ state.effect label = .sendLetter letter) := by
  -- Where the letter is not lost, the process is alive and the LPUSH takes effect if it is made.
  cases sends with
  | @worker worker _ was =>
    rcases Platform.step_running stepped was with ⟨later, running⟩ | ⟨rfl, _⟩
    · rcases Platform.step_worker stepped running with ⟨same, other⟩ |
        ⟨outcome, before, after, rfl, was', went, rfl⟩ | ⟨_, _, was', _, _⟩ |
        ⟨_, before, _, was', settled, _⟩ | ⟨_, was', _, _⟩
      · obtain rfl : later = .deadLetterPush letter := by simpa [was] using same.symm
        exact .inl ⟨.worker running, Label.writer_ne_worker other⟩
      · have applied : outcome.applied = true := by simpa [losesLetter, was] using kept
        exact .inr ⟨rfl, by simp [Platform.effect, was, applied, WorkerPoint.effect]⟩
      · simp [was] at was'
      · obtain rfl : before = .deadLetterPush letter := by simpa [was] using was'.symm
        simp [WorkerPoint.sandboxSettled] at settled
      · simp [was] at was'
    · simp [losesLetter, was] at kept
  | @scan lockId _ cursor owner rest was =>
    rcases Platform.step_scan stepped lockId with ⟨same, other⟩ | ⟨_, idle, _⟩ |
      ⟨outcome, after, rfl, went, rfl⟩ | ⟨_, _, _, detecting, _⟩ | ⟨rfl, rfl⟩
    · exact .inl ⟨.scan (same.trans was), Label.writer_ne_scan other⟩
    · simp [was] at idle
    · have applied : outcome.applied = true := by simpa [losesLetter, was] using kept
      exact .inr ⟨rfl, by simp [Platform.effect, was, applied, ScanPoint.effect, RecoverPoint.effect]⟩
    · simp [was] at detecting
    · simp [losesLetter, was] at kept

/-- A dead-letter transaction that commits is followed by the push of its letter. -/
theorem Sends.committed (stepped : state.step label = some next)
    (kept : losesLetter state label = false)
    (commits : state.effect label = .commitDeadLetter letter) :
    ∃ sender, label.writer? = some sender ∧ Sends next sender letter := by
  -- A COMMIT that takes effect resolves, because its reply is not lost.
  rcases Platform.effect_commitDeadLetter commits with
    ⟨worker, outcome, rfl, running⟩ | ⟨lockId, outcome, cursor, owner, rest, rfl, recovers⟩
  · have resolves : outcome = .resolves := by
      rcases outcome with _ | _ | _
      · rfl
      · simp [Platform.effect, running, CallOutcome.applied] at commits
      · simp [losesLetter, running] at kept
    subst resolves
    cases Platform.step_cases stepped with
    | worker was went =>
      rw [running] at was
      obtain rfl := WorkerState.running.inj was
      obtain rfl := Option.some.inj went
      exact ⟨.worker worker, rfl, .worker (by simp)⟩
  · have resolves : outcome = .resolves := by
      rcases outcome with _ | _ | _
      · rfl
      · simp [Platform.effect, CallOutcome.applied] at commits
      · simp [losesLetter, recovers] at kept
    subst resolves
    cases Platform.step_cases stepped with
    | scan went =>
      rw [recovers] at went
      obtain rfl := Option.some.inj went
      have pushes : (state.withScan lockId (.recover (.deadLetterPush letter cursor) owner rest,
          state.store.commitDeadLetter letter)).scans lockId =
            .recover (.deadLetterPush letter cursor) owner rest := by simp
      exact ⟨.scan lockId, rfl, .scan pushes⟩

end CodeExecution
