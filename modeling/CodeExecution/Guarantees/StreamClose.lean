import CodeExecution.Services.Sockets
import CodeExecution.Settings

/-! Clients of a completed job: each of their sockets is closed, or will be by a timer. -/

namespace CodeExecution

variable {jobId : JobId} {state next : Attached} {label : AttachedLabel}

/-! ## Completed jobs -/

/-- How far the normal path of a worker has completed a job. -/
inductive Completion where
  /-- The row has no terminal status, or none that a worker's result has brought. -/
  | incomplete
  /-- A worker has committed a result, and the row has kept a terminal status since. -/
  | committed
  /-- Since then a completion message has been delivered to the subscriber. -/
  | announced
  deriving DecidableEq, Repr

/-- The row of a job has a terminal status. -/
def Attached.ended (state : Attached) (jobId : JobId) : Bool :=
  isTerminalStatus (state.platform.store.statusOf jobId)

/-- A worker's COMMIT of a result of the job resolves. -/
def Attached.commits (state : Attached) (jobId : JobId) : AttachedLabel → Bool
  | .broadcast (.platform (.worker worker .resolves)) =>
    match state.platform.workers worker with
    | .running (.persist .commit job _) => job.jobId = jobId
    | _ => false
  | _ => false

/-- A completion message of the job is delivered. -/
def Attached.announces (state : Attached) (jobId : JobId) : AttachedLabel → Bool
  | .deliver key => key = jobId ∧ (state.nextMessage jobId).any StreamChunk.isCompletion
  | _ => false

/-- The completion of a job after a step. -/
def completionOf (jobId : JobId) (state : Attached) (label : AttachedLabel) (completion : Completion) :
    Completion :=
  -- Whoever takes the terminal status back makes the job incomplete again.
  if (state.step label).any fun next => next.ended jobId then
    if state.commits jobId label then .committed
    else if completion = .committed ∧ state.announces jobId label then .announced
    else completion
  else .incomplete

/-! ## The invariant -/

/-- Where the rest of the handler leads to a timer, or to the end of the socket. -/
def HandlerPoint.willClose : HandlerPoint → Bool
  | .select => true
  | .xrange status | .replay status _ => status.isTerminal
  | .returned => false

/-- The socket is not open, or a timer is set, or the handler will set one. -/
def Client.Closing (client : Client) : Prop :=
  client.socket ≠ .openSocket ∨ 0 < client.timers ∨ client.point.willClose = true

/-- What the completion of a job means for its row and for its clients. -/
structure Closes (jobId : JobId) (state : Attached) (completion : Completion) : Prop where
  ended : completion ≠ .incomplete → state.ended jobId = true
  closing : completion = .announced → ∀ id client, state.clients id = some client →
    client.jobId = jobId → client.Closing

/-- A closed socket is not open. -/
theorem Client.close_socket_ne (client : Client) (code : Nat) :
    (client.close code).socket ≠ .openSocket := by
  -- Only an open socket is closed.
  unfold close
  split
  · nofun
  · assumption

/-- A message leaves a client no farther from being closed. -/
theorem Client.Closing.forward {client : Client} (closing : client.Closing) (message : StreamChunk) :
    (client.forward message).Closing := by
  -- Timers are added, and the socket and its handler stay as they are.
  rcases closing with shut | pending | will
  · exact .inl shut
  · refine .inr (.inl ?_)
    unfold Client.forward
    split
    · exact Nat.succ_pos _
    · exact pending
  · exact .inr (.inr will)

/-- A completion message sets a timer for every open socket. -/
theorem Client.closing_of_completion (client : Client) {message : StreamChunk}
    (marks : message.isCompletion = true) : (client.forward message).Closing := by
  by_cases isOpen : client.socket = .openSocket
  · refine .inr (.inl ?_)
    simp [forward, isOpen, marks]
  · exact .inl isOpen

/-- A call leaves a client no farther from being closed, as long as its job has ended. -/
theorem Client.Closing.step {store : Store} {client next : Client} {call : ClientCall}
    (closing : client.Closing) (ended : isTerminalStatus (store.statusOf client.jobId) = true)
    (stepped : client.step store call = some next) : next.Closing := by
  cases Client.step_cases stepped with
  | select selecting stored =>
    -- The status that is read is terminal.
    rw [stored] at ended
    exact .inr (.inr ended)
  | xrange reading =>
    rcases closing with shut | pending | will
    · exact .inl shut
    · exact .inr (.inl pending)
    · rw [reading] at will
      exact .inr (.inr will)
  | @replay status entries replies =>
    rcases closing with shut | pending | will
    · exact .inl shut
    · refine .inr (.inl ?_)
      unfold Client.finishReplay
      split
      · exact Nat.succ_pos _
      · exact pending
    · -- The handler sets its timer now.
      have terminal : status.isTerminal = true := by
        rw [replies] at will
        exact will
      exact .inr (.inl (by simp [Client.finishReplay, terminal]))
  | gives code => exact .inl (client.close_socket_ne code)
  | timer => exact .inl (client.close_socket_ne 1000)
  | leave => exact .inl nofun

/-- Once all clients of an ended job are closing, a step leaves them so, and the new ones too. -/
theorem Attached.closing_step (stepped : attached.step state label = some next)
    (ended : state.ended jobId = true)
    (closing : ∀ id client, state.clients id = some client → client.jobId = jobId → client.Closing) :
    ∀ id client, next.clients id = some client → client.jobId = jobId → client.Closing := by
  intro id client connected own
  cases Attached.step_cases stepped with
  | broadcast | lost => exact closing id client connected own
  | @deliver key message arrives =>
    obtain ⟨before, was, same⟩ := Option.map_eq_some_iff.mp connected
    split at same
    · subst same
      exact (closing id before was own).forward message
    · subst same
      exact closing id before was own
  | @connect fresh key =>
    -- A new client has its SELECT ahead.
    by_cases isNew : id = fresh
    · subst isNew
      obtain rfl : .connected key = client := by simpa [Attached.withClient] using connected
      exact .inr (.inr rfl)
    · exact closing id client (by simpa [Attached.withClient, isNew] using connected) own
  | @client moved call before after was went =>
    by_cases isMoved : id = moved
    · subst isMoved
      obtain rfl : after = client := by simpa [Attached.withClient] using connected
      have job := Client.step_jobId went
      refine (closing id before was (job.symm.trans own)).step ?_ went
      rw [← job, own]
      exact ended
    · exact closing id client (by simpa [Attached.withClient, isMoved] using connected) own

/-- The completion message of a job leaves all its clients closing. -/
theorem Attached.closing_announced (stepped : attached.step state label = some next)
    (announces : state.announces jobId label = true) :
    ∀ id client, next.clients id = some client → client.jobId = jobId → client.Closing := by
  intro id client connected own
  cases Attached.step_cases stepped with
  | @deliver key message arrives =>
    obtain ⟨rfl, marks⟩ : key = jobId ∧ (state.nextMessage jobId).any StreamChunk.isCompletion = true :=
      of_decide_eq_true announces
    rw [arrives] at marks
    -- All sockets of the job are given the message.
    obtain ⟨before, was, same⟩ := Option.map_eq_some_iff.mp connected
    split at same
    · subst same
      exact before.closing_of_completion marks
    · next other =>
      subst same
      exact absurd own other
  | _ => exact absurd announces Bool.false_ne_true

/-- Every step keeps the meaning of the completion. -/
theorem Closes.step {completion : Completion} (closes : Closes jobId state completion)
    (stepped : attached.step state label = some next) :
    Closes jobId next (completionOf jobId state label completion) := by
  -- Only once the completion is announced are sockets to close, and they stay so.
  have after : (state.step label).any (fun next => next.ended jobId) = next.ended jobId := by
    have moved : state.step label = some next := stepped
    rw [moved]
    rfl
  unfold completionOf
  rw [after]
  split
  · next ended =>
    split
    · exact ⟨fun _ => ended, nofun⟩
    · split
      · next announced => exact ⟨fun _ => ended, fun _ => Attached.closing_announced stepped announced.2⟩
      · refine ⟨fun _ => ended, fun announced => ?_⟩
        subst announced
        exact Attached.closing_step stepped (closes.ended nofun) (closes.closing rfl)
  · exact ⟨fun complete => absurd rfl complete, nofun⟩

/-- Nothing is complete at first. -/
theorem Closes.initial : Closes jobId .initial .incomplete := ⟨fun complete => absurd rfl complete, nofun⟩

/-! ## The guarantee -/

/--
No socket is left waiting for a completed job.

Once the completion message has been delivered, a handler that has returned leaves its socket closed,
or with a timer that will close it.
-/
theorem no_socket_left_waiting {trace : List AttachedLabel}
    (run : (attached.tracking (completionOf jobId)).Runs (fun _ _ => True) (.initial, .incomplete)
      trace (state, .announced))
    {id : ClientId} {client : Client} (connected : state.clients id = some client)
    (attaches : client.jobId = jobId) (returned : client.point = .returned) :
    client.socket ≠ .openSocket ∨ 0 < client.timers := by
  have closes := run.preserves (fun reached => Closes jobId reached.1 reached.2) .initial
    fun _ _ _ closes _ stepped => by
      obtain ⟨moved, same⟩ := Machine.tracking_step.mp stepped
      rw [same]
      exact closes.step moved
  rcases closes.closing rfl id client connected attaches with shut | pending | will
  · exact .inl shut
  · exact .inr pending
  · -- Nothing follows the return.
    rw [returned] at will
    exact absurd will Bool.false_ne_true

/-- A worker executes the job and commits its result. -/
private def executes (worker : WorkerId) : List AttachedLabel :=
  (takingUp worker ++ .sandbox worker (some cleanExit) :: workerCalls worker 5).map
    fun label => .broadcast (.platform label)

/-- The worker acknowledges the job, and publishes its completion message. -/
private def announces (worker : WorkerId) : List AttachedLabel :=
  (workerCalls worker 3).map fun label => .broadcast (.platform label)

/-- A client connects, and its handler runs to the end. -/
private def attaches (id : ClientId) (jobId : JobId) : List AttachedLabel :=
  [.connect id jobId, .client id .select, .client id .xrange, .client id .replay]

/-- The guarantee for a client that hears the completion message, and for one that comes when the stream is gone. -/
theorem no_socket_left_waiting_example : ∃ state early late,
    (attached.tracking (completionOf "job")).Runs (fun _ _ => True) (.initial, .incomplete)
      ((submission "job").map (fun label => .broadcast (.platform label)) ++ attaches "early" "job" ++
        executes "w1" ++ announces "w1" ++ .deliver "job" ::
          .broadcast (.platform (.worker "w1" .resolves)) :: .broadcast (.streamExpires "job") ::
            attaches "late" "job") (state, .announced) ∧
    state.clients "early" = some early ∧ state.clients "late" = some late ∧ late.sent = [] ∧
    (early.socket ≠ .openSocket ∨ 0 < early.timers) ∧ (late.socket ≠ .openSocket ∨ 0 < late.timers) := by
  -- The run is executed, and the last part is the guarantee's.
  have executed : ((attached.tracking (completionOf "job")).guardedRun (fun _ _ => True)
      (.initial, .incomplete)
      ((submission "job").map (fun label => .broadcast (.platform label)) ++ attaches "early" "job" ++
        executes "w1" ++ announces "w1" ++ .deliver "job" ::
          .broadcast (.platform (.worker "w1" .resolves)) :: .broadcast (.streamExpires "job") ::
            attaches "late" "job")).map (fun reached =>
              (reached.2, reached.1.clients "early", reached.1.clients "late")) =
      some (.announced, some ⟨"job", .returned, .openSocket, 1, [completionChunk 0]⟩,
        some ⟨"job", .returned, .openSocket, 1, []⟩) := by decide
  obtain ⟨⟨state, completion⟩, run, shown⟩ := Machine.runs_of_guardedRun _ _ _ _ _ _ executed
  simp only [Prod.mk.injEq] at shown
  obtain ⟨rfl, early, late⟩ := shown
  exact ⟨state, _, _, run, early, late, rfl, no_socket_left_waiting run early rfl rfl,
    no_socket_left_waiting run late rfl rfl⟩

end CodeExecution
