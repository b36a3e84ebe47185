import CodeExecution.Library.Outbox
import CodeExecution.Proofs.Printing
import CodeExecution.Services.Publishing

/-! The order of a job's live messages, of its stream and of the calls that publish them. -/

namespace CodeExecution

variable {state next : Publishing} {label : PublishingLabel} {worker : WorkerId} {jobId : JobId}

/-! ## The outbox of a worker -/

/-- What a worker has posted and not settled: the job, the postings, and whether the first is added. -/
def Publishing.underway (state : Publishing) (worker : WorkerId) :
    Option (JobId × List Posting × Bool) :=
  match state.platform.workers worker with
  | .running (.executing job) =>
    -- In its sandbox, a worker has the links of the queue under way.
    (state.sandboxes worker).map fun call => (job.jobId, call.links, call.announcing)
  | .running point =>
    -- Outside of it, at most a marker that is added and not published.
    match point.marking? with
    | some (.publish, chunk, jobId) => some (jobId, [state.marker worker chunk], true)
    | _ => none
  | .absent | .crashed => none

/-- The postings of a worker. -/
def ofWorker (worker : WorkerId) (postings : List Posting) : List Posting :=
  postings.filter fun posting => posting.worker = worker

/-- An outbox with these logs, and what is under way for a job. -/
def outboxOf (jobId : JobId) (calls entries channel : List Posting)
    (underway : Option (JobId × List Posting × Bool)) : Outbox Posting where
  calls := calls
  waiting := underway.elim [] fun held => if held.1 = jobId then held.2.1 else []
  announcing := underway.any fun held => held.1 = jobId && held.2.2
  log := entries
  channel := channel

/-- A worker's postings for a job as an outbox. -/
def Publishing.outbox (state : Publishing) (worker : WorkerId) (jobId : JobId) : Outbox Posting :=
  outboxOf jobId (ofWorker worker (state.calls jobId)) (ofWorker worker (state.entries jobId))
    (ofWorker worker (state.channel jobId)) (state.underway worker)

/-- The retry path does not begin in a sandbox. -/
theorem requeueWithBackoff_ne_executing (own job : QueuePayload) :
    requeueWithBackoff own ≠ .executing job := by
  unfold requeueWithBackoff
  split <;> simp

/-- A sandbox that settles is left. -/
theorem WorkerPoint.sandboxSettled_ne_executing {before point : WorkerPoint}
    {result : Option SandboxResult} (settled : before.sandboxSettled result = some point)
    (job : QueuePayload) : point ≠ .executing job := by
  -- A result leads to the transaction, and a rejection to a retry.
  unfold sandboxSettled at settled
  repeat' split at settled
  · obtain rfl := Option.some.inj settled
    simp
  · obtain rfl := Option.some.inj settled
    exact requeueWithBackoff_ne_executing _ job
  · simp at settled

/-- No call leads into a sandbox. -/
theorem WorkerPoint.call_ne_executing {point : WorkerPoint} {store : Store} {outcome : CallOutcome}
    {after : WorkerPoint × Store}
    (went : awaitCall outcome (point.resolve worker store) point.handler store = some after)
    (job : QueuePayload) : after.1 ≠ .executing job := by
  -- A sandbox is started by a launch, never by a call.
  have failed : point.handler ≠ some (.executing job) := by
    unfold handler
    split <;> simp [requeueWithBackoff_ne_executing]
  obtain ⟨next, later⟩ := after
  rcases awaitCall_cases went with ⟨rfl, resolved⟩ | ⟨rfl, _, handled, same⟩ |
    ⟨rfl, _, _, _, handled, same⟩
  · cases WorkerPoint.resolve_cases resolved with
    | rollback => exact requeueWithBackoff_ne_executing _ job
    | _ => simp
  · obtain ⟨rfl, -⟩ := Prod.mk.inj same
    exact fun executes => failed (executes ▸ handled)
  · obtain ⟨rfl, -⟩ := Prod.mk.inj same
    exact fun executes => failed (executes ▸ handled)

/-- No call is awaited in a sandbox. -/
theorem WorkerPoint.awaited_ne_executing {point : WorkerPoint} {store : Store}
    {outcome : CallOutcome} {after : WorkerPoint × Store}
    (went : awaitCall outcome (point.resolve worker store) point.handler store = some after)
    (job : QueuePayload) : point ≠ .executing job := by
  -- In a sandbox no call is awaited.
  rintro rfl
  rcases awaitCall_cases went with ⟨_, resolved⟩ | ⟨_, _, handled, _⟩ | ⟨_, _, _, resolved, _⟩
  · simp [resolve] at resolved
  · simp [handler] at handled
  · simp [resolve] at resolved

/-- After a call, a worker is about to publish the marker that it has added by it. -/
theorem WorkerPoint.call_marking {point : WorkerPoint} {store : Store} {outcome : CallOutcome}
    {after : WorkerPoint × Store}
    (went : awaitCall outcome (point.resolve worker store) point.handler store = some after)
    (chunk : StreamChunk) (jobId : JobId) : after.1.marking? = some (.publish, chunk, jobId) ↔
      outcome = .resolves ∧ point.marking? = some (.xadd, chunk, jobId) := by
  -- An XADD that resolves is followed by its PUBLISH; one that rejects drops the marker.
  obtain ⟨next, later⟩ := after
  rcases awaitCall_cases went with ⟨rfl, resolved⟩ | ⟨rfl, _, handled, same⟩ |
    ⟨rfl, _, _, _, handled, same⟩
  · rw [and_iff_right rfl]
    constructor
    · intro marks
      rcases resolve_marking resolved marks with ⟨first, -⟩ | ⟨earlier, marked, follows, -⟩
      · exact absurd first (by simp)
      · cases earlier with
        | xadd => exact marked
        | publish | expire => simp [StreamCall.next] at follows
    · intro marks
      cases WorkerPoint.resolve_cases resolved with
      | @complete call following own job follows | @letterComplete call following own letter follows =>
        obtain ⟨rfl, rfl, rfl⟩ : call = .xadd ∧ own = chunk ∧ _ = jobId := by
          simpa [marking?] using marks
        obtain rfl : StreamCall.publish = following := Option.some.inj follows
        rfl
      | _ => simp [marking?] at marks
  · obtain ⟨rfl, -⟩ := Prod.mk.inj same
    simp [handler_marking handled]
  · obtain ⟨rfl, -⟩ := Prod.mk.inj same
    simp [handler_marking handled]

/-! ## The logs -/

/-- Logs of other jobs stay as they are. -/
theorem extend_other {log : JobId → List Posting} {own : JobId} (postings : List Posting)
    (different : jobId ≠ own) : Publishing.extend log own postings jobId = log jobId := by
  simp [Publishing.extend, different]

/-- So do the postings of other workers. -/
theorem ofWorker_extend_other {log : JobId → List Posting} {own : JobId} {postings : List Posting}
    (others : ∀ posting ∈ postings, posting.worker ≠ worker) :
    ofWorker worker (Publishing.extend log own postings jobId) = ofWorker worker (log jobId) := by
  have none : postings.filter (fun posting => posting.worker = worker) = [] := by
    simpa [List.filter_eq_nil_iff] using others
  -- The log of one job has grown, by calls of others.
  by_cases same : jobId = own
  · subst same
    simp [Publishing.extend, ofWorker, none]
  · rw [extend_other postings same]

/-- A worker's own postings are added. -/
theorem ofWorker_extend {log : JobId → List Posting} {own : JobId} {postings : List Posting}
    (mine : ∀ posting ∈ postings, posting.worker = worker) :
    ofWorker worker (Publishing.extend log own postings own) =
      ofWorker worker (log own) ++ postings := by
  have all : postings.filter (fun posting => posting.worker = worker) = postings := by
    simpa [List.filter_eq_self] using mine
  simp [Publishing.extend, ofWorker, all]

/-! ## What is under way -/

/-- Outside of a sandbox, a worker has at most a marker under way. -/
theorem underway_running {point : WorkerPoint}
    (running : state.platform.workers worker = .running point)
    (outside : ∀ job, point ≠ .executing job) : state.underway worker =
      match point.marking? with
      | some (.publish, chunk, jobId) => some (jobId, [state.marker worker chunk], true)
      | _ => none := by
  unfold Publishing.underway
  rw [running]
  -- What is under way is a marker, unless a sandbox is executing.
  cases point with
  | executing job => exact absurd rfl (outside job)
  | _ => rfl

/-- Inside of it, the links of its queue are. -/
theorem underway_executing {call : SandboxCall} (going : state.sandboxes worker = some call)
    (executes : state.platform.executing? worker = some jobId) :
    state.underway worker = some (jobId, call.links, call.announcing) := by
  obtain ⟨job, running, rfl⟩ := Platform.executing_iff.mp executes
  simp [Publishing.underway, running, going]

/-- What is under way for another job does not matter. -/
theorem outboxOf_other {own : JobId} (different : own ≠ jobId) (calls entries channel : List Posting)
    (links : List Posting) (announcing : Bool) :
    outboxOf jobId calls entries channel (some (own, links, announcing)) =
      outboxOf jobId calls entries channel none := by
  simp [outboxOf, different]

/-- What is under way for this job is the content of the outbox. -/
theorem outboxOf_own (calls entries channel links : List Posting) (announcing : Bool) :
    outboxOf jobId calls entries channel (some (jobId, links, announcing)) =
      ⟨calls, links, announcing, entries, channel⟩ := by
  simp [outboxOf]

/-! ## A step -/

/-- The outboxes of a worker are ordered. -/
def LiveInOrder (state : Publishing) (worker : WorkerId) : Prop :=
  ∀ jobId, (state.outbox worker jobId).Ordered

/-- A worker's logs of one job are as they were. -/
def SameLogs (state next : Publishing) (worker : WorkerId) (jobId : JobId) : Prop :=
  ofWorker worker (next.calls jobId) = ofWorker worker (state.calls jobId) ∧
    ofWorker worker (next.entries jobId) = ofWorker worker (state.entries jobId) ∧
    ofWorker worker (next.channel jobId) = ofWorker worker (state.channel jobId)

/-- Nothing is under way for any job. -/
def Empty (underway : Option (JobId × List Posting × Bool)) : Prop :=
  ∀ jobId calls entries channel, outboxOf jobId calls entries channel underway =
    outboxOf jobId calls entries channel none

/-- A worker has nothing under way, or something for this job. -/
def Publishing.Serves (state : Publishing) (worker : WorkerId) (jobId : JobId) : Prop :=
  state.underway worker = none ∨
    ∃ links announcing, state.underway worker = some (jobId, links, announcing)

/-- Nothing changes for a worker that does nothing, or gives up what is under way. -/
theorem LiveInOrder.aside (inOrder : LiveInOrder state worker)
    (logs : ∀ jobId, SameLogs state next worker jobId)
    (underway : next.underway worker = state.underway worker ∨ Empty (next.underway worker)) :
    LiveInOrder next worker := by
  intro jobId
  obtain ⟨calls, entries, channel⟩ := logs jobId
  rw [Publishing.outbox, calls, entries, channel]
  rcases underway with same | empty
  · rw [same]
    exact inOrder jobId
  · -- What is given up counts as settled.
    rw [empty]
    exact (inOrder jobId).abandon

/-- A worker that serves one job changes the outbox of this job only. -/
theorem LiveInOrder.serve (inOrder : LiveInOrder state worker) (was : state.Serves worker jobId)
    (now : next.Serves worker jobId)
    (logs : ∀ other, other ≠ jobId → SameLogs state next worker other)
    (own : (next.outbox worker jobId).Ordered) : LiveInOrder next worker := by
  -- The logs of other jobs are untouched, and what is under way is not theirs.
  intro other
  by_cases same : other = jobId
  · exact same ▸ own
  · obtain ⟨calls, entries, channel⟩ := logs other same
    have idle : ∀ held : Publishing, held.Serves worker jobId → ∀ calls entries channel,
        outboxOf other calls entries channel (held.underway worker) =
          outboxOf other calls entries channel none := by
      rintro held (none | ⟨links, announcing, some⟩) calls entries channel
      · rw [none]
      · rw [some, outboxOf_other (Ne.symm same)]
    have before := inOrder other
    rw [Publishing.outbox, idle state was] at before
    rw [Publishing.outbox, idle next now, calls, entries, channel]
    exact before

/-- Some links are added to the queue of a sandbox. -/
theorem LiveInOrder.posts {links postings : List Posting} {announcing : Bool}
    (inOrder : LiveInOrder state worker)
    (was : state.underway worker = some (jobId, links, announcing))
    (now : next.underway worker = some (jobId, links ++ postings, announcing))
    (mine : ∀ posting ∈ postings, posting.worker = worker)
    (calls : next.calls = Publishing.extend state.calls jobId postings)
    (entries : next.entries = state.entries) (channel : next.channel = state.channel) :
    LiveInOrder next worker := by
  -- Only the calls of this job and its queue grow.
  refine inOrder.serve (.inr ⟨_, _, was⟩) (.inr ⟨_, _, now⟩) (fun other different => ?_) ?_
  · rw [SameLogs, calls, extend_other postings different, entries, channel]
    exact ⟨rfl, rfl, rfl⟩
  · have before := inOrder jobId
    rw [Publishing.outbox, was, outboxOf_own] at before
    rw [Publishing.outbox, now, outboxOf_own, calls, ofWorker_extend mine, entries, channel]
    exact before.post postings

/-- The links under way are the worker's own. -/
theorem LiveInOrder.mine {links : List Posting} {announcing : Bool} (inOrder : LiveInOrder state worker)
    (was : state.underway worker = some (jobId, links, announcing)) :
    ∀ posting ∈ links, posting.worker = worker := by
  -- What is under way was called, and these calls are the worker's own.
  intro posting member
  have before := inOrder jobId
  rw [Publishing.outbox, was, outboxOf_own] at before
  have called := before.waiting_subset member
  simpa using (List.mem_filter.mp called).2

/-- What one command sends is a part of what is under way. -/
theorem sent_mine {links : List Posting} (mine : ∀ posting ∈ links, posting.worker = worker)
    (applied : Bool) : ∀ posting ∈ (if applied then links.take 1 else []), posting.worker = worker := by
  intro posting member
  split at member
  · exact mine posting (List.mem_of_mem_take member)
  · simp at member

/-- What a sandbox sends is not of another worker. -/
theorem LiveInOrder.foreign {links sent : List Posting} {announcing applied : Bool} {linker : WorkerId}
    (inOrder : LiveInOrder state linker)
    (was : state.underway linker = some (jobId, links, announcing))
    (sends : sent = if applied then links.take 1 else []) (different : worker ≠ linker) :
    ∀ posting ∈ sent, posting.worker ≠ worker := by
  subst sends
  intro posting member same
  exact different (same.symm.trans (sent_mine (inOrder.mine was) applied posting member))

/-- An XADD of the first link. -/
theorem LiveInOrder.appends {links : List Posting} {applied resolved : Bool}
    (inOrder : LiveInOrder state worker) (was : state.underway worker = some (jobId, links, false))
    (waits : links ≠ []) (known : resolved = true → applied = true)
    (now : next.underway worker =
      some (jobId, if resolved then links else links.drop 1, resolved))
    (calls : next.calls = state.calls)
    (entries : next.entries =
      Publishing.extend state.entries jobId (if applied then links.take 1 else []))
    (channel : next.channel = state.channel) : LiveInOrder next worker := by
  -- An XADD that rejects may have had its effect, and its link is dropped.
  refine inOrder.serve (.inr ⟨_, _, was⟩) (.inr ⟨_, _, now⟩) (fun other different => ?_) ?_
  · rw [SameLogs, entries, extend_other _ different, calls, channel]
    exact ⟨rfl, rfl, rfl⟩
  · have before := inOrder jobId
    rw [Publishing.outbox, was, outboxOf_own] at before
    rw [Publishing.outbox, now, outboxOf_own, entries,
      ofWorker_extend (sent_mine (inOrder.mine was) applied), calls, channel]
    exact before.append rfl waits known

/-- A PUBLISH of the first link, or of a marker. -/
theorem LiveInOrder.announces {links : List Posting} {applied : Bool} (inOrder : LiveInOrder state worker)
    (was : state.underway worker = some (jobId, links, true))
    (now : next.underway worker = some (jobId, links.drop 1, false) ∨
      (next.underway worker = none ∧ links.drop 1 = []))
    (calls : next.calls = state.calls) (entries : next.entries = state.entries)
    (channel : next.channel =
      Publishing.extend state.channel jobId (if applied then links.take 1 else [])) :
    LiveInOrder next worker := by
  -- The link leaves the queue, whether or not the channel has got it.
  have serves : next.Serves worker jobId := by
    rcases now with some | ⟨none, -⟩
    · exact .inr ⟨_, _, some⟩
    · exact .inl none
  refine inOrder.serve (.inr ⟨_, _, was⟩) serves (fun other different => ?_) ?_
  · rw [SameLogs, channel, extend_other _ different, calls, entries]
    exact ⟨rfl, rfl, rfl⟩
  · have before := inOrder jobId
    rw [Publishing.outbox, was, outboxOf_own] at before
    have announced := before.announce rfl applied
    rw [Publishing.outbox, channel, ofWorker_extend (sent_mine (inOrder.mine was) applied), calls,
      entries]
    rcases now with some | ⟨none, empty⟩
    · rw [some, outboxOf_own]
      exact announced
    · rw [none]
      rwa [Outbox.announce, empty] at announced

/-- An XADD of a marker, by which it is posted. -/
theorem LiveInOrder.marks {marker : Posting} {applied resolved : Bool} (inOrder : LiveInOrder state worker)
    (was : state.underway worker = none) (mine : marker.worker = worker)
    (known : resolved = true → applied = true)
    (now : next.underway worker = if resolved then some (jobId, [marker], true) else none)
    (calls : next.calls = Publishing.extend state.calls jobId [marker])
    (entries : next.entries = Publishing.extend state.entries jobId (if applied then [marker] else []))
    (channel : next.channel = state.channel) : LiveInOrder next worker := by
  have serves : next.Serves worker jobId := by
    rw [Publishing.Serves, now]
    cases resolved with
    | true => exact .inr ⟨_, _, rfl⟩
    | false => exact .inl rfl
  refine inOrder.serve (.inl was) serves (fun other different => ?_) ?_
  · rw [SameLogs, calls, entries, extend_other _ different, extend_other _ different, channel]
    exact ⟨rfl, rfl, rfl⟩
  · have single : ∀ posting ∈ [marker], posting.worker = worker := by simpa using mine
    have sent : ∀ posting ∈ (if applied then [marker] else []), posting.worker = worker :=
      sent_mine single applied
    have before := inOrder jobId
    rw [Publishing.outbox, was] at before
    -- The marker is posted, and its XADD follows at once.
    have added := (before.post [marker]).append rfl (by simp [Outbox.post]) known
    rw [Publishing.outbox, now, calls, entries, ofWorker_extend single,
      ofWorker_extend sent, channel]
    cases resolved with
    | true =>
      rw [if_pos rfl, outboxOf_own]
      exact added
    | false => exact added

/-- A marker is posted by the worker that makes the call. -/
theorem announced_source {label : Label} {call : StreamCall} {posting : Posting} {applied : Bool}
    (made : state.announced label = some (call, jobId, posting, applied)) :
    ∃ caller outcome chunk, label = .worker caller outcome ∧ posting = state.marker caller chunk := by
  -- The command is read off the point of the worker that makes the call.
  unfold Publishing.announced at made
  split at made
  · next caller outcome =>
    split at made
    · split at made
      · next chunk _ =>
        obtain ⟨-, -, rfl, -⟩ := by simpa using made
        exact ⟨caller, outcome, chunk, rfl, rfl⟩
      · simp at made
    all_goals simp at made
  · simp at made

/-- Only the command that a label sends changes the logs. -/
theorem logs_announced {label : Label} {made : Option (StreamCall × JobId × Posting × Bool)}
    (sent : state.announced label = made) (platform : Platform) :
    (state.withPlatform label platform).calls = (state.withAnnounced made).calls ∧
      (state.withPlatform label platform).entries = (state.withAnnounced made).entries ∧
      (state.withPlatform label platform).channel = (state.withAnnounced made).channel := by
  subst sent
  exact ⟨rfl, rfl, rfl⟩

/-- The logs of a worker that makes no call. -/
theorem logs_aside {label : Label} (platform : Platform)
    (others : ∀ outcome, label ≠ .worker worker outcome) (jobId : JobId) :
    SameLogs state (state.withPlatform label platform) worker jobId := by
  -- The command is of another worker, and so is what it posts.
  cases made : state.announced label with
  | none => simp [SameLogs, Publishing.withPlatform, made, Publishing.withAnnounced]
  | some sent =>
    obtain ⟨call, own, posting, applied⟩ := sent
    have foreign : posting.worker ≠ worker := by
      obtain ⟨caller, outcome, chunk, rfl, rfl⟩ := announced_source made
      rintro rfl
      exact others outcome rfl
    have single : ∀ other ∈ [posting], other.worker ≠ worker := by simpa using foreign
    have sent : ∀ other ∈ (if applied then [posting] else []), other.worker ≠ worker := by
      split <;> simp [foreign]
    obtain ⟨calls, entries, channel⟩ := logs_announced made platform
    rw [SameLogs, calls, entries, channel]
    cases call with
    | xadd => exact ⟨ofWorker_extend_other single, ofWorker_extend_other sent, rfl⟩
    | publish => exact ⟨rfl, rfl, ofWorker_extend_other sent⟩
    | expire => exact ⟨rfl, rfl, rfl⟩

/-- A worker that stays where it is keeps its sandbox. -/
theorem platform_quiet {label : Label} {platform : Platform} {point : WorkerPoint}
    (moved : state.platform.step label = some platform)
    (was : state.platform.workers worker = .running point)
    (is : platform.workers worker = .running point) :
    state.sandboxesAfter label worker = state.sandboxes worker ∧
      state.attemptsAfter label worker = state.attempts worker := by
  -- The labels that start or end a sandbox move their worker.
  cases Platform.step_cases moved with
  | @launch own job launching =>
    have different : worker ≠ own := by
      rintro rfl
      obtain rfl : WorkerPoint.launch job = point := by simpa [launching] using was
      simp at is
    simp [Publishing.sandboxesAfter, Publishing.attemptsAfter, different]
  | @sandbox own result before after running settled =>
    have different : worker ≠ own := by
      rintro rfl
      obtain rfl : before = point := by simpa [running] using was
      obtain rfl : after = before := by simpa using is
      have left := WorkerPoint.sandboxSettled_ne_executing settled
      unfold WorkerPoint.sandboxSettled at settled
      split at settled
      · exact left _ rfl
      · simp at settled
    simp [Publishing.sandboxesAfter, Publishing.attemptsAfter, different]
  | @workerCrash own _ running =>
    have different : worker ≠ own := by
      rintro rfl
      simp at is
    simp [Publishing.sandboxesAfter, Publishing.attemptsAfter, different]
  | _ => exact ⟨rfl, rfl⟩

/-- A step of the platform that is not a call of this worker. -/
theorem LiveInOrder.platform_aside {label : Label} {platform : Platform} (inOrder : LiveInOrder state worker)
    (moved : state.platform.step label = some platform)
    (others : ∀ outcome, label ≠ .worker worker outcome) :
    LiveInOrder (state.withPlatform label platform) worker := by
  refine inOrder.aside (logs_aside platform others) ?_
  have idle : (state.withPlatform label platform).underway worker = none →
      Empty ((state.withPlatform label platform).underway worker) := by
    intro none
    rw [none]
    exact fun _ _ _ _ => rfl
  cases at_ : platform.workers worker with
  | absent | crashed => exact .inr (idle (by simp [Publishing.underway, Publishing.withPlatform, at_]))
  | running point =>
    rcases Platform.step_worker moved at_ with ⟨was, _⟩ | ⟨outcome, _, _, rfl, _⟩ |
      ⟨job, rfl, was, rfl, _⟩ | ⟨result, before, rfl, was, settled, _⟩ | ⟨rfl, was, rfl, _⟩
    · left
      have same := platform_quiet moved was at_
      simp [Publishing.underway, Publishing.withPlatform, at_, was, same, Publishing.marker]
    · exact absurd rfl (others outcome)
    · -- The queue of a new sandbox is empty.
      right
      intro jobId calls entries channel
      simp [Publishing.underway, Publishing.withPlatform, at_, Publishing.sandboxesAfter, outboxOf]
    · -- A worker that has left its sandbox has added no marker yet.
      refine .inr (idle ((underway_running at_
        (WorkerPoint.sandboxSettled_ne_executing settled)).trans ?_))
      rw [WorkerPoint.sandboxSettled_marking settled]
    · exact .inr (idle (by
        simp [Publishing.underway, Publishing.withPlatform, at_, WorkerPoint.marking?]))

/-- A call of this worker. -/
theorem LiveInOrder.platform_call {outcome : CallOutcome} {platform : Platform}
    (inOrder : LiveInOrder state worker)
    (moved : state.platform.step (.worker worker outcome) = some platform) :
    LiveInOrder (state.withPlatform (.worker worker outcome) platform) worker := by
  cases Platform.step_cases moved with
  | @worker _ _ point after running went =>
    have was := underway_running running (WorkerPoint.awaited_ne_executing went)
    have now : (state.withPlatform (.worker worker outcome)
        (state.platform.withWorker worker after)).underway worker = _ :=
      underway_running (by simp [Publishing.withPlatform]) (WorkerPoint.call_ne_executing went)
    have follows := WorkerPoint.call_marking went
    -- Behind the call a chunk is under way only if its PUBLISH is next.
    have idle : (∀ chunk jobId, after.1.marking? ≠ some (.publish, chunk, jobId)) →
        (state.withPlatform (.worker worker outcome)
          (state.platform.withWorker worker after)).underway worker = none := by
      intro never
      rw [now]
      split
      · next chunk jobId marks => exact absurd marks (never chunk jobId)
      · rfl
    -- The point that the worker was at decides on the command.
    cases marking : point.marking? with
    | none =>
      -- A call that is about no marker announces nothing.
      have quiet : state.announced (.worker worker outcome) = none := by
        simp only [Publishing.announced, running]
        split
        · next made => simp [WorkerPoint.marking_of_effect made] at marking
        · rfl
      rw [marking] at was
      obtain ⟨calls, entries, channel⟩ := logs_announced quiet (state.platform.withWorker worker after)
      refine inOrder.aside (fun jobId => ?_) (.inl ((idle fun chunk jobId marks => ?_).trans was.symm))
      · rw [SameLogs, calls, entries, channel]
        exact ⟨rfl, rfl, rfl⟩
      · simpa [marking] using ((follows chunk jobId).mp marks).2
    | some made =>
      obtain ⟨call, chunk, jobId⟩ := made
      have sent : state.announced (.worker worker outcome) =
          some (call, jobId, state.marker worker chunk, outcome.applied) := by
        simp only [Publishing.announced, running, WorkerPoint.effect_marking marking]
      obtain ⟨calls, entries, channel⟩ := logs_announced sent (state.platform.withWorker worker after)
      rw [marking] at was
      cases call with
      | xadd =>
        have known : decide (outcome = .resolves) = true → outcome.applied = true := by
          cases outcome <;> simp [CallOutcome.applied]
        have mine : (state.marker worker chunk).worker = worker := rfl
        -- An XADD that resolves is followed by its PUBLISH, and a rejected one is not.
        have under : (state.withPlatform (.worker worker outcome)
            (state.platform.withWorker worker after)).underway worker =
              if decide (outcome = .resolves) then some (jobId, [state.marker worker chunk], true)
              else none := by
          cases outcome with
          | resolves =>
            rw [now, (follows chunk jobId).mpr ⟨rfl, marking⟩]
            rfl
          | rejects _ =>
            exact idle fun other own marks => by simpa using ((follows other own).mp marks).1
        exact inOrder.marks was mine known under calls entries channel
      | publish =>
        have ended := idle fun other own marks => by simpa [marking] using ((follows other own).mp marks).2
        exact inOrder.announces was (.inr ⟨ended, rfl⟩) calls entries channel
      | expire =>
        refine inOrder.aside (fun jobId => ?_) (.inl ((idle fun chunk jobId marks => ?_).trans was.symm))
        · rw [SameLogs, calls, entries, channel]
          exact ⟨rfl, rfl, rfl⟩
        · simpa [marking] using ((follows chunk jobId).mp marks).2

/-- A sandbox that has moved on. -/
theorem underway_withSandbox {call : SandboxCall}
    (executes : state.platform.executing? worker = some jobId) :
    (state.withSandbox worker call).underway worker = some (jobId, call.links, call.announcing) :=
  underway_executing (by simp [Publishing.withSandbox]) executes

/-- It is none of another worker's business. -/
theorem underway_withSandbox_other {call : SandboxCall} {own : WorkerId} (different : worker ≠ own) :
    (state.withSandbox own call).underway worker = state.underway worker := by
  simp [Publishing.underway, Publishing.withSandbox, different, Publishing.marker]

/-- Every step keeps the outboxes in order. -/
theorem LiveInOrder.step (inOrder : ∀ worker, LiveInOrder state worker)
    (stepped : publishing.step state label = some next) (worker : WorkerId) : LiveInOrder next worker := by
  -- A label is about one worker, and leaves the outboxes of the others alone.
  cases Publishing.step_cases stepped with
  | @platform label platform settles moved =>
    by_cases own : ∃ outcome, label = .worker worker outcome
    · obtain ⟨outcome, rfl⟩ := own
      exact (inOrder worker).platform_call moved
    · exact (inOrder worker).platform_aside moved fun outcome same => own ⟨outcome, same⟩
  -- The events of a program are posted in its own name.
  | @output printer event call jobId output postings going executes running handled posted =>
    have mine : ∀ posting ∈ postings, posting.worker = printer := by
      intro posting member
      obtain ⟨entry, _, rfl⟩ := List.mem_map.mp (posted ▸ member)
      rfl
    by_cases own : worker = printer
    · subst own
      exact (inOrder worker).posts (underway_executing going executes)
        (underway_withSandbox executes) mine rfl rfl rfl
    · have foreign : ∀ posting ∈ postings, posting.worker ≠ worker :=
        fun posting member same => own (same.symm.trans (mine posting member))
      exact (inOrder worker).aside (fun other => ⟨ofWorker_extend_other foreign, rfl, rfl⟩)
        (.inl (underway_withSandbox_other own))
  -- Its PUBLISH takes the first chunk that has been appended.
  | @publish linker outcome call jobId sent going executes waits announcing sends =>
    have was := underway_executing going executes
    by_cases own : worker = linker
    · subst own
      rw [announcing] at was
      subst sends
      exact (inOrder worker).announces was (.inl (underway_withSandbox executes)) rfl rfl rfl
    · exact (inOrder worker).aside
        (fun other => ⟨rfl, rfl, ofWorker_extend_other ((inOrder linker).foreign was sends own)⟩)
        (.inl (underway_withSandbox_other own))
  -- An XADD may have been applied although it rejects.
  | @xadd linker outcome call after jobId sent going executes waits announcing settles sends =>
    have was := underway_executing going executes
    by_cases own : worker = linker
    · subst own
      rw [announcing] at was
      subst settles sends
      cases outcome with
      | resolves =>
        have known : true = true → true = true := id
        exact (inOrder worker).appends was waits known (underway_withSandbox executes) rfl rfl rfl
      | rejects applied =>
        have known : false = true → applied = true := by simp
        exact (inOrder worker).appends was waits known (underway_withSandbox executes) rfl rfl rfl
    · exact (inOrder worker).aside
        (fun other => ⟨rfl, ofWorker_extend_other ((inOrder linker).foreign was sends own), rfl⟩)
        (.inl (underway_withSandbox_other own))
  | @close closer call going running =>
    refine (inOrder worker).aside (fun other => ⟨rfl, rfl, rfl⟩) (.inl ?_)
    by_cases own : worker = closer
    · subst own
      simp [Publishing.underway, Publishing.withSandbox, going, Publishing.marker]
    · exact underway_withSandbox_other own

/-- Nothing has been posted at the start. -/
theorem LiveInOrder.initial (worker : WorkerId) : LiveInOrder .initial worker :=
  fun _ => Outbox.ordered_nil

/-! ## The numbers of the executions -/

/-- A chunk behind a completion marker belongs to a later execution. -/
def Posting.Follows (earlier later : Posting) : Prop :=
  earlier.completes = true → later.completes = false → earlier.attempt < later.attempt

/-- The postings of a worker carry the numbers of its executions. -/
structure Numbered (state : Publishing) (worker : WorkerId) : Prop where
  started : ∀ jobId, ∀ posting ∈ ofWorker worker (state.calls jobId),
    posting.attempt ≤ state.attempts worker
  /-- Before its sandbox has settled, an execution has no completion marker. -/
  fresh : (state.platform.executing? worker).isSome = true → ∀ jobId,
    ∀ posting ∈ ofWorker worker (state.calls jobId), posting.completes = true →
      posting.attempt < state.attempts worker
  ordered : ∀ jobId, (ofWorker worker (state.calls jobId)).Pairwise Posting.Follows

/-- Where a worker posts nothing and starts no sandbox, the numbers stay. -/
theorem Numbered.aside (numbered : Numbered state worker)
    (calls : ∀ jobId, ofWorker worker (next.calls jobId) = ofWorker worker (state.calls jobId))
    (attempts : next.attempts worker = state.attempts worker)
    (executing : (next.platform.executing? worker).isSome = true →
      (state.platform.executing? worker).isSome = true) : Numbered next worker where
  -- The numbers are read off the calls of this worker alone.
  started jobId := by
    rw [calls, attempts]
    exact numbered.started jobId
  fresh inside jobId := by
    rw [calls, attempts]
    exact numbered.fresh (executing inside) jobId
  ordered jobId := by
    rw [calls]
    exact numbered.ordered jobId

/-- The calls of a worker once it has posted. -/
theorem ofWorker_posted {postings : List Posting}
    (calls : next.calls = Publishing.extend state.calls jobId postings)
    (mine : ∀ posting ∈ postings, posting.worker = worker) (other : JobId) :
    ofWorker worker (next.calls other) =
      ofWorker worker (state.calls other) ++ if other = jobId then postings else [] := by
  rw [calls]
  -- The calls of other jobs are left alone.
  by_cases same : other = jobId
  · subst same
    rw [ofWorker_extend mine, if_pos rfl]
  · rw [extend_other postings same, if_neg same, List.append_nil]

/-- Postings of the current execution are added: chunks in its sandbox, and markers behind it. -/
theorem Numbered.posts {postings : List Posting} (numbered : Numbered state worker)
    (calls : next.calls = Publishing.extend state.calls jobId postings)
    (mine : ∀ posting ∈ postings, posting.worker = worker)
    (current : ∀ posting ∈ postings, posting.attempt = state.attempts worker)
    (attempts : next.attempts worker = state.attempts worker)
    (kind : (∀ posting ∈ postings, posting.completes = true) ∧
        (next.platform.executing? worker).isSome = false ∨
      (∀ posting ∈ postings, posting.completes = false) ∧
        (state.platform.executing? worker).isSome = true) : Numbered next worker where
  started other := by
    intro posting member
    rw [ofWorker_posted calls mine] at member
    rw [attempts]
    rcases List.mem_append.mp member with earlier | now
    · exact numbered.started other posting earlier
    · -- A posting of now is of the current execution.
      split at now
      · exact le_of_eq (current posting now)
      · simp at now
  fresh inside other := by
    intro posting member completes
    rw [ofWorker_posted calls mine] at member
    rw [attempts]
    rcases kind with ⟨_, outside⟩ | ⟨chunks, within⟩
    · simp [inside] at outside
    · rcases List.mem_append.mp member with earlier | now
      · exact numbered.fresh within other posting earlier completes
      · split at now
        · simp [chunks posting now] at completes
        · simp at now
  ordered other := by
    rw [ofWorker_posted calls mine]
    refine List.pairwise_append.mpr ⟨numbered.ordered other, ?_, ?_⟩
    · -- Postings of one step are all chunks, or all markers.
      split
      · refine List.pairwise_of_forall_mem_list fun earlier member later member' => ?_
        intro completes continues
        rcases kind with ⟨markers, _⟩ | ⟨chunks, _⟩
        · simp [markers later member'] at continues
        · simp [chunks earlier member] at completes
      · exact .nil
    · intro earlier member later member' completes continues
      split at member'
      · rcases kind with ⟨markers, _⟩ | ⟨chunks, within⟩
        · simp [markers later member'] at continues
        · rw [current later member']
          exact numbered.fresh within other earlier member completes
      · simp at member'

/-- A worker that is in a sandbox was in it, or has just started it. -/
theorem executing_before {platform after : Platform} {label : Label}
    (moved : platform.step label = some after)
    (inside : (after.executing? worker).isSome = true) :
    (platform.executing? worker).isSome = true ∨ label = .launch worker := by
  -- A call and the end of a sandbox lead elsewhere.
  obtain ⟨jobId, executes⟩ := Option.isSome_iff_exists.mp inside
  obtain ⟨job, running, -⟩ := Platform.executing_iff.mp executes
  rcases Platform.step_worker moved running with ⟨was, _⟩ | ⟨_, _, _, _, _, went, _⟩ |
    ⟨_, same, _⟩ | ⟨_, _, _, _, settled, _⟩ | ⟨_, _, same, _⟩
  · exact .inl (Option.isSome_iff_exists.mpr ⟨_, Platform.executing_iff.mpr ⟨job, was, rfl⟩⟩)
  · exact absurd rfl (WorkerPoint.call_ne_executing went job)
  · exact .inr same
  · exact absurd rfl (WorkerPoint.sandboxSettled_ne_executing settled job)
  · simp at same

/-- A call of this worker posts a marker, or nothing. -/
theorem Numbered.platform_call {outcome : CallOutcome} {platform : Platform}
    (numbered : Numbered state worker)
    (moved : state.platform.step (.worker worker outcome) = some platform) :
    Numbered (state.withPlatform (.worker worker outcome) platform) worker := by
  -- Behind its call the worker is in no sandbox, and only an XADD posts its marker.
  have before : (platform.executing? worker).isSome = true →
      (state.platform.executing? worker).isSome = true :=
    fun inside => (executing_before moved inside).resolve_right nofun
  have outside : (platform.executing? worker).isSome = false := by
    cases Platform.step_cases moved with
    | @worker _ _ point after running went =>
      rw [Option.isSome_eq_false_iff, Option.isNone_iff_eq_none, Option.eq_none_iff_forall_ne_some]
      intro jobId executes
      obtain ⟨job, inside, -⟩ := Platform.executing_iff.mp executes
      exact WorkerPoint.call_ne_executing went job (by simpa using inside)
  cases sent : state.announced (.worker worker outcome) with
  | none =>
    refine numbered.aside (fun _ => ?_) rfl before
    rw [(logs_announced sent platform).1]
    rfl
  | some made =>
    obtain ⟨call, jobId, posting, applied⟩ := made
    obtain ⟨_, _, chunk, same, rfl⟩ := announced_source sent
    obtain ⟨rfl, -⟩ := Label.worker.inj same
    cases call with
    | xadd =>
      have calls : (state.withPlatform (.worker worker outcome) platform).calls =
          Publishing.extend state.calls jobId [state.marker worker chunk] :=
        (logs_announced sent platform).1
      refine numbered.posts calls ?_ ?_ rfl (.inl ⟨?_, outside⟩)
      all_goals simp [Publishing.marker]
    | publish | expire =>
      refine numbered.aside (fun _ => ?_) rfl before
      rw [(logs_announced sent platform).1]
      rfl

/-- A new sandbox has a number of its own. -/
theorem Numbered.launch {platform : Platform} (numbered : Numbered state worker) :
    Numbered (state.withPlatform (.launch worker) platform) worker := by
  -- The number goes up, and so is above those of all postings so far.
  have attempts : (state.withPlatform (.launch worker) platform).attempts worker =
      state.attempts worker + 1 := by
    simp [Publishing.withPlatform, Publishing.attemptsAfter]
  refine ⟨fun jobId posting member => ?_, fun _ jobId posting member _ => ?_, numbered.ordered⟩
  · rw [attempts]
    exact Nat.le_succ_of_le (numbered.started jobId posting member)
  · rw [attempts]
    exact Nat.lt_succ_of_le (numbered.started jobId posting member)

/-- Every step keeps the numbers. -/
theorem Numbered.step (numbered : Numbered state worker)
    (stepped : publishing.step state label = some next) : Numbered next worker := by
  -- Only a call, a launch and an output of this worker matter to its numbers.
  cases Publishing.step_cases stepped with
  | @platform label platform settles moved =>
    by_cases own : ∃ outcome, label = .worker worker outcome
    · obtain ⟨outcome, rfl⟩ := own
      exact numbered.platform_call moved
    · by_cases launches : label = .launch worker
      · subst launches
        exact numbered.launch
      · have logs : ∀ jobId, SameLogs state (state.withPlatform label platform) worker jobId :=
          logs_aside platform fun outcome same => own ⟨outcome, same⟩
        refine numbered.aside (fun jobId => (logs jobId).1) ?_ fun inside =>
          (executing_before moved inside).resolve_right launches
        cases label with
        | launch other =>
          have different : worker ≠ other := fun same => launches (by rw [same])
          simp [Publishing.withPlatform, Publishing.attemptsAfter, different]
        | _ => rfl
  | @output printer event call jobId output postings going executes running handled posted =>
    subst posted
    by_cases own : worker = printer
    · subst own
      refine numbered.posts rfl ?_ ?_ rfl (.inr ⟨?_, Option.isSome_iff_exists.mpr ⟨_, executes⟩⟩)
      all_goals
        intro posting member
        obtain ⟨entry, _, rfl⟩ := List.mem_map.mp member
        rfl
    · refine numbered.aside (fun other => ofWorker_extend_other ?_) rfl id
      intro posting member
      obtain ⟨entry, _, rfl⟩ := List.mem_map.mp member
      exact Ne.symm own
  | publish | xadd | close => exact numbered.aside (fun _ => rfl) rfl id

/-- Nothing has been numbered at the start. -/
theorem Numbered.initial (worker : WorkerId) : Numbered .initial worker where
  started _ _ member := absurd member List.not_mem_nil
  fresh _ _ _ member := absurd member List.not_mem_nil
  ordered _ := .nil

/-! ## The end of a sandbox -/

/-- What `await publishQueue` waits for is what has not settled, and only what is printed is posted. -/
structure SandboxCall.Sound (call : SandboxCall) : Prop where
  awaited : ∀ count, call.awaited = some count → count = call.links.length
  printed : call.printed = false → call.links = []

/-- A link that settles is awaited no more. -/
theorem SandboxCall.Sound.settleLink {call : SandboxCall} (sound : call.Sound) :
    call.settleLink.Sound where
  awaited count awaited := by
    obtain ⟨before, was, rfl⟩ := Option.map_eq_some_iff.mp awaited
    rw [sound.awaited before was, SandboxCall.settleLink, List.length_drop]
  printed silent := by
    rw [SandboxCall.settleLink, sound.printed silent, List.drop_nil]

/-- All sandboxes are so. -/
def Awaiting (state : Publishing) : Prop :=
  ∀ worker call, state.sandboxes worker = some call → call.Sound

/-- A sandbox that moves on leaves the others alone. -/
theorem Awaiting.withSandbox {call : SandboxCall} (awaiting : Awaiting state)
    (same : next.sandboxes = state.sandboxes) (sound : call.Sound) :
    Awaiting (next.withSandbox worker call) := by
  intro other there going
  -- The moved sandbox is sound, and the others are as they were.
  by_cases own : other = worker
  · subst own
    obtain rfl : call = there := by simpa [Publishing.withSandbox] using going
    exact sound
  · exact awaiting other there (by simpa [Publishing.withSandbox, own, same] using going)

/-- After a label of the platform, a sandbox has just been started, or was there before. -/
theorem sandboxesAfter_cases {label : Label} {call : SandboxCall}
    (going : state.sandboxesAfter label worker = some call) :
    call = ⟨.initial, false, [], false, none⟩ ∨ state.sandboxes worker = some call := by
  -- A launch starts one, and what ends a sandbox leaves none.
  cases label with
  | launch own =>
    by_cases same : worker = own
    · subst same
      exact .inl (by simpa [Publishing.sandboxesAfter] using going.symm)
    · exact .inr (by simpa [Publishing.sandboxesAfter, same] using going)
  | sandbox own _ | workerCrash own =>
    by_cases same : worker = own
    · simp [Publishing.sandboxesAfter, same] at going
    · exact .inr (by simpa [Publishing.sandboxesAfter, same] using going)
  | _ => exact .inr going

/-- Every step keeps them so. -/
theorem Awaiting.step (awaiting : Awaiting state)
    (stepped : publishing.step state label = some next) : Awaiting next := by
  -- Only `close` begins to wait, for the links that are there.
  cases Publishing.step_cases stepped with
  | platform settles moved =>
    intro worker call going
    rcases sandboxesAfter_cases going with rfl | before
    · exact ⟨nofun, fun _ => rfl⟩
    · exact awaiting worker call before
  | output going executes running handled posted =>
    refine awaiting.withSandbox rfl ⟨fun count awaited => ?_, nofun⟩
    simp [running] at awaited
  | publish going => exact awaiting.withSandbox rfl (awaiting _ _ going).settleLink
  | @xadd linker outcome call after jobId sent going executes waits announcing settles sends =>
    have sound := awaiting linker call going
    subst settles
    cases outcome with
    | resolves => exact awaiting.withSandbox rfl ⟨sound.awaited, sound.printed⟩
    | rejects _ => exact awaiting.withSandbox rfl sound.settleLink
  | @close closer call going running =>
    refine awaiting.withSandbox rfl ⟨?_, (awaiting closer call going).printed⟩
    rintro _ ⟨⟩
    rfl

/-- A sandbox settles after the last link of its queue. -/
theorem Awaiting.settled (awaiting : Awaiting state) {result : Option SandboxResult}
    (stepped : publishing.step state (.platform (.sandbox worker result)) = some next) :
    ∀ call ∈ state.sandboxes worker, call.links = [] := by
  have moved : state.step (.platform (.sandbox worker result)) = some next := stepped
  intro call going
  have sound := awaiting worker call going
  -- The end of the queue was the guard of the step.
  cases Publishing.step_cases moved with
  | platform settles _ =>
    cases result with
    | none =>
      have silent : call.printed = false := by
        simpa [Publishing.settles, Option.mem_def.mp going] using settles
      exact sound.printed silent
    | some result =>
      have none : call.awaited = some 0 := by
        have closed := by simpa [Publishing.settles, Option.mem_def.mp going] using settles
        exact closed.1
      exact List.length_eq_zero_iff.mp (sound.awaited 0 none).symm

/-! ## Live messages, the stream, and the calls -/

/-- What is published has been added, by the worker that publishes it. -/
theorem mem_entries (inOrder : ∀ worker, LiveInOrder state worker) {posting : Posting}
    (member : posting ∈ state.channel jobId) : posting ∈ state.entries jobId := by
  have own : posting ∈ ofWorker posting.worker (state.channel jobId) :=
    List.mem_filter.mpr ⟨member, by simp⟩
  exact (List.mem_filter.mp ((inOrder posting.worker jobId).channel_sublist.subset own)).1

/-- What is added has been posted. -/
theorem mem_calls (inOrder : ∀ worker, LiveInOrder state worker) {posting : Posting}
    (member : posting ∈ state.entries jobId) : posting ∈ state.calls jobId := by
  have own : posting ∈ ofWorker posting.worker (state.entries jobId) :=
    List.mem_filter.mpr ⟨member, by simp⟩
  exact (List.mem_filter.mp ((inOrder posting.worker jobId).log_sublist.subset own)).1

/--
Live messages are a part of the stream, in its order, and the stream is a part of the calls, in theirs.

This is so for a job that one worker executes, in whatever way the Redis calls settle. No chunk of an
execution comes after its completion marker, since a sandbox settles after the last link of its queue.
-/
theorem live_in_stream_order {trace : List PublishingLabel}
    (run : publishing.Runs (fun _ _ => True) .initial trace state)
    (sole : ∀ posting ∈ state.calls jobId, posting.worker = worker) :
    (state.channel jobId).Sublist (state.entries jobId) ∧
      (state.entries jobId).Sublist (state.calls jobId) ∧
      (state.entries jobId).Pairwise Posting.Follows ∧
      ∀ result next, publishing.step state (.platform (.sandbox worker result)) = some next →
        ∀ call ∈ state.sandboxes worker, call.links = [] := by
  have inOrder := run.preserves (fun state => ∀ worker, LiveInOrder state worker) LiveInOrder.initial
    fun _ _ _ inOrder _ stepped => LiveInOrder.step inOrder stepped
  have numbered := run.preserves (fun state => Numbered state worker) (Numbered.initial worker)
    fun _ _ _ numbered _ stepped => numbered.step stepped
  have awaiting := run.preserves Awaiting (fun _ _ => nofun)
    fun _ _ _ awaiting _ stepped => awaiting.step stepped
  -- All logs of the job are those of its one worker.
  have added : ∀ posting ∈ state.entries jobId, posting.worker = worker :=
    fun posting member => sole posting (mem_calls inOrder member)
  have announced : ∀ posting ∈ state.channel jobId, posting.worker = worker :=
    fun posting member => added posting (mem_entries inOrder member)
  have whole : ∀ {postings : List Posting}, (∀ posting ∈ postings, posting.worker = worker) →
      ofWorker worker postings = postings :=
    fun mine => List.filter_eq_self.mpr fun posting member => decide_eq_true (mine posting member)
  have live := (inOrder worker jobId).channel_sublist
  have persisted := (inOrder worker jobId).log_sublist
  have ordered := (numbered.ordered jobId).sublist persisted
  simp only [Publishing.outbox, outboxOf, whole sole, whole added, whole announced] at live persisted ordered
  exact ⟨live, persisted, ordered, fun result next stepped => awaiting.settled stepped⟩

/-- A job that prints three letters; one XADD and one PUBLISH reject, and the marker is added. -/
def partlyPublished : List PublishingLabel :=
  (submission "job" ++ takingUp "w1").map .platform ++
    [.output "w1" ⟨.stdout, [97]⟩, .output "w1" ⟨.stderr, [98]⟩, .link "w1" (.rejects false),
      .output "w1" ⟨.stdout, [99]⟩, .link "w1" .resolves, .link "w1" (.rejects false), .close "w1",
      .link "w1" .resolves, .link "w1" .resolves] ++
    (.sandbox "w1" (some { cleanExit with stdout := "ac", stderr := "b" }) ::
      workerCalls "w1" 8).map .platform

/-- One letter is published, two are in the stream, and the marker is behind them in both. -/
theorem live_in_stream_order_example : ∃ state,
    publishing.Runs (fun _ _ => True) .initial partlyPublished state ∧
    (state.channel "job").map (fun posting => posting.entry.2) =
      [[99], Utf16.encode "EXECUTION_COMPLETE".toList] ∧
    (state.entries "job").map (fun posting => posting.entry.2) =
      [[98], [99], Utf16.encode "EXECUTION_COMPLETE".toList] ∧
    (state.calls "job").length = 4 ∧ (state.entries "job").Pairwise Posting.Follows := by
  -- The run is evaluated once, and its logs are read off the state.
  have executed : (publishing.guardedRun (fun _ _ => True) .initial partlyPublished).map (fun state =>
      ((state.channel "job").map fun posting => posting.entry.2,
        (state.entries "job").map fun posting => posting.entry.2,
        (state.calls "job").map Posting.worker)) =
      some ([[99], Utf16.encode "EXECUTION_COMPLETE".toList],
        [[98], [99], Utf16.encode "EXECUTION_COMPLETE".toList], ["w1", "w1", "w1", "w1"]) := by decide
  obtain ⟨state, run, shown⟩ := Machine.runs_of_guardedRun publishing _ _ _ _ _ executed
  obtain ⟨channel, entries, workers⟩ := by simpa only [Prod.mk.injEq] using shown
  have sole : ∀ posting ∈ state.calls "job", posting.worker = "w1" := by
    intro posting member
    have inside : posting.worker ∈ ["w1", "w1", "w1", "w1"] := workers ▸ List.mem_map_of_mem member
    simpa using inside
  refine ⟨state, run, channel, entries, ?_, (live_in_stream_order run sole).2.2.1⟩
  simpa using congrArg List.length workers

end CodeExecution
