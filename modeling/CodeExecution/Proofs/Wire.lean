import CodeExecution.Guarantees.Payloads
import CodeExecution.Proofs.Resumption
import CodeExecution.Services.Wire

/-! The texts in Redis follow the model: commands on texts are the effects on what they spell. -/

namespace CodeExecution

variable {state next : Platform} {label : Label} {store : Store} {wire : Wire}

/-! ## Lists -/

/-- The lists of texts spell the lists of a store. -/
structure SpelledLists (store : Store) (wire : Wire) : Prop where
  pending : wire.pending = store.pending.map Entry.raw
  processing : ∀ worker, wire.processing worker = (store.processing worker).map Entry.raw
  deadLetter : wire.deadLetter = store.deadLetter.map DLQPayload.raw

/-- The command on texts that an effect is. -/
def Effect.command : Effect → ListCommand
  | .push entry => .push entry.raw
  | .pop worker _ => .pop worker
  | .remove worker job => .remove worker job.raw
  | .delete worker => .delete worker
  | .sendLetter letter => .sendLetter letter.raw
  | .unchanged | .submit _ | .claim _ | .markFailed _ | .requeueRow _ _ | .resetRunning
  | .insertFailure _ | .commitResult _ _ | .commitDeadLetter _ | .stream _ _ _ | .acquireLock _
  | .releaseLock _ => .none

/-- What is written to the tables is no command on lists. -/
theorem Effect.command_tables {effect : Effect} (tables : effect.onTables = true) :
    effect.command = .none := by
  cases effect <;> first | rfl | simp [onTables] at tables

/-- LREM by text removes the payload that LREM by value would. -/
theorem map_raw_erase {entries : List Entry}
    (parsed : ∀ entry ∈ entries, ∃ job, entry = .payload job) (job : QueuePayload) :
    (entries.map Entry.raw).erase job.raw = (entries.erase (.payload job)).map Entry.raw := by
  -- Both pass the payloads in front of the first equal one.
  induction entries with
  | nil => rfl
  | cons first rest ih =>
    obtain ⟨own, rfl⟩ := parsed first List.mem_cons_self
    have later := ih fun entry member => parsed entry (List.mem_cons_of_mem _ member)
    by_cases same : own = job
    · subst same
      simp [Entry.raw]
    · have differs : (Entry.payload own).raw ≠ job.raw := fun equal =>
        same (QueuePayload.raw_injective equal)
      rw [List.map_cons, List.erase_cons_tail (by simpa using differs),
        List.erase_cons_tail (by simpa using same), List.map_cons, later]

/-- An effect changes the lists as its command changes their texts. -/
theorem SpelledLists.execute (spelled : SpelledLists store wire) {effect : Effect}
    (parsed : ∀ worker, ∀ entry ∈ store.processing worker, ∃ job, entry = .payload job)
    (last : ∀ worker entry, effect = .pop worker entry → store.pending.getLast? = some entry) :
    SpelledLists (effect.apply store) (wire.execute effect.command) := by
  obtain ⟨pending, processing, deadLetter⟩ := spelled
  by_cases tables : effect.onTables = true
  · -- The tables are no lists.
    obtain ⟨_, _, written⟩ := Effect.apply_tables tables store
    rw [written, Effect.command_tables tables]
    exact ⟨pending, processing, deadLetter⟩
  cases effect with
  | push entry =>
    refine ⟨?_, processing, deadLetter⟩
    show entry.raw :: wire.pending = (entry :: store.pending).map Entry.raw
    rw [pending, List.map_cons]
  -- BRPOPLPUSH takes the last text and puts it in front of the other list.
  | pop worker entry =>
    have oldest : wire.pending.getLast? = some entry.raw := by
      rw [pending, List.getLast?_map, last worker entry rfl, Option.map_some]
    simp only [Effect.command, Wire.execute, oldest]
    refine ⟨?_, fun owner => ?_, deadLetter⟩
    · show wire.pending.dropLast = store.pending.dropLast.map Entry.raw
      rw [pending, List.map_dropLast]
    · simp only [Effect.apply, Store.moveToProcessing]
      by_cases same : owner = worker
      · subst same
        simp [processing]
      · simp [same, processing]
  -- LREM goes by the text, and equal texts are equal entries.
  | remove worker job =>
    refine ⟨pending, fun owner => ?_, deadLetter⟩
    simp only [Effect.command, Wire.execute, Effect.apply, Store.removeProcessing]
    by_cases same : owner = worker
    · subst same
      simp [processing, map_raw_erase (parsed owner) job]
    · simp [same, processing]
  | delete worker =>
    refine ⟨pending, fun owner => ?_, deadLetter⟩
    simp only [Effect.command, Wire.execute, Effect.apply, Store.deleteProcessing]
    by_cases same : owner = worker
    · subst same
      simp
    · simp [same, processing]
  | sendLetter letter =>
    refine ⟨pending, processing, ?_⟩
    show letter.raw :: wire.deadLetter = (letter :: store.deadLetter).map DLQPayload.raw
    rw [deadLetter, List.map_cons]
  | stream call jobId chunk => cases call <;> exact ⟨pending, processing, deadLetter⟩
  | releaseLock lockId =>
    simp only [Effect.apply, Store.releaseLock]
    split <;> exact ⟨pending, processing, deadLetter⟩
  | unchanged | acquireLock lockId => exact ⟨pending, processing, deadLetter⟩
  | submit _ | claim _ | markFailed _ | requeueRow _ _ | resetRunning | insertFailure _
  | commitResult _ _ | commitDeadLetter _ => exact absurd rfl tables

/-! ## Variables -/

/-- The letter that a recovery is about to commit or to push, with its iteration. -/
def RecoverPoint.letter? : RecoverPoint → Option (DLQPayload × Cursor)
  | .deadLetter _ letter cursor | .deadLetterPush letter cursor => some (letter, cursor)
  | .list | .check _ | .reset _ | .push _ | .delete _ => none

/-- Texts spell what the model has in their place. -/
structure Spells (state : Platform) (wire : Wire) : Prop where
  lists : SpelledLists state.store wire
  workers : ∀ worker point job, state.workers worker = .running point →
    point.carried? = some job → wire.rawJob worker = some job.raw
  recoveries : ∀ lockId point owner rest read, state.scans lockId = .recover point owner rest →
    point.snapshot? = some read → wire.rawJobs lockId = read.map Entry.raw
  /-- A letter is made of the payload of its iteration. -/
  letters : ∀ lockId point owner rest letter cursor, state.scans lockId = .recover point owner rest →
    point.letter? = some (letter, cursor) → letter.payload = cursor.job

/-- A reply changes no list. -/
theorem SpelledLists.receive (spelled : SpelledLists store wire) (state : Platform) (label : Label) :
    SpelledLists store (wire.receive state label) := by
  obtain ⟨pending, processing, deadLetter⟩ := spelled
  unfold Wire.receive
  repeat' split
  all_goals exact ⟨pending, processing, deadLetter⟩

/-- A command changes no variable. -/
@[simp] theorem Wire.execute_rawJob (wire : Wire) (command : ListCommand) :
    (wire.execute command).rawJob = wire.rawJob := by
  cases command with
  | pop worker =>
    simp only [execute]
    split <;> rfl
  | _ => rfl

@[simp] theorem Wire.execute_rawJobs (wire : Wire) (command : ListCommand) :
    (wire.execute command).rawJobs = wire.rawJobs := by
  cases command with
  | pop worker =>
    simp only [execute]
    split <;> rfl
  | _ => rfl

/-- A worker's command is its effect, also where it is made of the text alone. -/
theorem Spells.worker_command (spells : Spells state wire) {worker : WorkerId} {point : WorkerPoint}
    (running : state.workers worker = .running point) (popping : point ≠ .pop) :
    point.command worker (wire.rawJob worker) = (point.effect worker state.store).command := by
  have spelled := fun job => spells.workers worker point job running
  -- The points that send a text hold its job, and the others send none.
  cases point with
  | pop => exact absurd rfl popping
  | requeue call job =>
    have text := spelled job rfl
    cases call <;> simp [WorkerPoint.command, WorkerPoint.effect, Effect.command, Entry.raw, text]
  | persist call job result => cases call <;> rfl
  | deadLetter call letter => cases call <;> rfl
  | deadLetterPush letter =>
    have text := spelled letter.payload rfl
    simp [WorkerPoint.command, WorkerPoint.effect, Effect.command, text]
  | repush job | discard job | acknowledge job | exhausted job =>
    have text := spelled job rfl
    simp [WorkerPoint.command, WorkerPoint.effect, Effect.command, Entry.raw, text]
  | _ => rfl

/-- So is the command of a recovery, which finds the text at its position. -/
theorem Spells.recovery_command (spells : Spells state wire) {lockId : LockId} {point : RecoverPoint}
    {owner : WorkerId} {rest : List WorkerId} (recovers : state.scans lockId = .recover point owner rest) :
    point.command owner (wire.rawJobs lockId) = (point.effect owner).command := by
  -- The text at the index of the loop is that of the job at hand.
  have at_ : ∀ cursor : Cursor, point.snapshot? = some (cursor.visited ++ .payload cursor.job :: cursor.todo) →
      (wire.rawJobs lockId)[cursor.visited.length]? = some cursor.job.raw := by
    intro cursor read
    rw [spells.recoveries lockId point owner rest _ recovers read]
    simp [Entry.raw]
  cases point with
  | push cursor =>
    simp [RecoverPoint.command, RecoverPoint.effect, Effect.command, Entry.raw, at_ cursor rfl]
  | deadLetterPush letter cursor =>
    have same := spells.letters lockId _ owner rest letter cursor recovers rfl
    simp [RecoverPoint.command, RecoverPoint.effect, Effect.command, at_ cursor rfl, ← same]
  | deadLetter call letter cursor => cases call <;> rfl
  | _ => rfl

/-- The lists after a label's command are those after its effect. -/
theorem Spells.execute_command (spells : Spells state wire) (label : Label) :
    (wire.receive state label).execute (wire.command state label) =
      (wire.receive state label).execute (state.effect label).command := by
  cases label with
  | gateway jobId outcome =>
    simp only [Wire.command, Platform.effect]
    split
    · cases state.posts jobId <;> rfl
    · rfl
  | worker worker outcome =>
    cases running : state.workers worker with
    | running point =>
      simp only [Wire.command, Platform.effect, running]
      split
      · by_cases popping : point = .pop
        · -- An empty pending list is left as it is, and has no effect.
          subst popping
          simp only [WorkerPoint.command, WorkerPoint.effect]
          cases last : state.store.pending.getLast? with
          | some entry => rfl
          | none =>
            have empty : (wire.receive state (.worker worker outcome)).pending.getLast? = none := by
              rw [(spells.lists.receive state _).pending, List.getLast?_map, last]
              rfl
            simp only [Wire.execute, empty, Effect.command]
        · rw [spells.worker_command running popping]
      · rfl
    | absent | crashed => simp only [Wire.command, Platform.effect, running, Effect.command]
  -- The SET of the lock is about no list, whether it succeeds or not.
  | scan lockId outcome =>
    simp only [Wire.command, Platform.effect]
    split
    · cases at_ : state.scans lockId with
      | recover point owner rest =>
        simp only [ScanPoint.command, ScanPoint.effect]
        rw [spells.recovery_command at_]
      | acquire =>
        simp only [ScanPoint.command, ScanPoint.effect]
        split <;> rfl
      | _ => rfl
    · rfl
  | startup outcome =>
    simp only [Wire.command, Platform.effect]
    split
    · cases state.startup <;> rfl
    · rfl
  | _ => rfl

/-- The lists of texts spell the lists after a step. -/
theorem Spells.lists_step (spells : Spells state wire) (stepped : state.step label = some next)
    (parsed : ∀ worker, ∀ entry ∈ state.store.processing worker, ∃ job, entry = .payload job) :
    SpelledLists next.store (wire.receive state label |>.execute (wire.command state label)) := by
  obtain ⟨⟨now, lock, same, _⟩, _⟩ := Platform.step_effect stepped
  -- A pop takes the last text, which spells the last element.
  have popped : ∀ worker entry, state.effect label = .pop worker entry →
      state.store.pending.getLast? = some entry := by
    intro worker entry pops
    obtain ⟨_, _, _, last⟩ := Platform.effect_pop pops
    exact last
  obtain ⟨pending, processing, deadLetter⟩ := (spells.lists.receive state label).execute parsed popped
  rw [spells.execute_command, same]
  exact ⟨pending, processing, deadLetter⟩

/-- Replies to others leave the text of a worker alone, and so do replies beyond the pop. -/
theorem Wire.receive_rawJob {worker : WorkerId}
    (other : (∀ outcome, label ≠ .worker worker outcome) ∨ state.workers worker ≠ .running .pop) :
    (wire.receive state label).rawJob worker = wire.rawJob worker := by
  -- Only its own BRPOPLPUSH gives a worker a new text.
  unfold receive
  split
  · next mover outcome =>
    split
    · next popping =>
      have differs : worker ≠ mover := by
        rintro rfl
        rcases other with distinct | away
        · exact distinct outcome rfl
        · exact away popping
      exact Function.update_of_ne differs _ _
    · rfl
  · split <;> rfl
  · rfl

/-- The text of a worker spells its payload after a step. -/
theorem Spells.workers_step (spells : Spells state wire) (stepped : state.step label = some next)
    {worker : WorkerId} {point : WorkerPoint} {job : QueuePayload}
    (running : next.workers worker = .running point) (carries : point.carried? = some job) :
    (wire.receive state label).rawJob worker = some job.raw := by
  have kept : ∀ before, state.workers worker = .running before → before.carried? = some job →
      (wire.receive state label).rawJob worker = some job.raw := by
    intro before was carried
    rw [Wire.receive_rawJob]
    · exact spells.workers worker before job was carried
    · right
      rw [was]
      rintro impossible
      rw [WorkerState.running.inj impossible] at carried
      simp [WorkerPoint.carried?] at carried
  rcases Platform.step_worker stepped running with ⟨was, _⟩ |
    ⟨outcome, before, after, rfl, was, went, _⟩ | ⟨own, _, was, rfl, _⟩ |
    ⟨result, before, _, was, settled, _⟩ | ⟨_, _, rfl, _⟩
  · exact kept point was carries
  · rcases awaitCall_cases went with ⟨rfl, resolved⟩ | ⟨_, _, handled, moved⟩ |
      ⟨_, _, _, _, handled, moved⟩
    · rcases WorkerPoint.resolve_carried resolved carries with earlier | ⟨rfl, last⟩
      · exact kept before was earlier
      · -- The text arrives with the reply.
        simp only [Wire.receive, was, if_true, Function.update_self, spells.lists.pending,
          List.getLast?_map, last, Option.map_some, Entry.raw]
    · obtain ⟨rfl, _⟩ := Prod.mk.inj moved
      exact kept before was (WorkerPoint.handler_carried handled carries)
    · obtain ⟨rfl, _⟩ := Prod.mk.inj moved
      exact kept before was (WorkerPoint.handler_carried handled carries)
  · exact kept _ was carries
  · exact kept before was (WorkerPoint.sandboxSettled_carried settled carries)
  · simp [WorkerPoint.carried?] at carries

/-- Replies to others leave the texts of a recovery alone, and so do replies beyond LRANGE. -/
theorem Wire.receive_rawJobs {lockId : LockId}
    (other : label ≠ .scan lockId .resolves ∨ ∀ owner rest, state.scans lockId ≠ .recover .list owner rest) :
    (wire.receive state label).rawJobs lockId = wire.rawJobs lockId := by
  -- Only the LRANGE of its own recovery gives a scan new texts.
  unfold receive
  split
  · split <;> rfl
  · next reader =>
    split
    · next owner rest reading =>
      have differs : lockId ≠ reader := by
        rintro rfl
        rcases other with distinct | away
        · exact distinct rfl
        · exact away owner rest reading
      exact Function.update_of_ne differs _ _
    · rfl
  · rfl

/-- The texts of a recovery spell what it has read after a step. -/
theorem Spells.recoveries_step (spells : Spells state wire) (stepped : state.step label = some next)
    {lockId : LockId} {point : RecoverPoint} {owner : WorkerId} {rest : List WorkerId} {read : List Entry}
    (recovers : next.scans lockId = .recover point owner rest) (keeps : point.snapshot? = some read) :
    (wire.receive state label).rawJobs lockId = read.map Entry.raw := by
  have kept : ∀ before, state.scans lockId = .recover before owner rest → before.snapshot? = some read →
      (wire.receive state label).rawJobs lockId = read.map Entry.raw := by
    intro before was had
    rw [Wire.receive_rawJobs]
    · exact spells.recoveries lockId before owner rest read was had
    · right
      intro other others impossible
      rw [was] at impossible
      obtain ⟨rfl, _⟩ := ScanPoint.recover.inj impossible
      simp [RecoverPoint.snapshot?] at had
  rcases Platform.step_scan stepped lockId with ⟨same, _⟩ | ⟨_, _, rfl⟩ |
    ⟨outcome, after, rfl, went, rfl⟩ | ⟨_, _, _, _, rfl⟩ | ⟨_, rfl⟩
  · exact kept point (same ▸ recovers) keeps
  · simp at recovers
  · obtain ⟨first, later⟩ := after
    obtain rfl : first = .recover point owner rest := by simpa using recovers
    rcases ScanPoint.call_recover went with
      ⟨was, before, rfl, resolved⟩ | ⟨call, letter, cursor, before, rfl⟩ | ⟨rfl, _⟩
    · rcases RecoverPoint.resolve_snapshot resolved keeps with had | ⟨rfl, rfl⟩
      · exact kept was before had
      · -- The texts arrive with the reply.
        simp only [Wire.receive, before, Function.update_self, spells.lists.processing]
    · exact kept _ before keeps
    · simp [RecoverPoint.snapshot?] at keeps
  · obtain ⟨rfl, _⟩ := ScanPoint.recoverAll_recover (by simpa using recovers)
    simp [RecoverPoint.snapshot?] at keeps
  · simp at recovers

/-- Between two iterations there is no letter. -/
theorem Cursor.advance_letter (cursor : Cursor) : cursor.advance.letter? = none := by
  unfold Cursor.advance
  rcases RecoverPoint.visit_cases cursor.visitedNext cursor.todo with ⟨_, at_⟩ | ⟨_, at_⟩ <;>
    rw [at_] <;> rfl

/-- A letter is made at the check of its iteration, and kept. -/
theorem RecoverPoint.resolve_letter {was point : RecoverPoint} {worker : WorkerId} {store later : Store}
    (resolved : was.resolve worker store = some (some point, later)) {letter : DLQPayload}
    {cursor : Cursor} (keeps : point.letter? = some (letter, cursor)) :
    was.letter? = some (letter, cursor) ∨ letter.payload = cursor.job := by
  -- A letter is made when the retries are exhausted, and kept through its transaction.
  cases RecoverPoint.resolve_cases resolved with
  | exhausts =>
    obtain ⟨rfl, rfl⟩ := Prod.mk.inj (Option.some.inj keeps)
    exact .inr rfl
  | skip | push | sendLetter => simp [Cursor.advance_letter] at keeps
  | list =>
    rcases visit_cases [] (store.processing worker) with ⟨_, at_⟩ | ⟨_, at_⟩ <;>
      simp [at_, letter?] at keeps
  | connect | begin | updateStatus | insertResult | commit => exact .inl keeps
  | retries | reset => simp [letter?] at keeps

/-- Letters are made of the payloads of their iterations after a step too. -/
theorem Spells.letters_step (spells : Spells state wire) (stepped : state.step label = some next)
    {lockId : LockId} {point : RecoverPoint} {owner : WorkerId} {rest : List WorkerId}
    {letter : DLQPayload} {cursor : Cursor} (recovers : next.scans lockId = .recover point owner rest)
    (keeps : point.letter? = some (letter, cursor)) : letter.payload = cursor.job := by
  rcases Platform.step_scan stepped lockId with ⟨same, _⟩ | ⟨_, _, rfl⟩ |
    ⟨outcome, after, rfl, went, rfl⟩ | ⟨_, _, _, _, rfl⟩ | ⟨_, rfl⟩
  · exact spells.letters lockId point owner rest letter cursor (same ▸ recovers) keeps
  · simp at recovers
  · obtain ⟨first, later⟩ := after
    obtain rfl : first = .recover point owner rest := by simpa using recovers
    rcases ScanPoint.call_recover went with
      ⟨was, before, _, resolved⟩ | ⟨call, own, iteration, before, rfl⟩ | ⟨rfl, _⟩
    -- The letter is made of the payload at hand, or was so before.
    · rcases RecoverPoint.resolve_letter resolved keeps with had | made
      · exact spells.letters lockId was owner rest letter cursor before had
      · exact made
    · exact spells.letters lockId _ owner rest letter cursor before keeps
    · simp [RecoverPoint.letter?] at keeps
  · obtain ⟨rfl, _⟩ := ScanPoint.recoverAll_recover (by simpa using recovers)
    simp [RecoverPoint.letter?] at keeps
  · simp at recovers

/-- Texts spell the model after every step, as long as the lists hold payloads alone. -/
theorem Spells.step (spells : Spells state wire) (stepped : state.step label = some next)
    (parsed : ∀ worker, ∀ entry ∈ state.store.processing worker, ∃ job, entry = .payload job) :
    Spells next (Wire.follow state label wire) where
  -- The lists are followed through the command, and the variables through the reply.
  lists := spells.lists_step stepped parsed
  workers := by
    intro worker point job running carries
    rw [Wire.follow, Wire.execute_rawJob]
    exact spells.workers_step stepped running carries
  recoveries := by
    intro lockId point owner rest read recovers keeps
    rw [Wire.follow, Wire.execute_rawJobs]
    exact spells.recoveries_step stepped recovers keeps
  letters := fun _ _ _ _ _ _ recovers keeps => spells.letters_step stepped recovers keeps

/-- Nothing is spelled at first. -/
theorem Spells.initial : Spells .initial .initial where
  lists := ⟨rfl, fun _ => rfl, rfl⟩
  workers := fun _ _ _ running => by simp [Platform.initial] at running
  recoveries := fun _ _ _ _ _ recovers => by simp [Platform.initial] at recovers
  letters := fun _ _ _ _ _ _ recovers => by simp [Platform.initial] at recovers

end CodeExecution
