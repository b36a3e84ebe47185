import CodeExecution.Services.Registry

/-! The registry of sockets: which sockets it holds, how many, and whom a live message reaches. -/

namespace CodeExecution

variable {state next : Registry} {label : RegistryLabel} {trace : List RegistryLabel}

/-! ## Entries -/

/-- What the registry depends on: the job of a connection, and whether its close has been handled. -/
def Connection.entry (connection : Connection) : JobId × Bool :=
  (connection.client.jobId, connection.cleanedUp)

/-- The entry of a connection. -/
def Registry.entryOf (state : Registry) (id : ClientId) : Option (JobId × Bool) :=
  (state.connections id).map Connection.entry

/-- What a label makes of all entries. -/
inductive EntriesMoved (state : Registry) : RegistryLabel → (ClientId → Option (JobId × Bool)) → Prop
  | connect {id : ClientId} {jobId : JobId} (fresh : state.entryOf id = none) :
      EntriesMoved state (.connect id jobId) (Function.update state.entryOf id (some (jobId, false)))
  | close {id : ClientId} {entry : JobId × Bool} (connected : state.entryOf id = some entry) :
      EntriesMoved state (.close id) (Function.update state.entryOf id (some (entry.1, true)))
  | error {id : ClientId} : EntriesMoved state (.error id) state.entryOf
  | client {id : ClientId} {store : Store} {call : ClientCall} :
      EntriesMoved state (.client id store call) state.entryOf
  | pmessage {channel : String} {message : LiveMessage} :
      EntriesMoved state (.pmessage channel message) state.entryOf

/-- A connection that moves on moves its own entry. -/
theorem Registry.entryOf_withConnection (state : Registry) (id : ClientId) (connection : Connection) :
    (state.withConnection id connection).entryOf =
      Function.update state.entryOf id (some connection.entry) :=
  Function.comp_update (Option.map Connection.entry) state.connections id (some connection)

/-- A connection that keeps its job, and whose close is handled no more or less, keeps its entry. -/
theorem Registry.entryOf_same {id : ClientId} {connection moved : Connection}
    (connected : state.connections id = some connection) (same : moved.entry = connection.entry) :
    (state.withConnection id moved).entryOf = state.entryOf := by
  -- The entry is replaced by itself.
  have entry : state.entryOf id = some connection.entry := by
    rw [entryOf, connected, Option.map_some]
  rw [entryOf_withConnection, same, ← entry, Function.update_eq_self]

/-- Behind `cleanup`, the close has been handled. -/
theorem Registry.entryOf_cleanup {id : ClientId} {connection : Connection}
    (connected : state.connections id = some connection) :
    (state.cleanup id connection).entryOf =
      Function.update state.entryOf id (some (connection.entry.1, true)) := by
  unfold cleanup
  split
  · -- It had been handled before.
    next handled =>
    have entry : state.entryOf id = some (connection.entry.1, true) := by
      rw [entryOf, connected, Option.map_some, Connection.entry, handled]
    rw [← entry, Function.update_eq_self]
  · exact state.entryOf_withConnection id { connection with cleanedUp := true }

/-- A live message changes no entry. -/
theorem Registry.entryOf_deliver (state : Registry) (channel : String) (message : LiveMessage) :
    (state.deliver channel message).entryOf = state.entryOf := by
  -- A message is neither a request nor a close, whoever is sent it.
  have same : ∀ connection : Connection, (connection.forward message).entry = connection.entry := by
    intro connection
    cases message <;> rfl
  funext id
  unfold entryOf deliver
  rw [Option.map_map]
  congr 1
  funext connection
  rw [Function.comp_apply, apply_ite Connection.entry, same, ite_self]

/-- Nothing else comes of a step. -/
theorem Registry.entries_moved (stepped : registry.step state label = some next) :
    EntriesMoved state label next.entryOf := by
  -- Only a request and a close touch what an entry is made of.
  cases step_cases stepped with
  | @connect id jobId fresh =>
    have entries : (state.register id jobId).entryOf =
        Function.update state.entryOf id (some (jobId, false)) :=
      state.entryOf_withConnection id (.begun jobId)
    rw [entries]
    exact .connect (by rw [entryOf, fresh, Option.map_none])
  | @close id connection connected =>
    have entries := entryOf_same connected (rfl : connection.shut.entry = connection.entry)
    rw [entryOf_cleanup (Function.update_self ..), entries]
    exact .close (by rw [entryOf, connected, Option.map_some]; rfl)
  | error connected => exact .error
  | @client id store call connection client connected moved =>
    have same : Connection.entry { connection with client } = connection.entry :=
      Prod.ext (Client.step_jobId moved) rfl
    rw [entryOf_same connected same]
    exact .client
  | pmessage =>
    rw [entryOf_deliver]
    exact .pmessage

/-! ## The labels of a run -/

/-- The labels of a run tell the entries. -/
structure Told (trace : List RegistryLabel) (entries : ClientId → Option (JobId × Bool)) : Prop where
  connected : ∀ id jobId, .connect id jobId ∈ trace ↔ ∃ cleanedUp, entries id = some (jobId, cleanedUp)
  closed : ∀ id, .close id ∈ trace ↔ ∃ jobId, entries id = some (jobId, true)

/-- There are no labels, and no entries. -/
theorem Told.initial : Told [] Registry.initial.entryOf := by
  constructor <;> simp [Registry.entryOf, Registry.initial]

/-- A label that changes no entry is one of the others. -/
theorem Told.other {entries : ClientId → Option (JobId × Bool)} (told : Told trace entries)
    (connects : ∀ id jobId, label ≠ .connect id jobId) (closes : ∀ id, label ≠ .close id) :
    Told (trace ++ [label]) entries := by
  -- Neither side of the two equivalences speaks of such a label.
  constructor
  · intro id jobId
    rw [← told.connected, List.mem_append, List.mem_singleton, or_iff_left (connects id jobId).symm]
  · intro id
    rw [← told.closed, List.mem_append, List.mem_singleton, or_iff_left (closes id).symm]

/-- One more label tells what it has made of the entries. -/
theorem Told.step (told : Told trace state.entryOf)
    (stepped : registry.step state label = some next) : Told (trace ++ [label]) next.entryOf := by
  have moved := Registry.entries_moved stepped
  generalize next.entryOf = after at moved ⊢
  cases moved with
  | @connect id jobId fresh =>
    -- Nothing has been told of this connection before.
    constructor
    · intro other job
      rw [List.mem_append, List.mem_singleton, told.connected]
      by_cases same : other = id
      · simp [same, fresh, eq_comm]
      · simp [same]
    · intro other
      rw [List.mem_append, List.mem_singleton, told.closed]
      by_cases same : other = id
      · simp [same, fresh]
      · simp [same]
  | @close id entry connected =>
    -- The job stays the one of the request.
    constructor
    · intro other job
      rw [List.mem_append, List.mem_singleton, told.connected]
      by_cases same : other = id
      · obtain ⟨known, handled⟩ := entry
        simp [same, connected]
      · simp [same]
    · intro other
      rw [List.mem_append, List.mem_singleton, told.closed]
      by_cases same : other = id
      · simp [same]
      · simp [same]
  | error | client | pmessage => exact told.other (by simp) (by simp)

/-! ## The invariant -/

/-- The sets hold exactly the connections whose close has not been handled. -/
def Lists (map : SetMap JobId ClientId) (entries : ClientId → Option (JobId × Bool)) : Prop :=
  ∀ jobId id, id ∈ map.members jobId ↔ entries id = some (jobId, false)

/-- A new connection is added. -/
theorem Lists.add {map : SetMap JobId ClientId} {entries : ClientId → Option (JobId × Bool)}
    (lists : Lists map entries) {id : ClientId} (fresh : entries id = none) (jobId : JobId) :
    Lists (map.add jobId id) (Function.update entries id (some (jobId, false))) := by
  intro job other
  have listed := lists job other
  rw [SetMap.members_add]
  by_cases same : other = id
  · -- It was in no set before.
    rw [same, fresh] at listed
    by_cases own : job = jobId
    · simp [same, own]
    · simpa [same, own, Ne.symm own] using listed
  · by_cases own : job = jobId
    · rw [own] at listed
      simp [same, own, listed]
    · simp [same, own, listed]

/-- A connection whose close is handled is removed. -/
theorem Lists.remove {map : SetMap JobId ClientId} {entries : ClientId → Option (JobId × Bool)}
    (lists : Lists map entries) {id : ClientId} {jobId : JobId}
    (connected : entries id = some (jobId, false)) :
    Lists (map.remove jobId id) (Function.update entries id (some (jobId, true))) := by
  intro job other
  have listed := lists job other
  rw [SetMap.members_remove]
  by_cases same : other = id
  · -- It was in the set of its job only.
    rw [same, connected] at listed
    by_cases own : job = jobId
    · simp [same, own]
    · simpa [same, own, Ne.symm own] using listed
  · by_cases own : job = jobId
    · rw [own] at listed
      simp [same, own, listed]
    · simp [same, own, listed]

/-- The socket of a connection is closed when its close has been handled. -/
def Connection.Shut (connection : Connection) : Prop :=
  connection.cleanedUp = true → connection.client.socket ≠ .openSocket

/-- What holds of the registry after every step. -/
structure Registry.Consistent (state : Registry) : Prop where
  lists : Lists state.activeStreams state.entryOf
  filled : state.activeStreams.Filled
  gauge : state.activeWebSockets = state.activeStreams.size
  shut : ∀ id connection, state.connections id = some connection → connection.Shut

/-- Nobody has connected. -/
theorem Registry.Consistent.initial : Registry.initial.Consistent where
  lists jobId id := by simp [Registry.entryOf, Registry.initial, SetMap.members]
  filled := SetMap.filled_empty
  gauge := rfl
  shut := by simp [Registry.initial]

/-- A `close` event finds the socket closed. -/
theorem Connection.shut_socket_ne (connection : Connection) :
    connection.shut.client.socket ≠ .openSocket := by
  unfold shut
  dsimp only
  split
  · simp
  · next closed => exact closed

/-- A live message does not close a socket, or open it. -/
theorem Connection.shut_forward {connection : Connection} (shut : connection.Shut)
    (message : LiveMessage) : (connection.forward message).Shut := by
  cases message with
  | chunk => exact shut
  | other => exact shut

/-- One connection moves on, and the others are as before. -/
theorem Registry.shut_withConnection
    (shut : ∀ id connection, state.connections id = some connection → connection.Shut)
    {id : ClientId} {connection : Connection} (moved : connection.Shut) :
    ∀ other found, (state.withConnection id connection).connections other = some found → found.Shut := by
  -- What is found is the new connection, or an old one.
  intro other found same
  unfold withConnection at same
  dsimp only at same
  by_cases own : other = id
  · rw [own, Function.update_self] at same
    rwa [← Option.some.inj same]
  · rw [Function.update_of_ne own] at same
    exact shut other found same

/-- A connection that keeps its entry leaves the registry as it is. -/
theorem Registry.Consistent.moved (consistent : state.Consistent) {id : ClientId}
    {connection moved : Connection} (connected : state.connections id = some connection)
    (same : moved.entry = connection.entry) (shut : moved.Shut) :
    (state.withConnection id moved).Consistent where
  -- The sets are told by the entries alone.
  lists := by
    rw [entryOf_same connected same]
    exact consistent.lists
  filled := consistent.filled
  gauge := consistent.gauge
  shut := shut_withConnection consistent.shut shut

/-- `cleanup` takes a closed socket out of the registry, if that has not been done before. -/
theorem Registry.Consistent.cleanup (consistent : state.Consistent) {id : ClientId}
    {connection : Connection} (connected : state.connections id = some connection)
    (closed : connection.client.socket ≠ .openSocket) : (state.cleanup id connection).Consistent := by
  have entries := entryOf_cleanup connected
  unfold Registry.cleanup at entries ⊢
  split
  · exact consistent
  · next unhandled =>
    rw [if_neg unhandled] at entries
    have known : connection.cleanedUp = false := Bool.eq_false_iff.mpr unhandled
    have entry : state.entryOf id = some (connection.client.jobId, false) := by
      rw [entryOf, connected, Option.map_some, Connection.entry, known]
    refine ⟨?_, consistent.filled.remove _ _, ?_, ?_⟩
    · rw [entries]
      exact consistent.lists.remove entry
    · -- The gauge and the size of the registry go down together.
      have size := SetMap.size_remove ((consistent.lists _ _).mpr entry)
      have gauge := consistent.gauge
      show state.activeWebSockets - 1 = ((state.activeStreams.remove connection.client.jobId id).size : Int)
      omega
    · exact shut_withConnection consistent.shut fun _ => closed

/-- Every step keeps the registry consistent. -/
theorem Registry.Consistent.step (consistent : state.Consistent)
    (stepped : registry.step state label = some next) : next.Consistent := by
  cases step_cases stepped with
  | @connect id jobId fresh =>
    have entry : state.entryOf id = none := by rw [entryOf, fresh, Option.map_none]
    have entries : (state.register id jobId).entryOf =
        Function.update state.entryOf id (some (jobId, false)) :=
      state.entryOf_withConnection id (.begun jobId)
    have absent : id ∉ state.activeStreams.members jobId := by
      rw [consistent.lists, entry]
      simp
    refine ⟨?_, consistent.filled.add _ _, ?_, ?_⟩
    · rw [entries]
      exact consistent.lists.add entry jobId
    · have size := SetMap.size_add absent
      have gauge := consistent.gauge
      show state.activeWebSockets + 1 = ((state.activeStreams.add jobId id).size : Int)
      omega
    · exact shut_withConnection consistent.shut (by simp [Connection.Shut, Connection.begun])
  | @close id connection connected =>
    have closed := consistent.moved connected (rfl : connection.shut.entry = connection.entry)
      fun _ => connection.shut_socket_ne
    exact closed.cleanup (Function.update_self ..) connection.shut_socket_ne
  | error => exact consistent
  | @client id store call connection client connected moved =>
    -- The socket is not opened again.
    have shut := consistent.shut id connection connected
    exact consistent.moved connected (Prod.ext (Client.step_jobId moved) rfl) fun handled isOpen =>
      shut handled (Client.isOpen_of_step moved isOpen)
  | @pmessage channel message =>
    refine ⟨?_, consistent.filled, consistent.gauge, ?_⟩
    · rw [entryOf_deliver]
      exact consistent.lists
    · intro id found same
      obtain ⟨connection, connected, rfl⟩ := Option.map_eq_some_iff.mp same
      have shut := consistent.shut id connection connected
      split
      · exact Connection.shut_forward shut message
      · exact shut

/-- A run of the registry is told by its labels, and keeps it consistent. -/
theorem registry_run (run : registry.Runs (fun _ _ => True) .initial trace state) :
    Told trace state.entryOf ∧ state.Consistent := by
  -- The induction is on the run.
  induction run with
  | nil => exact ⟨.initial, .initial⟩
  | snoc _ _ stepped ih => exact ⟨ih.1.step stepped, ih.2.step stepped⟩

/-! ## Live messages -/

/-- An open socket is registered for the job of its connection, and for no other. -/
theorem Registry.Consistent.mem_of_isOpen (consistent : state.Consistent) {id : ClientId}
    {connection : Connection} (connected : state.connections id = some connection)
    (isOpen : connection.client.socket = .openSocket) (jobId : JobId) :
    id ∈ state.activeStreams.members jobId ↔ connection.client.jobId = jobId := by
  -- Its close cannot have been handled.
  have unhandled : connection.cleanedUp = false := by
    by_contra handled
    rw [Bool.not_eq_false] at handled
    exact consistent.shut id connection connected handled isOpen
  rw [consistent.lists, entryOf, connected, Option.map_some, Connection.entry, unhandled]
  simp

/-- A live message goes to the open sockets of its job. -/
theorem Registry.Consistent.live_deliver (consistent : state.Consistent) {id : ClientId}
    {connection : Connection} (connected : state.connections id = some connection) (jobId : JobId)
    (message : LiveMessage) :
    ∃ after, (state.deliver (streamKey jobId) message).connections id = some after ∧
      after.live =
        if connection.client.socket = .openSocket ∧ connection.client.jobId = jobId then
          connection.live ++ [message]
        else connection.live := by
  refine ⟨_, congrArg (Option.map _) connected, ?_⟩
  rw [jobIdOfChannel_streamKey]
  by_cases isOpen : connection.client.socket = .openSocket
  · have registered := consistent.mem_of_isOpen connected isOpen jobId
    simp only [registered, isOpen, true_and]
    split
    · exact if_pos isOpen
    · rfl
  · -- Nothing is sent on a socket that is not open.
    rw [if_neg (fun both => isOpen both.1)]
    split
    · exact if_neg isOpen
    · rfl

/-- A chunk changes nothing at a client whose socket is not open. -/
theorem Client.forward_of_closed {client : Client} (closed : client.socket ≠ .openSocket)
    (message : StreamChunk) : client.forward message = client := by
  simp [forward, send, closed]

/-- The clients of the gateway. -/
def Registry.clients (state : Registry) (id : ClientId) : Option Client :=
  (state.connections id).map Connection.client

/-- Going through the registered sockets of a job does the same as going through all its clients. -/
theorem Registry.Consistent.forwardAll (consistent : state.Consistent) {platform : Attached}
    (same : platform.clients = state.clients) (jobId : JobId) (chunk : StreamChunk) :
    (platform.forwardAll jobId chunk).clients =
      (state.deliver (streamKey jobId) (.chunk chunk)).clients := by
  funext id
  simp only [Attached.forwardAll, clients, deliver, same, jobIdOfChannel_streamKey]
  cases connected : state.connections id with
  | none => rfl
  | some connection =>
    simp only [Option.map_some]
    by_cases isOpen : connection.client.socket = .openSocket
    · have registered := consistent.mem_of_isOpen connected isOpen jobId
      simp only [registered]
      split <;> rfl
    · -- A closed socket may be registered or not.
      have still := Client.forward_of_closed isOpen chunk
      rw [still, ite_self]
      split
      · exact congrArg some still.symm
      · rfl

/-! ## The registry -/

/-- The registry holds exactly the sockets that have connected and whose close has not been handled. -/
structure RegistryExact (trace : List RegistryLabel) (state : Registry) : Prop where
  sockets : ∀ jobId id,
    id ∈ state.activeStreams.members jobId ↔ .connect id jobId ∈ trace ∧ .close id ∉ trace
  filled : state.activeStreams.Filled
  gauge : state.activeWebSockets = state.activeStreams.size
  /-- A live message of a job is sent on the open sockets that have connected for it, and on no other. -/
  forwards : ∀ jobId message next,
    registry.step state (.pmessage (streamKey jobId) message) = some next →
      ∀ id connection, state.connections id = some connection →
        ∃ after, next.connections id = some after ∧
          (connection.client.socket = .openSocket ∧ .connect id jobId ∈ trace →
            after.live = connection.live ++ [message]) ∧
          (¬ (connection.client.socket = .openSocket ∧ .connect id jobId ∈ trace) →
            after.live = connection.live)
  /-- Going through these sockets does to the clients what going through all of them does. -/
  likeAll : ∀ platform : Attached, platform.clients = state.clients → ∀ jobId chunk,
    (platform.forwardAll jobId chunk).clients =
      (state.deliver (streamKey jobId) (.chunk chunk)).clients

/-- After every run of connections, events of sockets and live messages, the registry is exact. -/
theorem registry_exact (run : registry.Runs (fun _ _ => True) .initial trace state) :
    RegistryExact trace state := by
  obtain ⟨told, consistent⟩ := registry_run run
  refine ⟨fun jobId id => ?_, consistent.filled, consistent.gauge, ?_,
    fun _ same => consistent.forwardAll same⟩
  · rw [consistent.lists, told.connected, told.closed]
    constructor
    · intro entry
      refine ⟨⟨false, entry⟩, fun closed => ?_⟩
      obtain ⟨job, handled⟩ := closed
      rw [entry] at handled
      simp at handled
    · rintro ⟨⟨handled, entry⟩, unhandled⟩
      cases handled with
      | false => exact entry
      | true => exact absurd ⟨jobId, entry⟩ unhandled
  · intro jobId message next stepped id connection connected
    obtain rfl : state.deliver (streamKey jobId) message = next := Option.some.inj stepped
    obtain ⟨after, same, live⟩ := consistent.live_deliver connected jobId message
    -- The trace tells the job of the connection.
    have job : .connect id jobId ∈ trace ↔ connection.client.jobId = jobId := by
      rw [told.connected, Registry.entryOf, connected]
      simp [Connection.entry]
    rw [job]
    exact ⟨after, same, fun both => live.trans (if_pos both), fun neither => live.trans (if_neg neither)⟩

/-- Two sockets of one job, of which one is closed twice, and a socket of a job that does not exist. -/
private def comings : List RegistryLabel :=
  [.connect "first" "job", .connect "second" "job", .connect "third" "none",
    .client "third" Platform.initial.store .select, .close "third", .close "first", .close "first", .error "second",
    .pmessage (streamKey "job") (.other "text")]

/-- One socket is left, and it has been sent the message. -/
theorem registry_exact_example : ∃ state connection,
    registry.Runs (fun _ _ => True) .initial comings state ∧ RegistryExact comings state ∧
    state.activeWebSockets = 1 ∧ state.activeStreams.members "job" = {"second"} ∧
    state.connections "second" = some connection ∧ connection.live = [.other "text"] := by
  -- The run is executed, and the registry is exact behind it.
  have executed : (registry.guardedRun (fun _ _ => True) .initial comings).map (fun state =>
      (state.activeWebSockets, state.activeStreams.members "job", state.connections "second")) =
      some (1, {"second"}, some ⟨⟨"job", .select, .openSocket, 0, []⟩, false, [.other "text"]⟩) := by
    decide
  obtain ⟨state, run, shown⟩ := Machine.runs_of_guardedRun _ _ _ _ _ _ executed
  simp only [Prod.mk.injEq] at shown
  obtain ⟨gauge, members, connection⟩ := shown
  exact ⟨state, _, run, registry_exact run, gauge, members, connection, rfl⟩

end CodeExecution
