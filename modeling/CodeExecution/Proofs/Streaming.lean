import CodeExecution.Services.Streaming

/-! The way of every chunk: added to the stream, published, received by the gateway. -/

namespace CodeExecution

variable {state next : StreamSession} {label : StreamLabel}

/-- The message that has been added and not yet published. -/
def ProducerPoint.unpublished : ProducerPoint → List Message
  | .publishing message | .completing message => [message]
  | .waiting | .printing | .committed | .completed | .expiring | .expired => []

/-- Every message of the stream is at one place on its way to the gateway, in stream order. -/
structure Flow (state : StreamSession) : Prop where
  /-- Messages are numbered as they are added. -/
  positions : state.log.map Message.position = List.range state.log.length
  /-- Messages are received in the order in which they were added. -/
  places : state.log = state.received ++ state.channel ++ state.producer.unpublished
  /-- The stream has lost its oldest entries at most. -/
  stream : state.stream <:+ state.log
  /-- What came before the registration is what came first. -/
  missed : state.missed <+: state.received

/-- Nothing has been printed yet. -/
theorem Flow.initial : Flow .initial :=
  ⟨rfl, rfl, List.suffix_refl _, List.prefix_refl _⟩

/-- An XADD puts the new message behind all others. -/
theorem Flow.add (flow : Flow state) (published : state.producer.unpublished = [])
    (chunk : StreamChunk) (dropped : Nat) {producer : ProducerPoint}
    (holds : producer.unpublished = [state.nextMessage chunk]) :
    Flow { state.add (state.nextMessage chunk) dropped with producer } where
  positions := by
    simp [StreamSession.add, flow.positions, List.range_succ, StreamSession.nextMessage]
  places := by
    -- The worker has nothing to publish before, and the new message afterwards.
    have places := flow.places
    rw [published, List.append_nil] at places
    simp [StreamSession.add, holds, ← places]
  stream := by
    obtain ⟨front, whole⟩ := flow.stream
    refine (List.drop_suffix dropped _).trans ⟨front, ?_⟩
    simp [StreamSession.add, ← whole]
  missed := flow.missed

/-- A PUBLISH moves the message of the worker to the end of the channel. -/
theorem Flow.publish (flow : Flow state) {message : Message}
    (holds : state.producer.unpublished = [message]) {producer : ProducerPoint}
    (published : producer.unpublished = []) :
    Flow { state with producer, channel := state.channel ++ [message] } :=
  ⟨flow.positions, by simp [flow.places, holds, published], flow.stream, flow.missed⟩

/-- Every step keeps all messages on their way. -/
theorem Flow.step (flow : Flow state) (stepped : state.step label = some next) : Flow next := by
  have places := flow.places
  cases StreamSession.step_cases stepped with
  | claim waiting =>
    rw [waiting] at places
    exact ⟨flow.positions, places, flow.stream, flow.missed⟩
  | append printing => exact flow.add (by rw [printing]; rfl) _ _ rfl
  | appendCompletion committed => exact flow.add (by rw [committed]; rfl) _ _ rfl
  | publish publishing => exact flow.publish (by rw [publishing]; rfl) rfl
  | publishCompletion completing => exact flow.publish (by rw [completing]; rfl) rfl
  | commit printing =>
    rw [printing] at places
    exact ⟨flow.positions, places, flow.stream, flow.missed⟩
  | expire completed =>
    rw [completed] at places
    exact ⟨flow.positions, places, flow.stream, flow.missed⟩
  | streamExpires expiring =>
    rw [expiring] at places
    exact ⟨flow.positions, places, List.nil_suffix, flow.missed⟩
  | deliver oldest =>
    -- The oldest message of the channel becomes the newest one that was received.
    rw [oldest] at places
    exact ⟨flow.positions, by simpa [StreamSession.forward, StreamSession.receive, StreamSession.send] using places,
      flow.stream, flow.missed.trans (List.prefix_append _ _)⟩
  | connect => exact ⟨flow.positions, places, flow.stream, List.prefix_refl _⟩
  | select | xrange | replay | rejects | timer | leave =>
    exact ⟨flow.positions, places, flow.stream, flow.missed⟩

/-- What was received has been added before. -/
theorem Flow.received_added (flow : Flow state) : state.received <+: state.log := by
  rw [flow.places, List.append_assoc]
  exact List.prefix_append _ _

/-- Messages in the order of the stream have increasing positions. -/
theorem Flow.increasing (flow : Flow state) {messages : List Message}
    (kept : messages.Sublist state.log) : (messages.map Message.position).Pairwise (· < ·) := by
  -- The log is numbered in order.
  have ordered : (state.log.map Message.position).Pairwise (· < ·) := by
    rw [flow.positions]
    exact List.pairwise_lt_range
  exact ordered.sublist (kept.map _)

/-- No message is added twice. -/
theorem Flow.nodup (flow : Flow state) : state.log.Nodup := by
  -- Two equal messages would have one position.
  have positions : (state.log.map Message.position).Nodup := by
    rw [flow.positions]
    exact List.nodup_range
  exact List.Nodup.of_map _ positions

/-- A closed socket is not open. -/
theorem StreamSession.close_socket_ne (state : StreamSession) (code : Nat) :
    (state.close code).socket ≠ .openSocket := by
  -- Only an open socket is closed.
  unfold close
  split
  · nofun
  · assumption

/-- A socket that is unconnected after a close was unconnected before. -/
theorem StreamSession.close_unconnected {state : StreamSession} {code : Nat}
    (unconnected : (state.close code).socket = .unconnected) : state.socket = .unconnected := by
  -- An open socket becomes a closed one.
  unfold close at unconnected
  split at unconnected
  · cases unconnected
  · exact unconnected

/-! ## What the worker has written -/

/-- The program has ended, so that no more of its output will be added. -/
def ProducerPoint.hasEnded : ProducerPoint → Bool
  | .committed | .completing _ | .completed | .expiring | .expired => true
  | .waiting | .printing | .publishing _ => false

/-- The completion marker has been added. -/
def ProducerPoint.hasMarked : ProducerPoint → Bool
  | .completing _ | .completed | .expiring | .expired => true
  | .waiting | .printing | .publishing _ | .committed => false

/-- The marker is added when the program has ended. -/
theorem ProducerPoint.hasEnded_of_hasMarked {producer : ProducerPoint}
    (marked : producer.hasMarked = true) : producer.hasEnded = true := by
  cases producer with
  | completing | completed | expiring | expired => rfl
  | waiting | printing | publishing | committed => cases marked

/-- A message that carries output of the program. -/
def Message.isOutput (message : Message) : Bool := message.chunk.type ≠ .system

theorem Message.isOutput_iff (message : Message) :
    message.isOutput = true ↔ message.chunk.type ≠ .system := decide_eq_true_iff

/-- The messages added so far are fewer than a stream retains. -/
def StreamSession.isShort (state : StreamSession) : Prop := state.log.length < streamRetentionCount

/-- How far the worker is, read from what it has written. -/
structure Written (state : StreamSession) : Prop where
  /-- A short stream is not trimmed while its key exists. -/
  retained : state.isShort → state.producer ≠ .expired → state.stream = state.log
  /-- An expired stream is empty. -/
  gone : state.producer = .expired → state.stream = []
  /-- A final status is written after the last output. -/
  terminal : state.status.isTerminal = true → state.producer.hasEnded = true
  /-- So is a completion marker. -/
  marked : ∀ message ∈ state.log, message.chunk.isCompletion = true →
    state.producer.hasMarked = true
  /-- Nothing is added after a completion marker. -/
  last : ∀ message ∈ state.log.dropLast, message.chunk.isCompletion = false
  /-- When the program has ended, its output is published. -/
  published : state.producer.hasEnded = true →
    ∀ message ∈ state.producer.unpublished, message.isOutput = false

/-- Nothing has been written. -/
theorem Written.initial : Written .initial := ⟨fun _ _ => rfl, nofun, nofun, nofun, nofun, nofun⟩

/-- No step takes a message back. -/
theorem StreamSession.log_grows (stepped : state.step label = some next) :
    state.log <+: next.log := by
  cases step_cases stepped with
  | append | appendCompletion => exact List.prefix_append _ _
  | _ => exact List.prefix_refl _

/-- A log that is short was short before. -/
theorem StreamSession.isShort_of_step (stepped : state.step label = some next)
    (short : next.isShort) : state.isShort :=
  lt_of_le_of_lt (log_grows stepped).length_le short

/-- A short log leaves no room for trimming. -/
theorem Written.add_retained (written : Written state) {message : Message} {dropped : Nat}
    (present : state.producer ≠ .expired) (trims : state.trims dropped = true)
    (short : (state.add message dropped).isShort) :
    (state.add message dropped).stream = (state.add message dropped).log := by
  -- A stream that is still short has never been trimmed.
  have bound : state.log.length + 1 < streamRetentionCount := by
    simpa [StreamSession.isShort, StreamSession.add] using short
  have whole : state.stream = state.log :=
    written.retained (lt_trans (Nat.lt_succ_self _) bound) present
  have none : dropped = 0 := by
    rcases of_decide_eq_true trims with none | many
    · exact none
    · rw [whole] at many
      omega
  simp [StreamSession.add, whole, none]

/-- Before the marker is added, there is none. -/
theorem Written.unmarked (written : Written state) (unmarked : state.producer.hasMarked = false) :
    ∀ message ∈ state.log, message.chunk.isCompletion = false := by
  -- A marker in the log would have been written by the end of the program.
  intro message added
  by_contra marks
  have marked := written.marked message added (by simpa using marks)
  rw [unmarked] at marked
  cases marked

/-- Every step keeps the worker's order of work. -/
theorem Written.step (written : Written state) (stepped : state.step label = some next) :
    Written next := by
  obtain ⟨retained, gone, terminal, marked, last, published⟩ := written
  cases StreamSession.step_cases stepped with
  -- Before the claim there is no log.
  | claim waiting =>
    refine ⟨fun short _ => retained short (by rw [waiting]; nofun), nofun, nofun,
      fun message added marks => ?_, last, nofun⟩
    have impossible := marked message added marks
    rw [waiting] at impossible
    cases impossible
  | append printing printed trims =>
    -- The new chunk is no marker, and no marker is there yet.
    have none : ∀ message ∈ state.log, message.chunk.isCompletion = false :=
      Written.unmarked ⟨retained, gone, terminal, marked, last, published⟩ (by rw [printing]; rfl)
    refine ⟨fun short _ => Written.add_retained ⟨retained, gone, terminal, marked, last, published⟩
      (by rw [printing]; nofun) trims short, nofun, fun final => ?_, fun message added marks => ?_, ?_, nofun⟩
    · have impossible := terminal final
      rw [printing] at impossible
      cases impossible
    · rcases List.mem_append.mp added with old | new
      · rw [none message old] at marks
        cases marks
      · rw [List.mem_singleton.mp new] at marks
        exact absurd marks (by simp [StreamSession.nextMessage, StreamChunk.fromSandbox_isCompletion
          printed])
    · simpa [StreamSession.add] using none
  -- The marker is the last entry, and the only one.
  | appendCompletion committed trims =>
    have none : ∀ message ∈ state.log, message.chunk.isCompletion = false :=
      Written.unmarked ⟨retained, gone, terminal, marked, last, published⟩ (by rw [committed]; rfl)
    refine ⟨fun short _ => Written.add_retained ⟨retained, gone, terminal, marked, last, published⟩
      (by rw [committed]; nofun) trims short, nofun, fun _ => rfl, fun _ _ _ => rfl, ?_, ?_⟩
    · simpa [StreamSession.add] using none
    · intro _ message added
      rw [List.mem_singleton.mp added]
      rfl
  | publish publishing =>
    rw [publishing] at terminal marked
    exact ⟨fun short _ => retained short (by rw [publishing]; nofun), nofun, terminal, marked, last, nofun⟩
  | publishCompletion completing =>
    exact ⟨fun short _ => retained short (by rw [completing]; nofun), nofun, fun _ => rfl, fun _ _ _ => rfl,
      last, nofun⟩
  | commit printing =>
    refine ⟨fun short _ => retained short (by rw [printing]; nofun), nofun, fun _ => rfl,
      fun message added marks => ?_, last, nofun⟩
    have impossible := marked message added marks
    rw [printing] at impossible
    cases impossible
  | expire completed =>
    exact ⟨fun short _ => retained short (by rw [completed]; nofun), nofun, fun _ => rfl, fun _ _ _ => rfl,
      last, nofun⟩
  -- With its stream the whole log is gone.
  | streamExpires =>
    exact ⟨fun _ present => absurd rfl present, fun _ => rfl, fun _ => rfl, fun _ _ _ => rfl, last, nofun⟩
  | deliver | connect | select | xrange | replay | rejects | timer | leave =>
    exact ⟨retained, gone, terminal, marked, last, published⟩

/-- When the program has ended, its output is complete. -/
theorem StreamSession.outputs_step (stepped : state.step label = some next)
    (ended : state.producer.hasEnded = true) :
    next.producer.hasEnded = true ∧
      ∀ message, message.isOutput = true → (message ∈ next.log ↔ message ∈ state.log) := by
  cases step_cases stepped with
  | claim waiting => simp [waiting, ProducerPoint.hasEnded] at ended
  | append printing => simp [printing, ProducerPoint.hasEnded] at ended
  | publish publishing => simp [publishing, ProducerPoint.hasEnded] at ended
  | commit printing => simp [printing, ProducerPoint.hasEnded] at ended
  | publishCompletion | expire | streamExpires => exact ⟨rfl, fun _ _ => Iff.rfl⟩
  | @appendCompletion timestamp =>
    -- The marker is a system message.
    refine ⟨rfl, fun message output => ?_⟩
    have other : message ≠ state.nextMessage (completionChunk timestamp) := by
      intro same
      subst same
      cases output
    simp [StreamSession.add, other]
  | deliver | connect | select | xrange | replay | rejects | timer | leave =>
    exact ⟨ended, fun _ _ => Iff.rfl⟩

/-- A completion marker is received after all other messages. -/
theorem Written.received_last (written : Written state) (flow : Flow state) {message : Message}
    {rest : List Message} (oldest : state.channel = message :: rest)
    (marks : message.chunk.isCompletion = true) : state.log = state.received ++ [message] := by
  have places := flow.places
  rw [oldest, List.append_assoc, List.cons_append] at places
  rcases List.eq_nil_or_concat (rest ++ state.producer.unpublished) with empty | ⟨front, newest, more⟩
  · rw [places, empty]
  · -- A later message would make the marker one of those before the last.
    have inside : message ∈ state.log.dropLast := by
      have whole : state.log = state.received ++ message :: front ++ [newest] := by
        simp [places, more]
      rw [whole, List.dropLast_concat]
      simp
    rw [written.last message inside] at marks
    cases marks

end CodeExecution
