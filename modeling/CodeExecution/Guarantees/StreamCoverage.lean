import CodeExecution.Proofs.Streaming

/-! A stream client: when it has been sent all output by the time its socket is closed. -/

namespace CodeExecution

variable {state next : StreamSession} {label : StreamLabel}

/-! ## The invariant -/

/-- The output that has been added so far is among these messages. -/
def StreamSession.OutputIn (state : StreamSession) (messages : List Message) : Prop :=
  ∀ message ∈ state.log, message.isOutput = true → message ∈ messages

/-- What an open socket has been sent, and what its handler still has to send. -/
def ViewerPoint.Covers (state : StreamSession) : ViewerPoint → Prop
  | .idle => False
  -- Live messages only; those from before the registration wait for the replay.
  | .select => state.received = state.missed ++ state.sent
  | .xrange status =>
    state.received = state.missed ++ state.sent ∧
      (status.isTerminal = true → state.producer.hasEnded = true)
  | .replay status entries =>
    state.received = state.missed ++ state.sent ∧
      (((entries.any fun message => message.chunk.isCompletion) || status.isTerminal) = true →
        state.producer.hasEnded = true) ∧
      if state.tooLate then entries = []
      else state.isShort → state.missed ⊆ entries ∧
        (((entries.any fun message => message.chunk.isCompletion) || status.isTerminal) = true →
          state.OutputIn entries)
  | .returned =>
    if state.tooLate then state.received = state.missed ++ state.sent
    else state.isShort → state.received ⊆ state.sent

/-- A close timer runs only when the output is complete, and received or replayed. -/
structure StreamSession.Timed (state : StreamSession) : Prop where
  ended : state.producer.hasEnded = true
  live : state.viewer ≠ .returned → state.OutputIn state.received
  replayed : state.viewer = .returned → state.tooLate = false → state.OutputIn state.sent

/-- What the client of one socket can rely on. -/
structure Watched (state : StreamSession) : Prop where
  flow : Flow state
  written : Written state
  unconnected : state.socket = .unconnected →
    state.sent = [] ∧ state.timers = 0 ∧ state.viewer = .idle
  covers : state.socket = .openSocket → state.viewer.Covers state
  timed : state.socket = .openSocket → state.isShort → 0 < state.timers → state.Timed

/-- Nothing has happened yet. -/
theorem Watched.initial : Watched .initial :=
  ⟨.initial, .initial, fun _ => ⟨rfl, rfl, rfl⟩, nofun, nofun⟩

/-- When the program has ended, its output stays where it is. -/
theorem StreamSession.OutputIn.step {messages : List Message} (stepped : state.step label = some next)
    (ended : state.producer.hasEnded = true) (within : state.OutputIn messages) :
    next.OutputIn messages :=
  fun message added output => within message (((outputs_step stepped ended).2 message output).mp added)
    output

/-- A step of the worker keeps what the client relies on. -/
theorem Watched.produced (watched : Watched state) (stepped : state.step label = some next)
    (received : next.received = state.received) (missed : next.missed = state.missed)
    (sent : next.sent = state.sent) (socket : next.socket = state.socket)
    (viewer : next.viewer = state.viewer) (tooLate : next.tooLate = state.tooLate)
    (timers : next.timers = state.timers) : Watched next where
  flow := watched.flow.step stepped
  written := watched.written.step stepped
  unconnected closed := by
    rw [sent, timers, viewer]
    exact watched.unconnected (socket ▸ closed)
  covers isOpen := by
    have covers := watched.covers (socket ▸ isOpen)
    have ended := fun isOver => (StreamSession.outputs_step stepped isOver).1
    have short := StreamSession.isShort_of_step stepped
    rw [viewer]
    -- Only the end of the program has to be carried over to the new state.
    cases point : state.viewer with
    | idle => rw [point] at covers; exact covers
    | select =>
      rw [point] at covers
      simpa only [ViewerPoint.Covers, received, missed, sent] using covers
    | xrange status =>
      rw [point] at covers
      obtain ⟨whole, isOver⟩ := covers
      exact ⟨by simpa only [received, missed, sent] using whole, fun final => ended (isOver final)⟩
    -- What was found stays complete, as the program has ended.
    | replay status entries =>
      rw [point] at covers
      obtain ⟨whole, isOver, found⟩ := covers
      refine ⟨by simpa only [received, missed, sent] using whole, fun final => ended (isOver final), ?_⟩
      rw [tooLate, missed]
      by_cases late : state.tooLate = true
      · rw [if_pos late] at found ⊢
        exact found
      · rw [if_neg late] at found ⊢
        intro brief
        obtain ⟨kept, complete⟩ := found (short brief)
        exact ⟨kept, fun final => (complete final).step stepped (isOver final)⟩
    | returned =>
      rw [point] at covers
      simp only [ViewerPoint.Covers, received, missed, sent, tooLate] at covers ⊢
      by_cases late : state.tooLate = true
      · rw [if_pos late] at covers ⊢
        exact covers
      · rw [if_neg late] at covers ⊢
        exact fun brief => covers (short brief)
  timed isOpen short pending := by
    have timed := watched.timed (socket ▸ isOpen) (StreamSession.isShort_of_step stepped short)
      (timers ▸ pending)
    refine ⟨(StreamSession.outputs_step stepped timed.ended).1, ?_, ?_⟩
    · rw [received, viewer]
      exact fun busy => (timed.live busy).step stepped timed.ended
    · rw [sent, viewer, tooLate]
      exact fun isOver early => (timed.replayed isOver early).step stepped timed.ended

/-- A socket that is not open shows nothing more. -/
theorem Watched.silent (watched : Watched state) (stepped : state.step label = some next)
    (closed : next.socket ≠ .openSocket)
    (unconnected : next.socket = .unconnected →
      next.sent = [] ∧ next.timers = 0 ∧ next.viewer = .idle) : Watched next :=
  ⟨watched.flow.step stepped, watched.written.step stepped, unconnected,
    fun isOpen => absurd isOpen closed, fun isOpen => absurd isOpen closed⟩

/-- A message that is received is sent on the open socket. -/
theorem ViewerPoint.Covers.deliver (covers : state.viewer.Covers state)
    (isOpen : state.socket = .openSocket) {message : Message} {rest : List Message} :
    state.viewer.Covers
      ((state.receive message rest).forward message) := by
  have joined : state.received = state.missed ++ state.sent →
      state.received ++ [message] = state.missed ++ (state.sent ++ [message]) := by
    intro whole
    rw [whole, List.append_assoc]
  -- The message goes behind all others on both sides.
  simp only [StreamSession.forward, StreamSession.receive, StreamSession.send, isOpen, if_true]
  cases point : state.viewer with
  | idle => rw [point] at covers; exact covers
  | select => rw [point] at covers; exact joined covers
  | xrange status => rw [point] at covers; exact ⟨joined covers.1, covers.2⟩
  | replay status entries => rw [point] at covers; exact ⟨joined covers.1, covers.2⟩
  | returned =>
    rw [point] at covers
    simp only [ViewerPoint.Covers] at covers ⊢
    by_cases late : state.tooLate = true
    · rw [if_pos late] at covers ⊢
      exact joined covers
    · rw [if_neg late] at covers ⊢
      intro short
      exact List.append_subset.mpr
        ⟨List.Subset.trans (covers short) (List.subset_append_left _ _), List.subset_append_right _ _⟩

/-- A received message brings the client what it should, also when it is the marker. -/
theorem Watched.deliver (watched : Watched state) {message : Message} {rest : List Message}
    (oldest : state.channel = message :: rest)
    (stepped : state.step .deliver = some ((state.receive message rest).forward message)) :
    Watched ((state.receive message rest).forward message) := by
  by_cases isOpen : state.socket = .openSocket
  · have covers : state.viewer.Covers ((state.receive message rest).forward message) :=
      (watched.covers isOpen).deliver isOpen
    refine ⟨watched.flow.step stepped, watched.written.step stepped, ?_, fun _ => covers,
      fun _ short pending => ?_⟩
    · intro closed
      exact absurd (isOpen.symm.trans closed) nofun
    have sent : ((state.receive message rest).forward message).sent =
        state.sent ++ [message] := by
      simp [StreamSession.forward, StreamSession.receive, StreamSession.send, isOpen]
    have added : message ∈ state.log := by
      rw [watched.flow.places, oldest]
      simp
    by_cases marks : message.chunk.isCompletion = true
    · -- All output has been received before the marker.
      have output : state.OutputIn ((state.receive message rest).forward message).received := by
        intro earlier added _
        rw [watched.written.received_last watched.flow oldest marks] at added
        exact added
      refine ⟨ProducerPoint.hasEnded_of_hasMarked (watched.written.marked message added marks),
        fun _ => output, fun isOver early earlier added isOutput => ?_⟩
      replace isOver : state.viewer = .returned := isOver
      rw [isOver] at covers
      simp only [ViewerPoint.Covers, early] at covers
      exact covers short (output earlier added isOutput)
    · have earlier : 0 < state.timers := by
        simpa [StreamSession.forward, StreamSession.receive, StreamSession.send, marks] using pending
      have timed := watched.timed isOpen short earlier
      refine ⟨timed.ended, fun busy earlier added output => ?_, fun isOver early earlier added output => ?_⟩
      · exact List.mem_append_left _ (timed.live busy earlier added output)
      · rw [sent]
        exact List.mem_append_left _ (timed.replayed isOver early earlier added output)
  · refine watched.silent stepped isOpen fun closed => ?_
    simpa [StreamSession.forward, StreamSession.receive, StreamSession.send, isOpen] using
      watched.unconnected closed

/-- The reply of XRANGE holds all that has been added to a short stream, or the key is gone. -/
theorem Watched.xrange (watched : Watched state) {status : SubmissionStatus}
    (reading : state.viewer = .xrange status)
    (stepped : state.step .xrange = some (state.readStream status)) :
    Watched (state.readStream status) := by
  refine ⟨watched.flow.step stepped, watched.written.step stepped, fun closed => ?_,
    fun isOpen => ?_, fun isOpen short pending => ?_⟩
  · exact absurd (reading.symm.trans (watched.unconnected closed).2.2) nofun
  · have covers := watched.covers isOpen
    rw [reading] at covers
    obtain ⟨whole, isOver⟩ := covers
    refine ⟨whole, fun final => ?_, ?_⟩
    · rcases Bool.or_eq_true_iff.mp final with found | terminal
      · obtain ⟨message, present, marks⟩ := List.any_eq_true.mp found
        exact ProducerPoint.hasEnded_of_hasMarked
          (watched.written.marked message (watched.flow.stream.subset present) marks)
      · exact isOver terminal
    by_cases gone : state.producer = .expired
    · simp [StreamSession.readStream, gone, watched.written.gone gone]
    · simp only [StreamSession.readStream, gone, decide_false, Bool.false_eq_true, if_false]
      intro short
      have retained : state.stream = state.log := watched.written.retained short gone
      rw [retained]
      -- What was missed has been received, so it has been added.
      exact ⟨(watched.flow.missed.trans watched.flow.received_added).subset,
        fun _ message added _ => added⟩
  · have timed := watched.timed isOpen short pending
    exact ⟨timed.ended, fun _ => timed.live (by rw [reading]; nofun), nofun⟩

/-- The replay brings what was missed. -/
theorem Watched.replay (watched : Watched state) {status : SubmissionStatus}
    {entries : List Message} (replies : state.viewer = .replay status entries)
    (stepped : state.step .replay = some (state.finishReplay status entries)) :
    Watched (state.finishReplay status entries) := by
  by_cases isOpen : state.socket = .openSocket
  · have covers := watched.covers isOpen
    rw [replies] at covers
    obtain ⟨whole, isOver, found⟩ := covers
    have sent : (state.finishReplay status entries).sent = state.sent ++ entries := by
      simp [StreamSession.finishReplay, StreamSession.send, isOpen]
    have returned : ViewerPoint.returned.Covers (state.finishReplay status entries) := by
      have received : (state.finishReplay status entries).received = state.missed ++ state.sent :=
        whole
      simp only [ViewerPoint.Covers, sent, received]
      -- An expired stream replays nothing; otherwise the missed messages are replayed.
      by_cases late : state.tooLate = true
      · rw [if_pos late] at found
        simp [StreamSession.finishReplay, StreamSession.send, late, found]
      · rw [if_neg late] at found
        rw [if_neg (show ¬ (state.finishReplay status entries).tooLate = true from late)]
        intro short
        exact List.append_subset.mpr
          ⟨List.Subset.trans (found short).1 (List.subset_append_right _ _), List.subset_append_left _ _⟩
    refine ⟨watched.flow.step stepped, watched.written.step stepped, ?_, fun _ => returned,
      fun _ short pending => ?_⟩
    · intro closed
      replace closed : state.socket = .unconnected := closed
      simp [isOpen] at closed
    · by_cases final :
          ((entries.any fun message => message.chunk.isCompletion) || status.isTerminal) = true
      · refine ⟨isOver final, fun busy => absurd rfl busy, fun _ early message added isOutput => ?_⟩
        replace early : state.tooLate = false := early
        simp only [early, Bool.false_eq_true, if_false] at found
        rw [sent]
        exact List.mem_append_right _ ((found short).2 final message added isOutput)
      · have earlier : 0 < state.timers := by
          simpa [StreamSession.finishReplay, final] using pending
        have timed := watched.timed isOpen short earlier
        have output := timed.live (by simp [replies])
        refine ⟨timed.ended, fun busy => absurd rfl busy, fun _ early message added isOutput => ?_⟩
        replace early : (state.finishReplay status entries).tooLate = false := early
        simp only [ViewerPoint.Covers, early, Bool.false_eq_true, if_false] at returned
        exact returned short (output message added isOutput)
  · refine watched.silent stepped isOpen fun closed => ?_
    simpa [replies] using (watched.unconnected closed).2.2

/-- Every step keeps what the client relies on. -/
theorem Watched.step (watched : Watched state) (stepped : state.step label = some next) :
    Watched next := by
  cases StreamSession.step_cases stepped with
  | claim | append | publish | publishCompletion | commit | appendCompletion | expire |
      streamExpires =>
    exact watched.produced stepped rfl rfl rfl rfl rfl rfl rfl
  | deliver oldest => exact watched.deliver oldest stepped
  | connect unconnected =>
    -- Nothing has been sent and no timer is running when a socket is registered.
    obtain ⟨unseen, quiet, -⟩ := watched.unconnected unconnected
    refine ⟨watched.flow.step stepped, watched.written.step stepped, nofun, fun _ => ?_,
      fun _ _ pending => ?_⟩
    · simp [ViewerPoint.Covers, unseen]
    · exact absurd (quiet ▸ pending) (lt_irrefl 0)
  | select selecting =>
    refine ⟨watched.flow.step stepped, watched.written.step stepped, fun closed => ?_,
      fun isOpen => ?_, fun isOpen short pending => ?_⟩
    · exact absurd (selecting.symm.trans (watched.unconnected closed).2.2) nofun
    · have covers := watched.covers isOpen
      rw [selecting] at covers
      exact ⟨covers, watched.written.terminal⟩
    · have timed := watched.timed isOpen short pending
      exact ⟨timed.ended, fun _ => timed.live (by rw [selecting]; nofun), nofun⟩
  | xrange reading => exact watched.xrange reading stepped
  | replay replies => exact watched.replay replies stepped
  | rejects awaits =>
    refine watched.silent stepped (state.close_socket_ne _) fun closed => ?_
    have idle := (watched.unconnected (StreamSession.close_unconnected closed)).2.2
    rcases awaits with selecting | ⟨status, reading⟩
    · exact absurd (selecting.symm.trans idle) nofun
    · exact absurd (reading.symm.trans idle) nofun
  | timer pending =>
    refine watched.silent stepped (state.close_socket_ne _) fun closed => ?_
    have quiet := (watched.unconnected (StreamSession.close_unconnected closed)).2.1
    exact absurd (pending.symm.trans quiet) nofun
  | leave => exact watched.silent stepped nofun nofun

/-- Every run keeps it. -/
theorem Watched.reached {trace : List StreamLabel}
    (run : streamSession.Runs (fun _ _ => True) .initial trace state) : Watched state :=
  run.preserves Watched .initial fun _ _ _ watched _ stepped => watched.step stepped

/-! ## The closed socket -/

/-- What stays after the gateway has closed the socket. -/
structure Settled (before state : StreamSession) : Prop where
  socket : state.socket = .closed 1000
  sent : state.sent = before.sent
  ended : state.producer.hasEnded = true
  output : ∀ message, message.isOutput = true → (message ∈ state.log ↔ message ∈ before.log)

/-- Nothing is sent on a closed socket, and no output is added. -/
theorem Settled.step {before : StreamSession} (settled : Settled before state)
    (stepped : state.step label = some next) : Settled before next := by
  obtain ⟨ended, fixed⟩ := StreamSession.outputs_step stepped settled.ended
  have output := fun message isOutput =>
    (fixed message isOutput).trans (settled.output message isOutput)
  have closed : state.socket ≠ .openSocket := by simp [settled.socket]
  -- Sending and closing both ask first whether the socket is open.
  cases StreamSession.step_cases stepped with
  | deliver =>
    refine ⟨settled.socket, ?_, ended, output⟩
    simp [StreamSession.forward, StreamSession.receive, StreamSession.send, closed, settled.sent]
  | replay =>
    exact ⟨settled.socket,
      by simp [StreamSession.finishReplay, StreamSession.send, closed, settled.sent], ended, output⟩
  | rejects | timer =>
    exact ⟨by simp [StreamSession.close, settled.socket], settled.sent, ended, output⟩
  | connect unconnected => simp [settled.socket] at unconnected
  | leave isOpen => exact absurd isOpen closed
  | claim | append | publish | publishCompletion | commit | appendCompletion | expire |
      streamExpires | select | xrange =>
    exact ⟨settled.socket, settled.sent, ended, output⟩

/-- Nothing that was added is taken back later. -/
theorem StreamSession.log_grows_of_runs {trace : List StreamLabel}
    (run : streamSession.Runs (fun _ _ => True) state trace next) : state.log <+: next.log :=
  run.preserves (state.log <+: ·.log) (List.prefix_refl _) fun _ _ _ kept _ stepped =>
    kept.trans (log_grows stepped)

/-- Without a replay the output is complete just where none was missed and none is on its way. -/
theorem Watched.sent_iff (watched : Watched state) (ended : state.producer.hasEnded = true)
    (whole : state.received = state.missed ++ state.sent) :
    state.OutputIn state.sent ↔
      ∀ message ∈ state.missed ++ state.channel, message.isOutput = false := by
  have places := watched.flow.places
  have nodup := watched.flow.nodup
  rw [whole] at places
  rw [places] at nodup
  constructor
  · -- No message comes twice, so those others are not among the live ones.
    intro sent message elsewhere
    by_contra isOutput
    have added : message ∈ state.log := by
      rw [places]
      rcases List.mem_append.mp elsewhere with missed | channel
      · simp [missed]
      · simp [channel]
    have live := sent message added (by simpa using isOutput)
    have apart := List.disjoint_of_nodup_append nodup.of_append_left
    rcases List.mem_append.mp elsewhere with missed | channel
    · exact List.disjoint_of_nodup_append nodup.of_append_left.of_append_left missed live
    · exact apart (List.mem_append_right _ live) channel
  · -- A message is missed, live, on its way, or the marker that is not yet published.
    intro system message added isOutput
    rw [places] at added
    rcases List.mem_append.mp added with earlier | unpublished
    · rcases List.mem_append.mp earlier with arrived | channel
      · rcases List.mem_append.mp arrived with missed | sent
        · exact absurd (isOutput.symm.trans (system message (List.mem_append_left _ missed))) nofun
        · exact sent
      · exact absurd (isOutput.symm.trans (system message (List.mem_append_right _ channel))) nofun
    · exact absurd (isOutput.symm.trans (watched.written.published ended message unpublished)) nofun

/-- When the socket closes, output is lacking just where no replay in time has brought it. -/
theorem Watched.closes (watched : Watched state) (isOpen : state.socket = .openSocket)
    (short : state.isShort) (pending : 0 < state.timers) :
    state.OutputIn state.sent ↔
      (state.viewer = .returned ∧ state.tooLate = false) ∨
        ∀ message ∈ state.missed ++ state.channel, message.isOutput = false := by
  -- The replay brings everything; without it there are only the live messages.
  have timed := watched.timed isOpen short pending
  have covers := watched.covers isOpen
  by_cases replayed : state.viewer = .returned ∧ state.tooLate = false
  · exact iff_of_true (timed.replayed replayed.1 replayed.2) (.inl replayed)
  have whole : state.received = state.missed ++ state.sent := by
    cases point : state.viewer with
    | idle => rw [point] at covers; exact covers.elim
    | select => rw [point] at covers; exact covers
    | xrange | replay => rw [point] at covers; exact covers.1
    | returned =>
      have late : state.tooLate = true := by
        by_contra early
        exact replayed ⟨point, by simpa using early⟩
      rw [point] at covers
      simpa only [ViewerPoint.Covers, late, if_true] using covers
  rw [watched.sent_iff timed.ended whole]
  exact (or_iff_right replayed).symm

/-- A socket that the gateway closes has been sent all output, unless a replay of it was pending. -/
theorem stream_covers_output {before after : List StreamLabel} {final : StreamSession}
    (run : streamSession.Runs (fun _ _ => True) .initial before state)
    (isOpen : state.socket = .openSocket) (closes : state.step .timer = some next)
    (rest : streamSession.Runs (fun _ _ => True) next after final)
    (short : final.log.length < streamRetentionCount) :
    final.socket = .closed 1000 ∧
      ((∀ message ∈ final.log, message.chunk.type ≠ .system → message ∈ final.sent) ↔
        (state.viewer = .returned ∧ state.tooLate = false) ∨
          ∀ message ∈ state.missed ++ state.channel, message.chunk.type = .system) := by
  have watched := Watched.reached run
  cases StreamSession.step_cases closes with
  | @timer timers pending =>
    have shortBefore : state.isShort :=
      lt_of_le_of_lt (StreamSession.log_grows_of_runs rest).length_le short
    have running : 0 < state.timers := by omega
    -- From the closing on, what was sent and what was printed stay as they are.
    have settled : Settled state final :=
      rest.preserves (Settled state) ⟨by simp [StreamSession.close, isOpen], rfl,
        (watched.timed isOpen shortBefore running).ended, fun _ _ => Iff.rfl⟩
        fun _ _ _ settled _ stepped => settled.step stepped
    refine ⟨settled.socket, ?_⟩
    have covered := watched.closes isOpen shortBefore running
    simp only [Message.isOutput, decide_eq_false_iff_not, not_not] at covered
    rw [← covered, settled.sent]
    constructor
    · intro sent message added isOutput
      exact sent message ((settled.output message isOutput).mpr added)
        (message.isOutput_iff.mp isOutput)
    · intro sent message added prints
      have isOutput := message.isOutput_iff.mpr prints
      exact sent message ((settled.output message isOutput).mp added) isOutput

/-- A chunk of output. -/
private def line : StreamChunk where
  type := .stdout
  data := "a"
  timestamp := 0

/-- The job prints one chunk, which reaches the gateway. -/
private def printsOnce : List StreamLabel := [.claim, .append line 0, .publish, .deliver]

/-- The job ends, and its completion marker reaches the gateway. -/
private def ends : List StreamLabel :=
  [.commit .completed, .appendCompletion 1 0, .publish, .deliver]

/-- A client whose replay came before the end of the job has seen all output when it is closed. -/
theorem stream_covers_output_example :
    ∃ final : StreamSession,
      streamSession.Runs (fun _ _ => True) .initial
        (printsOnce ++ [.connect, .select, .xrange, .replay] ++ ends ++ [.timer]) final ∧
      final.log.map Message.chunk = [line, completionChunk 1] ∧ final.socket = .closed 1000 ∧
      ∀ message ∈ final.log, message.chunk.type ≠ .system → message ∈ final.sent := by
  -- The run is executed up to the timer, which then closes the socket.
  have executed : ((streamSession.guardedRun (fun _ _ => True) .initial
      (printsOnce ++ [.connect, .select, .xrange, .replay] ++ ends)).bind fun state =>
        (streamSession.step state .timer).map fun final =>
          (state.socket, state.viewer, state.tooLate, final.log.map Message.chunk)) =
      some (.openSocket, .returned, false, [line, completionChunk 1]) := by decide
  obtain ⟨state, run, executed⟩ := Option.bind_eq_some_iff.mp executed
  obtain ⟨final, closes, shown⟩ := Option.map_eq_some_iff.mp executed
  simp only [Prod.mk.injEq] at shown
  obtain ⟨isOpen, returned, early, printed⟩ := shown
  have short : final.log.length < streamRetentionCount := by
    have length := congrArg List.length printed
    rw [List.length_map] at length
    rw [length]
    decide
  have run := Machine.runs_iff_guardedRun.mpr run
  obtain ⟨closed, covered⟩ := stream_covers_output run isOpen closes .nil short
  exact ⟨final, run.snoc trivial closes, printed, closed, covered.mpr (.inl ⟨returned, early⟩)⟩

/-- A client that waits for XRANGE when the job ends is closed before it is sent the first chunk. -/
theorem stream_loses_chunk :
    ∃ trace state, streamSession.Runs (fun _ _ => True) .initial trace state ∧
      state.socket = .closed 1000 ∧ state.log.map Message.chunk = [line, completionChunk 1] ∧
      state.sent.map Message.chunk = [completionChunk 1] := by
  -- The timer of the live marker fires before the replay.
  obtain ⟨state, run, shown⟩ := Machine.runs_of_guardedRun streamSession (fun _ _ => True) .initial
    (printsOnce ++ [.connect, .select] ++ ends ++ [.timer])
    (fun state => (state.socket, state.log.map Message.chunk, state.sent.map Message.chunk))
    (.closed 1000, [line, completionChunk 1], [completionChunk 1]) (by decide)
  simp only [Prod.mk.injEq] at shown
  exact ⟨_, state, run, shown⟩

end CodeExecution
