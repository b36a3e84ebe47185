import CodeExecution.Proofs.Streaming

/-! A stream client: when it sees each chunk once and in stream order. -/

namespace CodeExecution

variable {state next : StreamSession} {label : StreamLabel}

/-! ## The condition -/

/--
The replay and the live messages of an open socket do not overlap.

XRANGE finds nothing, or everything was received before the socket was registered.
While a reply with entries is on its way, no message is received.
-/
def joinsQuietly (state : StreamSession) : StreamLabel → Bool
  | .xrange => state.socket ≠ .openSocket ∨ state.stream = [] ∨ state.missed = state.log
  | .deliver =>
    match state.viewer with
    | .replay _ (_ :: _) => state.socket ≠ .openSocket
    | _ => true
  | _ => true

/-! ## The invariant -/

/-- What has been sent on an open socket while the replay is not over. -/
def ViewerPoint.Sees (state : StreamSession) : ViewerPoint → Prop
  -- Only live messages have been sent.
  | .select | .xrange _ =>
    ∃ live, state.received = state.missed ++ live ∧ state.sent.Sublist live
  -- A reply with entries comes first of all.
  | .replay _ entries => entries = [] ∨ state.sent = [] ∧ entries.Sublist state.received
  | .idle | .returned => True

/-- The sent messages are received ones, in their order. -/
structure InOrder (state : StreamSession) : Prop where
  flow : Flow state
  kept : state.sent.Sublist state.received
  unconnected : state.socket = .unconnected → state.sent = []
  sees : state.socket = .openSocket → state.viewer.Sees state

/-- Before the client connects, nothing is sent. -/
theorem InOrder.initial : InOrder .initial :=
  ⟨.initial, List.Sublist.refl _, fun _ => rfl, nofun⟩

/-- A step of the worker changes nothing that the client has seen. -/
theorem InOrder.frame (order : InOrder state) (flow : Flow next)
    (received : next.received = state.received) (missed : next.missed = state.missed)
    (sent : next.sent = state.sent) (socket : next.socket = state.socket)
    (viewer : next.viewer = state.viewer) : InOrder next where
  flow := flow
  kept := by rw [sent, received]; exact order.kept
  unconnected closed := by rw [sent]; exact order.unconnected (socket ▸ closed)
  sees isOpen := by
    -- What the client sees is said in terms of the five fields alone.
    have sees := order.sees (socket ▸ isOpen)
    unfold ViewerPoint.Sees at sees ⊢
    rw [viewer, received, missed, sent]
    exact sees

/-- A received message is sent behind all others, and no reply with entries is awaited. -/
theorem InOrder.deliver (order : InOrder state) (quiet : joinsQuietly state .deliver = true)
    {message : Message} {rest : List Message}
    (flow : Flow ((state.receive message rest).forward message)) :
    InOrder ((state.receive message rest).forward message) := by
  by_cases isOpen : state.socket = .openSocket
  · refine ⟨flow, ?_, ?_, fun _ => ?_⟩
    · simpa [StreamSession.forward, StreamSession.receive, StreamSession.send, isOpen] using
        order.kept.append_right [message]
    · simp [StreamSession.forward, StreamSession.receive, StreamSession.send, isOpen]
    -- The message joins the live ones, or it comes when nothing will be replayed.
    have sees := order.sees isOpen
    simp only [StreamSession.forward, StreamSession.receive, StreamSession.send, isOpen, if_true]
    unfold ViewerPoint.Sees at sees ⊢
    cases point : state.viewer with
    | select | xrange status =>
      simp only [point] at sees ⊢
      obtain ⟨live, whole, seen⟩ := sees
      exact ⟨live ++ [message], by simp [whole], seen.append_right _⟩
    | replay status entries =>
      cases entries with
      | nil => exact .inl rfl
      | cons first others => simp [joinsQuietly, point, isOpen] at quiet
    | idle | returned => trivial
  · -- Nothing is sent on a socket that is not open.
    refine ⟨flow, ?_, ?_, ?_⟩
    · simpa [StreamSession.forward, StreamSession.receive, StreamSession.send, isOpen] using
        order.kept.trans (List.sublist_append_left _ _)
    · simpa [StreamSession.forward, StreamSession.receive, StreamSession.send, isOpen] using
        order.unconnected
    · simp [StreamSession.forward, StreamSession.receive, StreamSession.send, isOpen]

/-- XRANGE is taken at a moment when its entries are all that the client will have seen. -/
theorem InOrder.xrange (order : InOrder state) (quiet : joinsQuietly state .xrange = true)
    {status : SubmissionStatus} (reading : state.viewer = .xrange status)
    (flow : Flow (state.readStream status)) : InOrder (state.readStream status) := by
  refine ⟨flow, order.kept, order.unconnected, fun isOpen => ?_⟩
  -- The socket is open already when XRANGE reads.
  replace isOpen : state.socket = .openSocket := isOpen
  have sees := order.sees isOpen
  rw [reading] at sees
  obtain ⟨live, whole, seen⟩ := sees
  have joins : state.stream = [] ∨ state.missed = state.log := by
    simpa [joinsQuietly, isOpen] using quiet
  rcases joins with empty | complete
  · exact .inl empty
  -- All messages were missed, so none of them came live.
  have noLive : live = [] := by
    have short := order.flow.received_added.length_le
    rw [whole, ← complete, List.length_append] at short
    exact List.length_eq_zero_iff.mp (by omega)
  have received : state.received = state.log := by rw [whole, noLive, List.append_nil, complete]
  exact .inr ⟨List.sublist_nil.mp (noLive ▸ seen), received ▸ order.flow.stream.sublist⟩

/-- The replay sends its entries to a client that has seen nothing. -/
theorem InOrder.replay (order : InOrder state) {status : SubmissionStatus} {entries : List Message}
    (replies : state.viewer = .replay status entries)
    (flow : Flow (state.finishReplay status entries)) :
    InOrder (state.finishReplay status entries) := by
  -- An open socket is sent the entries, which follow what it has been sent; others nothing.
  refine ⟨flow, ?_, ?_, fun _ => trivial⟩
  · by_cases isOpen : state.socket = .openSocket
    · have sees := order.sees isOpen
      rw [replies] at sees
      rcases sees with empty | ⟨unseen, found⟩
      · simpa [StreamSession.finishReplay, StreamSession.send, isOpen, empty] using order.kept
      · simpa [StreamSession.finishReplay, StreamSession.send, isOpen, unseen] using found
    · simpa [StreamSession.finishReplay, StreamSession.send, isOpen] using order.kept
  · by_cases isOpen : state.socket = .openSocket
    · simp [StreamSession.finishReplay, StreamSession.send, isOpen]
    · simpa [StreamSession.finishReplay, StreamSession.send, isOpen] using order.unconnected

/-- Closing the socket sends nothing. -/
theorem InOrder.closed (order : InOrder state) (flow : Flow next)
    (received : next.received = state.received) (sent : next.sent = state.sent)
    (closes : next.socket = .openSocket → False)
    (unconnected : next.socket = .unconnected → state.socket = .unconnected) : InOrder next where
  flow := flow
  kept := by rw [sent, received]; exact order.kept
  unconnected closed := by rw [sent]; exact order.unconnected (unconnected closed)
  sees isOpen := (closes isOpen).elim

/-- Every step that meets the condition keeps the order. -/
theorem InOrder.step (order : InOrder state) (quiet : joinsQuietly state label = true)
    (stepped : state.step label = some next) : InOrder next := by
  have flow := order.flow.step stepped
  cases StreamSession.step_cases stepped with
  | claim | append | publish | publishCompletion | commit | appendCompletion | expire |
      streamExpires =>
    exact order.frame flow rfl rfl rfl rfl rfl
  | deliver => exact order.deliver quiet flow
  | connect unconnected =>
    -- Everything that was received before is missed.
    have unseen := order.unconnected unconnected
    refine ⟨flow, order.kept, nofun, fun _ => ⟨[], (List.append_nil _).symm, ?_⟩⟩
    rw [unseen]
  | select selecting =>
    refine ⟨flow, order.kept, order.unconnected, fun isOpen => ?_⟩
    have sees := order.sees isOpen
    rw [selecting] at sees
    exact sees
  | xrange reading => exact order.xrange quiet reading flow
  | replay replies => exact order.replay replies flow
  | rejects =>
    exact order.closed flow rfl rfl (state.close_socket_ne _) StreamSession.close_unconnected
  | timer =>
    exact order.closed flow rfl rfl (state.close_socket_ne _) StreamSession.close_unconnected
  | leave => exact order.closed flow rfl rfl nofun nofun

/-- Every run under the condition keeps the order. -/
theorem InOrder.reached {trace : List StreamLabel}
    (run : streamSession.Runs (fun state label => joinsQuietly state label = true) .initial trace
      state) : InOrder state :=
  run.preserves InOrder .initial fun _ _ _ order quiet stepped => order.step quiet stepped

/-! ## The order of the sent messages -/

/-- Where replay and live messages never overlap, a client sees every chunk once and in order. -/
theorem stream_in_order {trace : List StreamLabel}
    (run : streamSession.Runs (fun state label => joinsQuietly state label = true) .initial trace
      state) : (state.sent.map Message.position).Pairwise (· < ·) := by
  have order := InOrder.reached run
  exact order.flow.increasing (order.kept.trans order.flow.received_added.sublist)

/-- A chunk of output. -/
private def printed (text : String) : StreamChunk where
  type := .stdout
  data := text
  timestamp := 0

/-- A client that connects after the first chunk has arrived, and is replayed it before the second. -/
private def joinsBetween : List StreamLabel :=
  [.claim, .append (printed "a") 0, .publish, .deliver, .connect, .select, .xrange, .replay,
    .append (printed "b") 0, .publish, .deliver]

/-- That client sees both chunks, once each. -/
theorem stream_in_order_example :
    ∃ state : StreamSession,
      streamSession.Runs (fun state label => joinsQuietly state label = true) .initial joinsBetween
        state ∧
      state.sent.map Message.position = [0, 1] ∧
      (state.sent.map Message.position).Pairwise (· < ·) := by
  -- The client joins between two chunks, after everything earlier was delivered.
  obtain ⟨state, run, sent⟩ := Machine.runs_of_guardedRun streamSession
    (fun state label => joinsQuietly state label = true) .initial joinsBetween
    (fun state => state.sent.map Message.position) [0, 1] (by decide)
  exact ⟨state, run, sent, stream_in_order run⟩

/-- A client that connects before the first chunk is sent it live, and then again in the replay. -/
theorem stream_repeats_chunk :
    ∃ trace state, streamSession.Runs (fun _ _ => True) .initial trace state ∧
      state.sent = [⟨0, printed "a"⟩, ⟨0, printed "a"⟩] ∧
      ¬ (state.sent.map Message.position).Pairwise (· < ·) := by
  -- The chunk is delivered live during the SELECT, and found again by XRANGE.
  obtain ⟨state, run, sent⟩ := Machine.runs_of_guardedRun streamSession (fun _ _ => True) .initial
    [.claim, .connect, .append (printed "a") 0, .publish, .deliver, .select, .xrange, .replay]
    StreamSession.sent [⟨0, printed "a"⟩, ⟨0, printed "a"⟩] (by decide)
  exact ⟨_, state, run, sent, by rw [sent]; decide⟩

end CodeExecution
