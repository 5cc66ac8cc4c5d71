import SechatClient.ConnectionPipeline
import SechatClient.PresenceFlow

/-!
# The connection as one dispatch loop

However the tasks of a connection interleave, and whenever one of them ends,
the connection does what the dispatch loop does on its own: the messages are
handled in the order they were received, the events reach `orchestrate` in the
order of the messages, and the answers are written in that order too, among
the announcements and whatever else the client sends.
-/

namespace SechatClient

open ByteStrings StepSystem

/-! ## What the records stand for -/

/-- The message in an item; what does not decode is skipped. -/
def WsItem.message (server : Codec ServerToClient) :
    WsItem → Option ServerMessage
  | .binary data =>
      (parseServerMessage server data).toOption.map ServerToClient.payload
  | _ => none

def messagesOf (server : Codec ServerToClient) (items : List WsItem) :
    List ServerMessage :=
  items.filterMap (WsItem.message server)

def HandlerOp.message : HandlerOp → Option ServerMessage
  | .handles msg _ => some msg
  | .others _ => none

/-- Events other than the end of the connection. -/
def reports (events : List ServerEvent) : List ServerEvent :=
  events.filter fun event => decide (event ≠ .disconnected)

def messagesFrom (source : MessageSource)
    (accepted : List (MessageSource × ClientToServer)) : List ClientToServer :=
  (accepted.filter fun sent => decide (sent.1 = source)).map Prod.snd

def ReadPhase.holding : ReadPhase → List ServerMessage
  | .forwarding msg => [msg.payload]
  | _ => []

@[simp] theorem ReadPhase.holding_receiving :
    ReadPhase.receiving.holding = [] := rfl

@[simp] theorem ReadPhase.holding_forwarding (msg : ServerToClient) :
    (ReadPhase.forwarding msg).holding = [msg.payload] := rfl

def DispatchPhase.event : DispatchPhase → List ServerEvent
  | .reporting event _ => [event]
  | _ => []

def DispatchPhase.response : DispatchPhase → List ClientToServer
  | .reporting _ response => response.toList
  | .answering response => [response]
  | _ => []

def WritePhase.frame : WritePhase → List Bytes
  | .writing bytes => [bytes]
  | _ => []

namespace PipelineState

/-- The messages handled so far. -/
def handled (state : PipelineState) : List ServerMessage :=
  state.ops.filterMap HandlerOp.message

/-- The messages between the reader and the dispatcher. -/
def inflight (state : PipelineState) : List ServerMessage :=
  state.incoming.items.map ServerToClient.payload ++ state.reading.holding

end PipelineState

section Replay

variable (P : Primitives) (messages : Codec Message)
  (blobs : Codec BlobPayload) (privkey : KeyType)

def replayOp (run : DispatchRun) : HandlerOp → DispatchRun
  | .handles msg env => dispatch P messages blobs privkey run (msg, env)
  | .others handler => { run with state := handler }

/-- The dispatch loop on its own, over the same messages and changes. -/
def replay (handler : HandlerState) (events : List ServerEvent)
    (ops : List HandlerOp) : DispatchRun :=
  ops.foldl (replayOp P messages blobs privkey) ⟨handler, events, [], []⟩

variable {P messages blobs privkey}

@[simp] theorem replay_append_singleton
    (handler : HandlerState) (events : List ServerEvent)
    (ops : List HandlerOp) (op : HandlerOp) :
    replay P messages blobs privkey handler events (ops ++ [op]) =
      replayOp P messages blobs privkey
        (replay P messages blobs privkey handler events ops) op := by
  simp [replay]

end Replay

/-! ## Small facts about the records -/

section Records

variable {server : Codec ServerToClient}

theorem messagesOf_append (items : List WsItem) (item : WsItem) :
    messagesOf server (items ++ [item]) =
      messagesOf server items ++ (item.message server).toList := by
  cases hmessage : item.message server <;>
    simp [messagesOf, List.filterMap_append, hmessage]

theorem reports_append (first second : List ServerEvent) :
    reports (first ++ second) = reports first ++ reports second :=
  List.filter_append first second

theorem messagesFrom_append (source : MessageSource)
    (accepted : List (MessageSource × ClientToServer))
    (sent : MessageSource × ClientToServer) :
    messagesFrom source (accepted ++ [sent]) =
      messagesFrom source accepted ++
        (if sent.1 = source then [sent.2] else []) := by
  by_cases hsource : sent.1 = source <;>
    simp [messagesFrom, List.filter_append, hsource]

theorem writeLoop_append (wire : Codec ClientToServer)
    (first second : List ClientToServer) :
    writeLoop wire (first ++ second) =
      writeLoop wire first ++ writeLoop wire second :=
  List.filterMap_append

@[simp] theorem DispatchPhase.answer_event
    (response : Option ClientToServer) :
    (DispatchPhase.answer response).event = [] := by
  cases response <;> rfl

@[simp] theorem DispatchPhase.answer_response
    (response : Option ClientToServer) :
    (DispatchPhase.answer response).response = response.toList := by
  cases response <;> rfl

theorem DispatchPhase.answer_ne_ended (response : Option ClientToServer) :
    DispatchPhase.answer response ≠ .ended := by
  cases response <;> simp [DispatchPhase.answer]

@[simp] theorem DispatchPhase.after_event (result : HandlerResult) :
    (DispatchPhase.after result).event = result.event.toList := by
  unfold DispatchPhase.after
  cases result.event with
  | none => exact DispatchPhase.answer_event _
  | some event => rfl

@[simp] theorem DispatchPhase.after_response (result : HandlerResult) :
    (DispatchPhase.after result).response = result.response.toList := by
  unfold DispatchPhase.after
  cases result.event with
  | none => exact DispatchPhase.answer_response _
  | some event => rfl

theorem DispatchPhase.after_ne_ended (result : HandlerResult) :
    DispatchPhase.after result ≠ .ended := by
  unfold DispatchPhase.after
  cases result.event with
  | none => exact DispatchPhase.answer_ne_ended _
  | some event => simp

/-- The handler never reports the end of the connection. -/
theorem reports_handleMessage (P : Primitives) (messages : Codec Message)
    (blobs : Codec BlobPayload) (privkey : KeyType) (env : HandlerEnv)
    (state : HandlerState) (msg : ServerMessage) :
    reports (handleMessage P messages blobs privkey env state msg).event.toList
      = (handleMessage P messages blobs privkey env state msg).event.toList := by
  cases msg with
  | pendingBlob blobId blob timestamp =>
      simp only [handleMessage, processBlob]
      split
      next => rfl
      next payload _ =>
        obtain hnone | ⟨hash, hsome⟩ := handleBlob_event_cases P messages
          state.peers privkey env.blob payload
        · rw [hnone]
          rfl
        · rw [hsome]
          rfl
  | peerOnline hash ipPort =>
      simp only [handleMessage]
      split <;> rfl
  | pendingBlobsEnd | peerOffline | punchHole | authOk | authFailed | error
  | requestHolePunch | requestDenied | relayData => rfl

end Records

/-! ## The invariants -/

section Invariants

variable (P : Primitives) (messages : Codec Message)
  (blobs : Codec BlobPayload) (server : Codec ServerToClient)
  (wire : Codec ClientToServer) (privkey : KeyType)

/-- What has been read is handled or on its way, as long as the dispatcher or
the reader runs. -/
structure HandlesRead (state : PipelineState) : Prop where
  order : state.handled <+: messagesOf server state.read
  exact : state.reading ≠ .ended ∨ state.dispatching ≠ .ended →
    messagesOf server state.read = state.handled ++ state.inflight

/-- The stores are those of the dispatch loop on its own. -/
def ReplaysStores (handler : HandlerState) (events : List ServerEvent)
    (state : PipelineState) : Prop :=
  (replay P messages blobs privkey handler events state.ops).state =
    state.handler

/-- The events of the dispatch loop are in the channel, as long as somebody
listens, and those taken are its first. -/
structure ReportsEvents (handler : HandlerState) (events : List ServerEvent)
    (state : PipelineState) : Prop where
  channel : state.queued = state.taken ++ state.events.items
  order : reports state.queued <+:
    reports (replay P messages blobs privkey handler events state.ops).events
  exact : state.listening = true →
    reports (replay P messages blobs privkey handler events state.ops).events =
      reports state.queued ++ reports state.dispatching.event

/-- The answers of the dispatch loop go to the writer in their order. -/
structure SendsAnswers (handler : HandlerState) (events : List ServerEvent)
    (state : PipelineState) : Prop where
  order : messagesFrom .dispatcher state.accepted <+:
    (replay P messages blobs privkey handler events state.ops).answers
  exact : state.dispatching ≠ .ended →
    (replay P messages blobs privkey handler events state.ops).answers =
      messagesFrom .dispatcher state.accepted ++ state.dispatching.response

/-- What the writer accepted is written in its order. -/
structure WritesAccepted (state : PipelineState) : Prop where
  channel : state.accepted.map Prod.snd =
    state.fetched ++ state.outgoing.items
  order : state.written <+: writeLoop wire state.fetched
  exact : state.writeFailed = false →
    writeLoop wire state.fetched = state.written ++ state.writing.frame
  failed : state.writeFailed = true → state.writing = .ended

end Invariants

section Steps

variable {P : Primitives} {messages : Codec Message}
  {blobs : Codec BlobPayload} {server : Codec ServerToClient}
  {wire : Codec ClientToServer} {privkey : KeyType}
  {handler : HandlerState} {events : List ServerEvent}
  {state next : PipelineState} {label : PipelineLabel}

theorem HandlesRead.of_exact
    (hexact : messagesOf server state.read = state.handled ++ state.inflight) :
    HandlesRead server state where
  order := ⟨state.inflight, hexact.symm⟩
  exact := fun _ => hexact

/-- An item changes the reader only, which then holds the message in it. -/
theorem readItem_eq (hreading : state.reading = .receiving)
    (item : WsItem) (rest : List WsItem) :
    ∃ reading, reading.holding = (item.message server).toList ∧
      state.readItem server item rest = { state with
        arrived := rest
        read := state.read ++ [item]
        reading := reading } := by
  cases item with
  | binary data =>
      cases hparse : parseServerMessage server data with
      | error e =>
          refine ⟨.receiving, ?_, ?_⟩
          · simp [WsItem.message, hparse, ReadPhase.holding, Except.toOption]
          · simp [PipelineState.readItem, hparse, ← hreading]
      | ok msg =>
          refine ⟨.forwarding msg, ?_, ?_⟩
          · simp [WsItem.message, hparse, ReadPhase.holding, Except.toOption]
          · simp [PipelineState.readItem, hparse]
  | other =>
      refine ⟨.receiving, rfl, ?_⟩
      simp [PipelineState.readItem, ← hreading]
  | close | failed | finished => exact ⟨.ended, rfl, rfl⟩

theorem HandlesRead.readItem (hinv : HandlesRead server state)
    (hreading : state.reading = .receiving) (item : WsItem)
    (rest : List WsItem) :
    HandlesRead server (state.readItem server item rest) := by
  obtain ⟨reading, hholding, heq⟩ :=
    readItem_eq hreading item rest
  rw [heq]
  apply HandlesRead.of_exact
  have hexact := hinv.exact (Or.inl (by simp [hreading]))
  rw [PipelineState.inflight, hreading] at hexact
  rw [messagesOf_append, hexact, PipelineState.inflight, hholding]
  simp [PipelineState.handled]

theorem HandlesRead.step
    (htrans : PipelineTransition P messages blobs server wire privkey state
      label next)
    (hinv : HandlesRead server state) : HandlesRead server next := by
  cases htrans with
  | read hreading harrived => exact hinv.readItem hreading _ _
  | @forwarded msg queue hreading hdispatching hqueue =>
      apply HandlesRead.of_exact
      have hexact := hinv.exact (Or.inr hdispatching)
      simpa [PipelineState.inflight, PipelineState.handled, hreading, hqueue]
        using hexact
  | unforwarded hreading hdispatching =>
      refine ⟨hinv.order, fun hrunning => ?_⟩
      simp [hdispatching] at hrunning
  | @dispatched msg queue env hdispatching hqueue =>
      apply HandlesRead.of_exact
      have hexact := hinv.exact (Or.inr (by simp [hdispatching]))
      simpa [PipelineState.inflight, PipelineState.handled, hqueue,
        HandlerOp.message] using hexact
  | dispatcherEnded env hdispatching hreading =>
      have hexact := hinv.exact (Or.inr (by simp [hdispatching]))
      exact HandlesRead.of_exact hexact
  | reported hdispatching | unreported hdispatching | answered hdispatching
  | unanswered hdispatching =>
      have hexact := hinv.exact (Or.inr (by simp [hdispatching]))
      exact HandlesRead.of_exact hexact
  | changed handler =>
      have hothers : (HandlerOp.others handler).message = none := rfl
      refine ⟨?_, fun hrunning => ?_⟩
      · simpa [PipelineState.handled, hothers] using hinv.order
      · have hexact := hinv.exact hrunning
        simpa [PipelineState.inflight, PipelineState.handled, hothers]
          using hexact
  | arrived | fetched | writerEnded | wrote | writeFailed | ticked | announced
  | unannounced | watched | disconnected | undisconnected | took | submitted
  | unsubmitted | stoppedListening | released =>
      exact ⟨hinv.order, hinv.exact⟩

theorem ReplaysStores.step
    (htrans : PipelineTransition P messages blobs server wire privkey state
      label next)
    (hinv : ReplaysStores P messages blobs privkey handler events state) :
    ReplaysStores P messages blobs privkey handler events next := by
  unfold ReplaysStores at hinv ⊢
  cases htrans with
  | dispatched env hdispatching hqueue =>
      rw [replay_append_singleton, replayOp, dispatch, hinv]
  | changed handler =>
      rw [replay_append_singleton, replayOp]
  | read hreading harrived =>
      obtain ⟨reading, _, heq⟩ := readItem_eq hreading _ _
      rw [heq]
      exact hinv
  | arrived | forwarded | unforwarded | dispatcherEnded | reported | unreported
  | answered | unanswered | fetched | writerEnded | wrote | writeFailed
  | ticked | announced | unannounced | watched | disconnected
  | undisconnected | took | submitted | unsubmitted | stoppedListening
  | released => exact hinv

theorem ReportsEvents.step
    (htrans : PipelineTransition P messages blobs server wire privkey state
      label next)
    (hstores : ReplaysStores P messages blobs privkey handler events state)
    (hinv : ReportsEvents P messages blobs privkey handler events state) :
    ReportsEvents P messages blobs privkey handler events next := by
  cases htrans with
  | read hreading harrived =>
      obtain ⟨reading, _, heq⟩ := readItem_eq hreading _ _
      rw [heq]
      exact ⟨hinv.channel, hinv.order, hinv.exact⟩
  | @dispatched msg queue env hdispatching hqueue =>
      have hevents : (replay P messages blobs privkey handler events
          (state.ops ++ [.handles msg.payload env])).events =
            (replay P messages blobs privkey handler events state.ops).events
              ++ (handleMessage P messages blobs privkey env state.handler
                msg.payload).event.toList := by
        rw [replay_append_singleton, replayOp, dispatch, hstores]
      refine ⟨hinv.channel, ?_, fun hlistening => ?_⟩
      · rw [hevents, reports_append]
        exact hinv.order.trans (List.prefix_append _ _)
      · have hexact := hinv.exact hlistening
        have hnone : reports DispatchPhase.receiving.event = [] := rfl
        rw [hdispatching, hnone, List.append_nil] at hexact
        rw [hevents, reports_append, hexact, DispatchPhase.after_event]
  | reported hdispatching hlistening hqueue =>
      have hexact := hinv.exact hlistening
      rw [hdispatching, DispatchPhase.event, ← reports_append] at hexact
      refine ⟨?_, ?_, fun _ => ?_⟩
      · rw [hinv.channel, hqueue, List.append_assoc]
      · rw [hexact]
      · rw [hexact, DispatchPhase.answer_event]
        simp [reports]
  | unreported hdispatching hlistening =>
      refine ⟨hinv.channel, hinv.order, fun hother => ?_⟩
      simp [hlistening] at hother
  | dispatcherEnded env hdispatching | answered hdispatching
  | unanswered hdispatching =>
      refine ⟨hinv.channel, hinv.order, fun hlistening => ?_⟩
      have hexact := hinv.exact hlistening
      rw [hdispatching] at hexact
      exact hexact
  | disconnected hwatching hlistening hqueue =>
      have hreports : reports (state.queued ++ [.disconnected]) =
          reports state.queued := by
        simp [reports]
      refine ⟨?_, ?_, fun _ => ?_⟩
      · rw [hinv.channel, hqueue, List.append_assoc]
      · rw [hreports]
        exact hinv.order
      · rw [hreports]
        exact hinv.exact hlistening
  | took hlistening hqueue =>
      refine ⟨?_, hinv.order, hinv.exact⟩
      rw [hinv.channel, hqueue]
      simp
  | stoppedListening =>
      refine ⟨hinv.channel, hinv.order, fun hlistening => ?_⟩
      contradiction
  | changed handler =>
      refine ⟨hinv.channel, ?_, ?_⟩
      · simpa [replayOp] using hinv.order
      · simpa [replayOp] using hinv.exact
  | arrived | forwarded | unforwarded | fetched | writerEnded | wrote
  | writeFailed | ticked | announced | unannounced | watched | undisconnected
  | submitted | unsubmitted | released =>
      exact ⟨hinv.channel, hinv.order, hinv.exact⟩

theorem SendsAnswers.step
    (htrans : PipelineTransition P messages blobs server wire privkey state
      label next)
    (hstores : ReplaysStores P messages blobs privkey handler events state)
    (hinv : SendsAnswers P messages blobs privkey handler events state) :
    SendsAnswers P messages blobs privkey handler events next := by
  cases htrans with
  | read hreading harrived =>
      obtain ⟨reading, _, heq⟩ := readItem_eq hreading _ _
      rw [heq]
      exact ⟨hinv.order, hinv.exact⟩
  | @dispatched msg queue env hdispatching hqueue =>
      have hanswers : (replay P messages blobs privkey handler events
          (state.ops ++ [.handles msg.payload env])).answers =
            (replay P messages blobs privkey handler events state.ops).answers
              ++ (handleMessage P messages blobs privkey env state.handler
                msg.payload).response.toList := by
        rw [replay_append_singleton, replayOp, dispatch, hstores]
      have hexact := hinv.exact (by simp [hdispatching])
      have hnone : DispatchPhase.receiving.response = [] := rfl
      rw [hdispatching, hnone, List.append_nil] at hexact
      refine ⟨?_, fun _ => ?_⟩
      · rw [hanswers]
        exact hinv.order.trans (List.prefix_append _ _)
      · rw [hanswers, hexact, DispatchPhase.after_response]
  | dispatcherEnded =>
      refine ⟨hinv.order, fun hrunning => ?_⟩
      contradiction
  | reported hdispatching | unreported hdispatching =>
      have hexact := hinv.exact (by simp [hdispatching])
      rw [hdispatching] at hexact
      refine ⟨hinv.order, fun _ => ?_⟩
      rw [hexact, DispatchPhase.answer_response]
      rfl
  | @answered response queue hdispatching hwriting hqueue =>
      have hexact := hinv.exact (by simp [hdispatching])
      rw [hdispatching, DispatchPhase.response] at hexact
      have hsent : messagesFrom .dispatcher
          (state.accepted ++ [(.dispatcher, response)]) =
            messagesFrom .dispatcher state.accepted ++ [response] := by
        rw [messagesFrom_append, if_pos rfl]
      refine ⟨?_, fun _ => ?_⟩
      · rw [hsent, hexact]
      · rw [hsent, hexact]
        simp [DispatchPhase.response]
  | unanswered =>
      refine ⟨hinv.order, fun hrunning => ?_⟩
      contradiction
  | announced | submitted =>
      refine ⟨?_, fun hrunning => ?_⟩
      · rw [messagesFrom_append, if_neg (by simp), List.append_nil]
        exact hinv.order
      · rw [messagesFrom_append, if_neg (by simp), List.append_nil]
        exact hinv.exact hrunning
  | changed handler =>
      refine ⟨?_, ?_⟩
      · simpa [replayOp] using hinv.order
      · simpa [replayOp] using hinv.exact
  | arrived | forwarded | unforwarded | fetched | writerEnded | wrote
  | writeFailed | ticked | unannounced | watched | disconnected
  | undisconnected | took | unsubmitted | stoppedListening | released =>
      exact ⟨hinv.order, hinv.exact⟩

theorem WritesAccepted.accept (hinv : WritesAccepted wire state)
    {queue : BoundedQueue ClientToServer 100} {source : MessageSource}
    {msg : ClientToServer}
    (hqueue : queue.items = state.outgoing.items ++ [msg]) :
    (state.accepted ++ [(source, msg)]).map Prod.snd =
      state.fetched ++ queue.items := by
  rw [hqueue, List.map_append, hinv.channel]
  simp

theorem WritesAccepted.step
    (htrans : PipelineTransition P messages blobs server wire privkey state
      label next)
    (hinv : WritesAccepted wire state) : WritesAccepted wire next := by
  cases htrans with
  | read hreading harrived =>
      obtain ⟨reading, _, heq⟩ := readItem_eq hreading _ _
      rw [heq]
      exact ⟨hinv.channel, hinv.order, hinv.exact, hinv.failed⟩
  | answered _ _ hqueue | announced _ _ _ hqueue | submitted _ _ hqueue =>
      exact ⟨hinv.accept hqueue, hinv.order, hinv.exact, hinv.failed⟩
  | @fetched msg queue hwriting hqueue =>
      have hencoded : writeLoop wire [msg] =
          (WritePhase.encode wire msg).frame := by
        unfold WritePhase.encode
        cases hvec : wire.toVec msg <;>
          simp [writeLoop, hvec, WritePhase.frame, Except.toOption]
      refine ⟨?_, ?_, fun hfailed => ?_, fun hfailed => ?_⟩
      · rw [hinv.channel, hqueue]
        simp
      · rw [writeLoop_append]
        exact hinv.order.trans (List.prefix_append _ _)
      · have hexact := hinv.exact hfailed
        rw [hwriting] at hexact
        rw [writeLoop_append, hexact, hencoded]
        simp [WritePhase.frame]
      · have hended := hinv.failed hfailed
        simp [hwriting] at hended
  | writerEnded hwriting =>
      refine ⟨hinv.channel, hinv.order, fun hfailed => ?_, fun _ => rfl⟩
      have hexact := hinv.exact hfailed
      rw [hwriting] at hexact
      exact hexact
  | @wrote bytes hwriting =>
      have hfailed : state.writeFailed = false := by
        by_contra hnot
        have hended := hinv.failed (by simpa using hnot)
        simp [hwriting] at hended
      have hexact := hinv.exact hfailed
      rw [hwriting, WritePhase.frame] at hexact
      refine ⟨hinv.channel, ?_, fun _ => ?_, fun hother => ?_⟩
      · rw [hexact]
      · rw [hexact]
        simp [WritePhase.frame]
      · simp [hfailed] at hother
  | writeFailed =>
      refine ⟨hinv.channel, hinv.order, fun hfailed => ?_, fun _ => rfl⟩
      contradiction
  | arrived | forwarded | unforwarded | dispatched | dispatcherEnded
  | reported | unreported | unanswered | ticked | unannounced | watched
  | disconnected | undisconnected | took | unsubmitted | stoppedListening
  | released | changed =>
      exact ⟨hinv.channel, hinv.order, hinv.exact, hinv.failed⟩

end Steps

/-! ## Runs -/

section Runs

variable (P : Primitives) (messages : Codec Message)
  (blobs : Codec BlobPayload) (server : Codec ServerToClient)
  (wire : Codec ClientToServer) (privkey : KeyType)
  (handler : HandlerState) (events : BoundedQueue ServerEvent 100)

/-- What holds of a connection at any time. -/
structure PipelineInvariant (state : PipelineState) : Prop where
  reads : HandlesRead server state
  stores : ReplaysStores P messages blobs privkey handler events.items state
  reported : ReportsEvents P messages blobs privkey handler events.items state
  answers : SendsAnswers P messages blobs privkey handler events.items state
  writes : WritesAccepted wire state

theorem PipelineInvariant.initial :
    PipelineInvariant P messages blobs server wire privkey handler events
      (.initial handler events) where
  reads := ⟨List.prefix_rfl, fun _ => rfl⟩
  stores := rfl
  reported := ⟨rfl, List.prefix_rfl, fun _ => (List.append_nil _).symm⟩
  answers := ⟨List.prefix_rfl, fun _ => rfl⟩
  writes := ⟨rfl, List.prefix_rfl, fun _ => rfl, fun hfailed => by
    contradiction⟩

variable {P messages blobs server wire privkey handler events}

theorem PipelineInvariant.step {state next : PipelineState}
    {label : PipelineLabel}
    (hinv : PipelineInvariant P messages blobs server wire privkey handler
      events state)
    (hstep : pipelineStep P messages blobs server wire privkey state label =
      some next) :
    PipelineInvariant P messages blobs server wire privkey handler events
      next where
  reads := hinv.reads.step (pipelineTransition_of_step hstep)
  stores := hinv.stores.step (pipelineTransition_of_step hstep)
  reported := hinv.reported.step (pipelineTransition_of_step hstep) hinv.stores
  answers := hinv.answers.step (pipelineTransition_of_step hstep) hinv.stores
  writes := hinv.writes.step (pipelineTransition_of_step hstep)

theorem pipelineInvariant_of_run {labels : List PipelineLabel}
    {final : PipelineState}
    (hrun : runFrom (pipelineStep P messages blobs server wire privkey)
      (.initial handler events) labels = some final) :
    PipelineInvariant P messages blobs server wire privkey handler events
      final :=
  runFrom_invariant
    (PipelineInvariant P messages blobs server wire privkey handler events)
    (fun _ _ _ hinv hstep => hinv.step hstep)
    (PipelineInvariant.initial P messages blobs server wire privkey handler
      events) hrun

/-- In every run, whichever tasks have ended by then: the messages handled
are the first of those received, the events taken and the answers accepted are
the first of those which the dispatch loop on its own reports and gives for
them, and what is written is the start of what was accepted, in its order. -/
theorem connection_refines_dispatch_loop {labels : List PipelineLabel}
    {final : PipelineState}
    (hrun : runFrom (pipelineStep P messages blobs server wire privkey)
      (.initial handler events) labels = some final) :
    let run := replay P messages blobs privkey handler events.items final.ops
    final.handled <+: messagesOf server final.read ∧
      run.state = final.handler ∧
      reports final.taken <+: reports run.events ∧
      messagesFrom .dispatcher final.accepted <+: run.answers ∧
      final.written <+: writeLoop wire (final.accepted.map Prod.snd) := by
  have hinv := pipelineInvariant_of_run hrun
  refine ⟨hinv.reads.order, hinv.stores, ?_, hinv.answers.order, ?_⟩
  · refine List.IsPrefix.trans ?_ hinv.reported.order
    rw [hinv.reported.channel, reports_append]
    exact List.prefix_append _ _
  · refine hinv.writes.order.trans ?_
    rw [hinv.writes.channel, writeLoop_append]
    exact List.prefix_append _ _

/-- A stranger asks for a hole punch. -/
def sampleCall : ServerToClient :=
  ⟨.requestHolePunch (Vector.replicate 32 5) (Vector.replicate 32 6), 1000⟩

def sampleRelayed : ServerToClient :=
  ⟨.relayData (Vector.replicate 32 4) [1, 2], 1000⟩

/-- A frame is relayed and a call comes in.  While the frame is reported, the
client sends a frame of its own; the socket fails before the answer to the call
is written. -/
def sampleBusyRun : List PipelineLabel :=
  [.arrives (.binary (transparentServer.bytesOf sampleRelayed)),
    .arrives (.binary (transparentServer.bytesOf sampleCall)),
    .reads, .forwards, .dispatches ⟨⟨1001, false, Vector.replicate 12 0⟩, 1001⟩,
    .reads, .submits ⟨.relayData (Vector.replicate 32 4) [3], 1001⟩, .forwards,
    .reports, .dispatches ⟨⟨1001, false, Vector.replicate 12 0⟩, 1001⟩,
    .fetches, .answers, .takes, .writes true, .fetches, .writes false]

def sampleConnectionStep : PipelineState → PipelineLabel →
    Option PipelineState :=
  pipelineStep .transparent transparentMessages transparentBlobs
    transparentServer transparentWire (sampleKeys 3).x25519Priv

theorem sampleBusyRun_ends :
    ∃ final,
      runFrom sampleConnectionStep (.initial ⟨∅, [], none⟩ .empty)
        sampleBusyRun = some final ∧
      final.read.length = 2 ∧
      final.taken = [.relayData (Vector.replicate 32 4) [1, 2]] ∧
      messagesFrom .dispatcher final.accepted =
        [⟨.requestDenied (Vector.replicate 32 6), 1001⟩] ∧
      final.written = [transparentWire.bytesOf
        ⟨.relayData (Vector.replicate 32 4) [3], 1001⟩] := by
  refine ⟨_, rfl, rfl, rfl, rfl, ?_⟩
  decide

theorem sample_connection_refines :
    ∃ final,
      runFrom sampleConnectionStep (.initial ⟨∅, [], none⟩ .empty)
        sampleBusyRun = some final ∧
      let run := replay .transparent transparentMessages transparentBlobs
        (sampleKeys 3).x25519Priv ⟨∅, [], none⟩ [] final.ops
      reports [.relayData (Vector.replicate 32 4) [1, 2]] <+:
          reports run.events ∧
        [⟨.requestDenied (Vector.replicate 32 6), 1001⟩] <+: run.answers ∧
        [transparentWire.bytesOf
            ⟨.relayData (Vector.replicate 32 4) [3], 1001⟩] <+:
          writeLoop transparentWire (final.accepted.map Prod.snd) := by
  obtain ⟨final, hrun, -, htaken, haccepted, hwritten⟩ :=
    sampleBusyRun_ends
  obtain ⟨-, -, hreports, hanswers, hwrites⟩ :=
    connection_refines_dispatch_loop hrun
  rw [htaken] at hreports
  rw [haccepted] at hanswers
  rw [hwritten] at hwrites
  exact ⟨final, hrun, hreports, hanswers, hwrites⟩

end Runs

end SechatClient
