import SechatClient.PipelineExactness

/-!
# Progress of a connection

The channels of a connection are bounded, so its tasks wait for each other.
The writer waits for nothing but the socket, the dispatcher for the writer and
for `orchestrate`, the reader for the dispatcher: no two of them ever wait for
each other.  Every message has a bounded amount of work left, which each step
lowers, so whatever has arrived is handled, answered and written after
finitely many steps in any order.

The tasks end only because of the socket.  What `orchestrate` does with its
ends of the channels does not end them.
-/

namespace SechatClient

open ByteStrings StepSystem

/-! ## The work that is left -/

def ReadPhase.work : ReadPhase → ℕ
  | .forwarding _ => 7
  | _ => 0

def answerWork : Option ClientToServer → ℕ
  | some _ => 3
  | none => 0

def DispatchPhase.work : DispatchPhase → ℕ
  | .reporting _ response => 2 + answerWork response
  | .answering _ => 3
  | _ => 0

def WritePhase.work : WritePhase → ℕ
  | .writing _ => 1
  | _ => 0

def PresencePhase.work : PresencePhase → ℕ
  | .announcing _ rest => 3 * (rest.length + 1)
  | _ => 0

/-- The steps after which everything that has arrived is dealt with. -/
def PipelineState.work (state : PipelineState) : ℕ :=
  8 * state.arrived.length + state.reading.work +
    6 * state.incoming.items.length + state.dispatching.work +
    state.events.items.length + 2 * state.outgoing.items.length +
    state.writing.work + state.presence.work

/-- The item does not end the reader. -/
def WsItem.continues : WsItem → Bool
  | .binary _ => true
  | .other => true
  | _ => false

/-- All tasks run, `orchestrate` listens, and nothing that has arrived ends
the reader. -/
structure Healthy (state : PipelineState) : Prop where
  reading : state.reading ≠ .ended
  dispatching : state.dispatching ≠ .ended
  writing : state.writing ≠ .ended
  presence : state.presence ≠ .ended
  listening : state.listening = true
  arrived : ∀ item ∈ state.arrived, item.continues = true

/-- A step of the connection's own, or of the loop that takes its events; the
socket takes what is written. -/
def PipelineLabel.internal : PipelineLabel → Bool
  | .reads | .forwards | .dispatches _ | .reports | .answers | .fetches
  | .announces _ | .takes => true
  | .writes ok => ok
  | _ => false

section Work

variable {P : Primitives} {messages : Codec Message}
  {blobs : Codec BlobPayload} {server : Codec ServerToClient}
  {wire : Codec ClientToServer} {privkey : KeyType}
  {state next : PipelineState} {label : PipelineLabel}

theorem work_answer (response : Option ClientToServer) :
    (DispatchPhase.answer response).work = answerWork response := by
  cases response <;> rfl

theorem answerWork_le (response : Option ClientToServer) :
    answerWork response ≤ 3 := by
  cases response <;> simp [answerWork]

theorem work_after (result : HandlerResult) :
    (DispatchPhase.after result).work ≤ 5 := by
  have hanswer := answerWork_le result.response
  unfold DispatchPhase.after
  cases result.event with
  | none =>
      rw [work_answer]
      omega
  | some event =>
      simp only [DispatchPhase.work]
      omega

theorem work_encode (wire : Codec ClientToServer) (msg : ClientToServer) :
    (WritePhase.encode wire msg).work ≤ 1 ∧
      WritePhase.encode wire msg ≠ .ended := by
  unfold WritePhase.encode
  split <;> simp [WritePhase.work]

theorem work_announce (rest : List ClientMessage) :
    (PresencePhase.announce rest).work = 3 * rest.length ∧
      PresencePhase.announce rest ≠ .ended := by
  cases rest <;> simp [PresencePhase.announce, PresencePhase.work]

variable (server) in
/-- The reader holds on to what it has read. -/
theorem readItem_work (hreading : state.reading = .receiving)
    {item : WsItem} (hitem : item.continues = true) (rest : List WsItem) :
    ∃ reading, reading.work ≤ 7 ∧ reading ≠ .ended ∧
      state.readItem server item rest = { state with
        arrived := rest
        read := state.read ++ [item]
        reading := reading } := by
  cases item with
  | binary data =>
      cases hparse : parseServerMessage server data with
      | error e =>
          refine ⟨.receiving, by simp [ReadPhase.work], by simp, ?_⟩
          simp [PipelineState.readItem, hparse, ← hreading]
      | ok msg =>
          refine ⟨.forwarding msg, by simp [ReadPhase.work], by simp, ?_⟩
          simp [PipelineState.readItem, hparse]
  | other =>
      refine ⟨.receiving, by simp [ReadPhase.work], by simp, ?_⟩
      simp [PipelineState.readItem, ← hreading]
  | close | failed | finished => contradiction

/-- An internal step keeps the connection healthy and lowers the work. -/
theorem Healthy.step
    (htrans : PipelineTransition P messages blobs server wire privkey state
      label next)
    (hinternal : label.internal = true) (hhealthy : Healthy state) :
    Healthy next ∧ next.work < state.work ∧
      next.read ++ next.arrived = state.read ++ state.arrived := by
  obtain ⟨hreads, hdispatches, hwrites, hpresent, hlistens, hcontinues⟩ :=
    hhealthy
  cases htrans with
  | @read item rest hreading harrived =>
      have hitem : item.continues = true :=
        hcontinues item (by simp [harrived])
      obtain ⟨reading, hwork, hended, heq⟩ :=
        readItem_work server hreading hitem rest
      rw [heq]
      refine ⟨⟨hended, hdispatches, hwrites, hpresent, hlistens, ?_⟩, ?_, ?_⟩
      · intro later hlater
        exact hcontinues later (by simp [harrived, hlater])
      · simp only [PipelineState.work, harrived, List.length_cons]
        omega
      · simp [harrived]
  | forwarded hreading hdispatching hqueue =>
      refine ⟨⟨by simp, hdispatches, hwrites, hpresent, hlistens, hcontinues⟩,
        ?_, rfl⟩
      simp only [PipelineState.work, hqueue, hreading, ReadPhase.work,
        List.length_append, List.length_singleton]
      omega
  | unforwarded hreading hdispatching => exact absurd hdispatching hdispatches
  | @dispatched msg queue env hdispatching hqueue =>
      have hwork := work_after (handleMessage P messages blobs privkey env
        state.handler msg.payload)
      refine ⟨⟨hreads, DispatchPhase.after_ne_ended _, hwrites, hpresent,
        hlistens, hcontinues⟩, ?_, rfl⟩
      simp only [PipelineState.work, hqueue, hdispatching, List.length_cons]
      omega
  | dispatcherEnded env hdispatching hreading => exact absurd hreading hreads
  | @reported event response queue hdispatching hlistening hqueue =>
      refine ⟨⟨hreads, DispatchPhase.answer_ne_ended _, hwrites, hpresent,
        hlistens, hcontinues⟩, ?_, rfl⟩
      have hbefore : state.dispatching.work = 2 + answerWork response := by
        rw [hdispatching]
        rfl
      simp only [PipelineState.work, hqueue, hbefore, work_answer,
        List.length_append, List.length_singleton]
      omega
  | unreported hdispatching hlistening =>
      rw [hlistens] at hlistening
      contradiction
  | answered hdispatching hwriting hqueue =>
      refine ⟨⟨hreads, by simp, hwrites, hpresent, hlistens, hcontinues⟩, ?_,
        rfl⟩
      simp only [PipelineState.work, hqueue, hdispatching,
        DispatchPhase.work, List.length_append, List.length_singleton]
      omega
  | unanswered hdispatching hwriting => exact absurd hwriting hwrites
  | @fetched msg queue hwriting hqueue =>
      obtain ⟨hwork, hended⟩ := work_encode wire msg
      refine ⟨⟨hreads, hdispatches, hended, hpresent, hlistens, hcontinues⟩,
        ?_, rfl⟩
      have hbefore : state.writing.work = 0 := by
        rw [hwriting]
        rfl
      simp only [PipelineState.work, hqueue, hbefore, List.length_cons]
      omega
  | writerEnded hwriting hunsent => exact absurd hunsent.2.1 hdispatches
  | wrote hwriting =>
      refine ⟨⟨hreads, hdispatches, by simp, hpresent, hlistens, hcontinues⟩,
        ?_, rfl⟩
      simp only [PipelineState.work, hwriting, WritePhase.work]
      omega
  | @announced announce rest queue now hpresence hwriting hqueue =>
      obtain ⟨hwork, hended⟩ := work_announce rest
      refine ⟨⟨hreads, hdispatches, hwrites, hended, hlistens, hcontinues⟩,
        ?_, rfl⟩
      have hbefore : state.presence.work = 3 * (rest.length + 1) := by
        rw [hpresence]
        rfl
      simp only [PipelineState.work, hqueue, hbefore, hwork,
        List.length_append, List.length_singleton]
      omega
  | unannounced now hpresence hwriting => exact absurd hwriting hwrites
  | took hlistening hqueue =>
      refine ⟨⟨hreads, hdispatches, hwrites, hpresent, hlistens, hcontinues⟩,
        ?_, rfl⟩
      simp only [PipelineState.work, hqueue, List.length_cons]
      omega
  | arrived | writeFailed | ticked | watched | disconnected | undisconnected
  | submitted | unsubmitted | stoppedListening | released | changed =>
      contradiction

variable (P messages blobs server wire privkey) in
/-- As long as work is left, some task can go on: the writer if it holds a
message, else whoever waits for it, and so on up to the reader. -/
theorem Healthy.exists_step (hhealthy : Healthy state)
    (hwork : state.work ≠ 0) (env : HandlerEnv) (now : Int64) :
    ∃ label, PipelineLabel.internal label = true ∧
      ∃ next, pipelineStep P messages blobs server wire privkey state label =
        some next := by
  have hwrites := hhealthy.writing
  cases hwriting : state.writing with
  | ended => exact absurd hwriting hwrites
  | writing bytes =>
      exact ⟨.writes true, rfl, _, by simp only [pipelineStep, hwriting]; rfl⟩
  | receiving =>
  cases houtgoing : state.outgoing.items with
  | cons msg rest =>
      obtain ⟨queue, hrecv⟩ := BoundedQueue.recv_of_items_eq_cons houtgoing
      exact ⟨.fetches, rfl, _, by
        simp only [pipelineStep, hwriting, PipelineState.fetch, hrecv]; rfl⟩
  | nil =>
  have haccept (source : MessageSource) (msg : ClientToServer) :
      ∃ next, state.accept source msg = some next := by
    obtain ⟨queue, hsend⟩ :=
      BoundedQueue.trySend_of_items_eq_nil (by decide) houtgoing msg
    exact ⟨_, by rw [PipelineState.accept, hsend, Option.map_some]⟩
  cases hpresence : state.presence with
  | ended => exact absurd hpresence hhealthy.presence
  | announcing announce rest =>
      obtain ⟨next, hnext⟩ := haccept .presence (.new announce none now)
      exact ⟨.announces now, rfl, _, by
        simp only [pipelineStep, hpresence, PipelineState.sendAnnounce,
          if_neg hwrites, hnext, Option.map_some]; rfl⟩
  | waiting =>
  cases hevents : state.events.items with
  | cons event rest =>
      obtain ⟨queue, hrecv⟩ := BoundedQueue.recv_of_items_eq_cons hevents
      exact ⟨.takes, rfl, _, by
        simp only [pipelineStep, PipelineState.takeEvent, hhealthy.listening,
          hrecv]; rfl⟩
  | nil =>
  cases hdispatching : state.dispatching with
  | ended => exact absurd hdispatching hhealthy.dispatching
  | reporting event response =>
      obtain ⟨queue, hsend⟩ :=
        BoundedQueue.trySend_of_items_eq_nil (by decide) hevents event
      exact ⟨.reports, rfl, _, by
        simp only [pipelineStep, hdispatching, PipelineState.reportEvent,
          hhealthy.listening, if_true, hsend, Option.map_some]; rfl⟩
  | answering response =>
      obtain ⟨next, hnext⟩ := haccept .dispatcher response
      exact ⟨.answers, rfl, _, by
        simp only [pipelineStep, hdispatching, PipelineState.sendAnswer,
          if_neg hwrites, hnext, Option.map_some]; rfl⟩
  | receiving =>
  cases hincoming : state.incoming.items with
  | cons msg rest =>
      obtain ⟨queue, hrecv⟩ := BoundedQueue.recv_of_items_eq_cons hincoming
      exact ⟨.dispatches env, rfl, _, by
        simp only [pipelineStep, hdispatching, PipelineState.dispatchNext,
          hrecv]; rfl⟩
  | nil =>
  cases hreading : state.reading with
  | ended => exact absurd hreading hhealthy.reading
  | forwarding msg =>
      obtain ⟨queue, hsend⟩ :=
        BoundedQueue.trySend_of_items_eq_nil (by decide) hincoming msg
      exact ⟨.forwards, rfl, _, by
        simp only [pipelineStep, hreading, PipelineState.forward,
          if_neg hhealthy.dispatching, hsend, Option.map_some]; rfl⟩
  | receiving =>
  cases harrived : state.arrived with
  | cons item rest =>
      exact ⟨.reads, rfl, _, by
        simp only [pipelineStep, hreading, harrived]; rfl⟩
  | nil =>
      refine absurd ?_ hwork
      simp [PipelineState.work, hwriting, houtgoing, hpresence, hevents,
        hdispatching, hincoming, hreading, harrived, WritePhase.work,
        PresencePhase.work, DispatchPhase.work, ReadPhase.work]

end Work

/-! ## Everything that has arrived is dealt with -/

section Drained

variable {P : Primitives} {messages : Codec Message}
  {blobs : Codec BlobPayload} {server : Codec ServerToClient}
  {wire : Codec ClientToServer} {privkey : KeyType}
  {handler : HandlerState} {events : BoundedQueue ServerEvent 100}
  {state final : PipelineState}

/-- No step of the connection's own is enabled. -/
def Resting (P : Primitives) (messages : Codec Message)
    (blobs : Codec BlobPayload) (server : Codec ServerToClient)
    (wire : Codec ClientToServer) (privkey : KeyType)
    (state : PipelineState) : Prop :=
  ∀ label, PipelineLabel.internal label = true →
    pipelineStep P messages blobs server wire privkey state label = none

theorem work_of_resting (hhealthy : Healthy state)
    (hresting : Resting P messages blobs server wire privkey state) :
    state.work = 0 := by
  by_contra hwork
  obtain ⟨label, hinternal, next, hstep⟩ := hhealthy.exists_step P messages
    blobs server wire privkey hwork ⟨⟨0, false, Vector.replicate 12 0⟩, 0⟩ 0
  rw [hresting label hinternal] at hstep
  contradiction

/-- Without work left, the connection has done all that the dispatch loop on
its own does with what was received. -/
theorem PipelineInvariant.drained
    (hinv : PipelineInvariant P messages blobs server wire privkey handler
      events state)
    (hhealthy : Healthy state) (hwork : state.work = 0) :
    let run := replay P messages blobs privkey handler events.items state.ops
    state.arrived = [] ∧
      state.handled = messagesOf server state.read ∧
      reports state.taken = reports run.events ∧
      messagesFrom .dispatcher state.accepted = run.answers ∧
      state.written = writeLoop wire (state.accepted.map Prod.snd) := by
  unfold PipelineState.work at hwork
  have harrived : state.arrived = [] :=
    List.eq_nil_of_length_eq_zero (by omega)
  have hincoming : state.incoming.items = [] :=
    List.eq_nil_of_length_eq_zero (by omega)
  have hevents : state.events.items = [] :=
    List.eq_nil_of_length_eq_zero (by omega)
  have houtgoing : state.outgoing.items = [] :=
    List.eq_nil_of_length_eq_zero (by omega)
  have hholding : state.reading.holding = [] := by
    cases hreading : state.reading with
    | forwarding msg => simp [hreading, ReadPhase.work] at hwork
    | receiving | ended => rfl
  have hevent : state.dispatching.event = [] := by
    cases hdispatching : state.dispatching with
    | reporting event response =>
        simp [hdispatching, DispatchPhase.work] at hwork
    | receiving | answering | ended => rfl
  have hresponse : state.dispatching.response = [] := by
    cases hdispatching : state.dispatching with
    | reporting event response =>
        simp [hdispatching, DispatchPhase.work] at hwork
    | answering response => simp [hdispatching, DispatchPhase.work] at hwork
    | receiving | ended => rfl
  have hframe : state.writing.frame = [] := by
    cases hwriting : state.writing with
    | writing bytes => simp [hwriting, WritePhase.work] at hwork
    | receiving | ended => rfl
  have hfailed : state.writeFailed = false := by
    by_contra hnot
    exact hhealthy.writing (hinv.writes.failed (by simpa using hnot))
  refine ⟨harrived, ?_, ?_, ?_, ?_⟩
  · have hexact := hinv.reads.exact (Or.inl hhealthy.reading)
    simpa [PipelineState.inflight, hincoming, hholding] using hexact.symm
  · have hexact := hinv.reported.exact hhealthy.listening
    rw [hinv.reported.channel, hevents, hevent, List.append_nil] at hexact
    rw [hexact]
    exact (List.append_nil _).symm
  · have hexact := hinv.answers.exact hhealthy.dispatching
    rw [hexact, hresponse, List.append_nil]
  · have hexact := hinv.writes.exact hfailed
    rw [hinv.writes.channel, houtgoing, List.append_nil, hexact, hframe,
      List.append_nil]

/-- From every reachable healthy state, the tasks can take only finitely many
steps of their own, in whatever order.  When none of them can go on, every
message that had arrived is handled, its event taken, and its answer
written. -/
theorem connection_drains {before after : List PipelineLabel}
    (hbefore : runFrom (pipelineStep P messages blobs server wire privkey)
      (.initial handler events) before = some state)
    (hhealthy : Healthy state)
    (hafter : runFrom (pipelineStep P messages blobs server wire privkey)
      state after = some final)
    (hinternal : ∀ label ∈ after, PipelineLabel.internal label = true) :
    after.length ≤ state.work ∧
      (Resting P messages blobs server wire privkey final →
        let run := replay P messages blobs privkey handler events.items
          final.ops
        final.handled = messagesOf server (state.read ++ state.arrived) ∧
          reports final.taken = reports run.events ∧
          messagesFrom .dispatcher final.accepted = run.answers ∧
          final.written = writeLoop wire (final.accepted.map Prod.snd)) := by
  have hrun : runFrom (pipelineStep P messages blobs server wire privkey)
      (.initial handler events) (before ++ after) = some final :=
    runFrom_append_eq_some.mpr ⟨state, hbefore, hafter⟩
  obtain ⟨⟨hhealthyFinal, hread⟩, hlength⟩ := length_le_rank_of_run
    (fun next => Healthy next ∧
      next.read ++ next.arrived = state.read ++ state.arrived)
    PipelineState.work
    (fun current label next hcurrent hlabel hstep => by
      obtain ⟨hnext, hlower, hsame⟩ :=
        hcurrent.1.step (pipelineTransition_of_step hstep) hlabel
      exact ⟨⟨hnext, hsame.trans hcurrent.2⟩, hlower⟩)
    ⟨hhealthy, rfl⟩ hinternal hafter
  refine ⟨by omega, fun hresting => ?_⟩
  obtain ⟨harrived, hhandled, hreports, hanswers, hwritten⟩ :=
    (pipelineInvariant_of_run hrun).drained hhealthyFinal
      (work_of_resting hhealthyFinal hresting)
  rw [harrived, List.append_nil] at hread
  exact ⟨hread ▸ hhandled, hreports, hanswers, hwritten⟩

/-- A stranger's call, dealt with in six steps. -/
def sampleDrainSteps : List PipelineLabel :=
  [.reads, .forwards, .dispatches ⟨⟨1001, false, Vector.replicate 12 0⟩, 1001⟩,
    .answers, .fetches, .writes true]

def sampleArrived : PipelineState :=
  { PipelineState.initial ⟨∅, [], none⟩ .empty with
    arrived := [.binary (transparentServer.bytesOf sampleCall)] }

theorem sampleArrived_healthy : Healthy sampleArrived where
  reading := by decide
  dispatching := by decide
  writing := by decide
  presence := by decide
  listening := rfl
  arrived := by decide

theorem sampleDrainSteps_rest :
    ∃ final,
      runFrom sampleConnectionStep sampleArrived sampleDrainSteps =
        some final ∧
      Resting .transparent transparentMessages transparentBlobs
        transparentServer transparentWire (sampleKeys 3).x25519Priv final := by
  refine ⟨_, rfl, ?_⟩
  intro label hinternal
  cases label with
  | writes ok =>
      cases hinternal
      rfl
  | reads | forwards | dispatches | reports | answers | fetches | announces
  | takes => rfl
  | arrives | presenceTick | watches | disconnects | submits | stopsListening
  | releases | othersChange => contradiction

theorem sample_connection_drains :
    ∃ final,
      runFrom sampleConnectionStep sampleArrived sampleDrainSteps =
        some final ∧
      sampleDrainSteps.length ≤ sampleArrived.work ∧
      final.written =
        writeLoop transparentWire (final.accepted.map Prod.snd) := by
  obtain ⟨final, hrun, hresting⟩ := sampleDrainSteps_rest
  have hbefore : runFrom sampleConnectionStep
      (.initial ⟨∅, [], none⟩ .empty) [.arrives (.binary (transparentServer.bytesOf sampleCall))] =
        some sampleArrived := rfl
  obtain ⟨hlength, hdrained⟩ := connection_drains hbefore
    sampleArrived_healthy hrun (by decide)
  exact ⟨final, hrun, hlength, (hdrained hresting).2.2.2⟩

end Drained

/-! ## The end of a connection -/

section Ended

variable {P : Primitives} {messages : Codec Message}
  {blobs : Codec BlobPayload} {server : Codec ServerToClient}
  {wire : Codec ClientToServer} {privkey : KeyType}
  {handler : HandlerState} {events : BoundedQueue ServerEvent 100}
  {state next final : PipelineState} {label : PipelineLabel}

/-- The stream was closed, failed or ended, or a write failed. -/
def PipelineState.broken (state : PipelineState) : Prop :=
  (∃ item ∈ state.read, item.continues = false) ∨ state.writeFailed = true

/-- Nothing has ended as long as the socket works, and the end is reported
once. -/
structure EndsBySocket (state : PipelineState) : Prop where
  tasks : state.someEnded → state.broken
  watching : state.watching ≠ .waiting → state.broken
  silent : state.watching ≠ .ended → .disconnected ∉ state.queued
  reported : .disconnected ∈ state.queued → state.broken
  once : state.queued.count .disconnected ≤ 1
  event : .disconnected ∉ state.dispatching.event

theorem EndsBySocket.initial (hfresh : .disconnected ∉ events.items) :
    EndsBySocket (.initial handler events) where
  tasks := by simp [PipelineState.someEnded, PipelineState.initial]
  watching := by simp [PipelineState.initial]
  silent := fun _ => hfresh
  reported := fun hmem => absurd hmem hfresh
  once := by
    have hzero : events.items.count .disconnected = 0 :=
      List.count_eq_zero.mpr hfresh
    simp [PipelineState.initial, hzero]
  event := by simp [PipelineState.initial, DispatchPhase.event]

theorem readItem_ended (hreading : state.reading = .receiving)
    (item : WsItem) (rest : List WsItem)
    (hended : (state.readItem server item rest).reading = .ended) :
    item.continues = false := by
  cases item with
  | binary data =>
      simp only [PipelineState.readItem] at hended
      split at hended <;> simp [hreading] at hended
  | other => simp [PipelineState.readItem, hreading] at hended
  | close | failed | finished => rfl

theorem disconnected_not_mem_after (env : HandlerEnv) (msg : ServerMessage) :
    .disconnected ∉ (DispatchPhase.after (handleMessage P messages blobs
      privkey env state.handler msg)).event := by
  rw [DispatchPhase.after_event, ← reports_handleMessage]
  simp [reports]

theorem EndsBySocket.step
    (htrans : PipelineTransition P messages blobs server wire privkey state
      label next)
    (hinv : EndsBySocket state) : EndsBySocket next := by
  obtain ⟨htasks, hwatching, hsilent, hreported, honce, hevent⟩ := hinv
  cases htrans with
  | @read item rest hreading harrived =>
      have hended : (state.readItem server item rest).reading = .ended →
          item.continues = false := readItem_ended hreading item rest
      obtain ⟨reading, _, heq⟩ := readItem_eq hreading item rest
      rw [heq] at hended ⊢
      have hkeep (hbroken : state.broken) : PipelineState.broken
          { state with
            arrived := rest, read := state.read ++ [item],
            reading := reading } := by
        obtain ⟨old, hold, hstops⟩ | hfailed := hbroken
        · exact Or.inl ⟨old, by simp [hold], hstops⟩
        · exact Or.inr hfailed
      refine ⟨?_, fun h => hkeep (hwatching h), hsilent,
        fun h => hkeep (hreported h), honce, hevent⟩
      rintro (hwriting | hreads | hpresence | hdispatching)
      · exact hkeep (htasks (Or.inl hwriting))
      · exact Or.inl ⟨item, by simp, hended hreads⟩
      · exact hkeep (htasks (Or.inr (Or.inr (Or.inl hpresence))))
      · exact hkeep (htasks (Or.inr (Or.inr (Or.inr hdispatching))))
  | forwarded hreading hdispatching hqueue =>
      refine ⟨?_, hwatching, hsilent, hreported, honce, hevent⟩
      rintro (hwriting | hreads | hpresence | hended)
      · exact htasks (Or.inl hwriting)
      · contradiction
      · exact htasks (Or.inr (Or.inr (Or.inl hpresence)))
      · exact absurd hended hdispatching
  | unforwarded hreading hdispatching =>
      have hbroken := htasks (Or.inr (Or.inr (Or.inr hdispatching)))
      exact ⟨fun _ => hbroken, hwatching, hsilent, hreported, honce, hevent⟩
  | dispatched env hdispatching hqueue =>
      refine ⟨?_, hwatching, hsilent, hreported, honce,
        disconnected_not_mem_after env _⟩
      rintro (hwriting | hreads | hpresence | hended)
      · exact htasks (Or.inl hwriting)
      · exact htasks (Or.inr (Or.inl hreads))
      · exact htasks (Or.inr (Or.inr (Or.inl hpresence)))
      · exact absurd hended (DispatchPhase.after_ne_ended _)
  | dispatcherEnded env hdispatching hreading =>
      have hbroken := htasks (Or.inr (Or.inl hreading))
      exact ⟨fun _ => hbroken, hwatching, hsilent, hreported, honce, by
        simp [DispatchPhase.event]⟩
  | @reported event response queue hdispatching hlistening hqueue =>
      have hne : event ≠ .disconnected := by
        rintro rfl
        simp [hdispatching, DispatchPhase.event] at hevent
      refine ⟨?_, hwatching, fun h => ?_, fun h => ?_, ?_, by simp⟩
      · rintro (hwriting | hreads | hpresence | hended)
        · exact htasks (Or.inl hwriting)
        · exact htasks (Or.inr (Or.inl hreads))
        · exact htasks (Or.inr (Or.inr (Or.inl hpresence)))
        · exact absurd hended (DispatchPhase.answer_ne_ended _)
      · simpa [hne.symm] using hsilent h
      · exact hreported (by simpa [hne.symm] using h)
      · simpa [List.count_append, hne] using honce
  | unreported hdispatching =>
      refine ⟨?_, hwatching, hsilent, hreported, honce, by simp⟩
      rintro (hwriting | hreads | hpresence | hended)
      · exact htasks (Or.inl hwriting)
      · exact htasks (Or.inr (Or.inl hreads))
      · exact htasks (Or.inr (Or.inr (Or.inl hpresence)))
      · exact absurd hended (DispatchPhase.answer_ne_ended _)
  | answered hdispatching hwriting hqueue =>
      refine ⟨?_, hwatching, hsilent, hreported, honce, by
        simp [DispatchPhase.event]⟩
      rintro (hended | hreads | hpresence | hends)
      · exact htasks (Or.inl hended)
      · exact htasks (Or.inr (Or.inl hreads))
      · exact htasks (Or.inr (Or.inr (Or.inl hpresence)))
      · contradiction
  | unanswered hdispatching hwriting =>
      have hbroken := htasks (Or.inl hwriting)
      exact ⟨fun _ => hbroken, hwatching, hsilent, hreported, honce, by
        simp [DispatchPhase.event]⟩
  | @fetched msg queue hwriting hqueue =>
      refine ⟨?_, hwatching, hsilent, hreported, honce, hevent⟩
      rintro (hended | hrest)
      · exact absurd hended (work_encode wire msg).2
      · exact htasks (Or.inr hrest)
  | writerEnded hwriting hunsent =>
      have hbroken := htasks (Or.inr (Or.inr (Or.inr hunsent.2.1)))
      exact ⟨fun _ => hbroken, hwatching, hsilent, hreported, honce, hevent⟩
  | wrote hwriting =>
      refine ⟨?_, hwatching, hsilent, hreported, honce, hevent⟩
      rintro (hended | hrest)
      · contradiction
      · exact htasks (Or.inr hrest)
  | writeFailed hwriting =>
      have hbroken : PipelineState.broken
          { state with writing := .ended, writeFailed := true } := Or.inr rfl
      exact ⟨fun _ => hbroken, fun _ => hbroken, hsilent, fun _ => hbroken,
        honce, hevent⟩
  | ticked timestamp hpresence =>
      refine ⟨?_, hwatching, hsilent, hreported, honce, hevent⟩
      rintro (hwriting | hreads | hended | hdispatching)
      · exact htasks (Or.inl hwriting)
      · exact htasks (Or.inr (Or.inl hreads))
      · exact absurd hended (work_announce _).2
      · exact htasks (Or.inr (Or.inr (Or.inr hdispatching)))
  | announced now hpresence hwriting hqueue =>
      refine ⟨?_, hwatching, hsilent, hreported, honce, hevent⟩
      rintro (hended | hreads | hends | hdispatching)
      · exact htasks (Or.inl hended)
      · exact htasks (Or.inr (Or.inl hreads))
      · exact absurd hends (work_announce _).2
      · exact htasks (Or.inr (Or.inr (Or.inr hdispatching)))
  | unannounced now hpresence hwriting =>
      have hbroken := htasks (Or.inl hwriting)
      exact ⟨fun _ => hbroken, hwatching, hsilent, hreported, honce, hevent⟩
  | watched hwaiting hended =>
      have hbroken := htasks hended
      exact ⟨htasks, fun _ => hbroken, fun _ => hsilent (by simp [hwaiting]),
        hreported, honce, hevent⟩
  | disconnected hreporting hlistening hqueue =>
      have hbroken := hwatching (by simp [hreporting])
      have hnone : state.queued.count .disconnected = 0 :=
        List.count_eq_zero.mpr (hsilent (by simp [hreporting]))
      refine ⟨htasks, fun _ => hbroken, fun h => ?_, fun _ => hbroken, ?_,
        hevent⟩
      · contradiction
      · rw [List.count_append, hnone]
        simp
  | undisconnected hreporting =>
      have hbroken := hwatching (by simp [hreporting])
      refine ⟨htasks, fun _ => hbroken, fun h => ?_, hreported, honce, hevent⟩
      contradiction
  | arrived | took | submitted | unsubmitted | stoppedListening | released
  | changed =>
      exact ⟨htasks, hwatching, hsilent, hreported, honce, hevent⟩

/-- A task of a connection ends only after its socket has: whatever
`orchestrate` does with its ends of the channels, all tasks go on until the
stream ends or a write fails.  Only then is `Disconnected` reported, and at
most once. -/
theorem connection_ends_by_socket {labels : List PipelineLabel}
    (hfresh : .disconnected ∉ events.items)
    (hrun : runFrom (pipelineStep P messages blobs server wire privkey)
      (.initial handler events) labels = some final) :
    (final.someEnded ∨ .disconnected ∈ final.queued → final.broken) ∧
      final.queued.count .disconnected ≤ 1 := by
  have hinv : EndsBySocket final := runFrom_invariant EndsBySocket
    (fun _ _ _ hinv hstep => hinv.step (pipelineTransition_of_step hstep))
    (EndsBySocket.initial hfresh) hrun
  refine ⟨?_, hinv.once⟩
  rintro (hended | hreported)
  · exact hinv.tasks hended
  · exact hinv.reported hreported

/-- The server closes the connection. -/
def sampleCloseRun : List PipelineLabel :=
  [.arrives .close, .reads, .watches, .disconnects, .takes]

theorem sampleCloseRun_taken :
    ∃ final,
      runFrom sampleConnectionStep (.initial ⟨∅, [], none⟩ .empty)
        sampleCloseRun = some final ∧
      final.taken = [.disconnected] := by
  refine ⟨_, rfl, ?_⟩
  rfl

theorem sample_connection_ends_once :
    ∃ final,
      runFrom sampleConnectionStep (.initial ⟨∅, [], none⟩ .empty)
        sampleCloseRun = some final ∧
      final.taken = [.disconnected] ∧
      final.queued.count .disconnected ≤ 1 := by
  obtain ⟨final, hrun, htaken⟩ := sampleCloseRun_taken
  have hends := connection_ends_by_socket (by simp) hrun
  exact ⟨final, hrun, htaken, hends.2⟩

end Ended

end SechatClient
