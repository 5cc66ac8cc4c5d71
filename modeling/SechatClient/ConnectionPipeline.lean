import SechatClient.BoundedQueue
import SechatClient.DispatchLoop
import SechatClient.StepSystem

/-!
# The tasks of one server connection

`run_client` spawns a reader, a dispatcher, a writer and the presence loop,
joins them by bounded channels and reports the first of them that ends as
`Disconnected`.  The steps below are those between two awaits, so that a task
which waits for room in a channel lets the others go on.

`orchestrate` holds the receiver of the events and senders of the outgoing
channel; it can drop either at any time.
-/

namespace SechatClient

open ByteStrings StepSystem

structure ServerToClient where
  payload : ServerMessage
  timestamp : Int64
  deriving DecidableEq

def parseServerMessage (server : Codec ServerToClient) (msg : Bytes) :
    Except ClientErrors ServerToClient :=
  match server.fromSlice msg with
  | .error e => .error (.deserializationFailed e)
  | .ok parsed => .ok parsed

def ServerMessage.transparentFields : ServerMessage → List Bytes
  | .authOk observedAddress => [[0], utf8 observedAddress]
  | .authFailed reason => [[1], utf8 reason]
  | .pendingBlob blobId blob timestamp =>
      [[2], utf8 blobId, blob, i64ToLeBytes timestamp]
  | .peerOnline hash ipPort => [[3], hash.toList, utf8 ipPort]
  | .peerOffline hash => [[4], hash.toList]
  | .punchHole token peerHash ipPort punchtimestamp =>
      [[5], token.toList, peerHash.toList, utf8 ipPort,
        i64ToLeBytes punchtimestamp]
  | .error reason => [[6], utf8 reason]
  | .pendingBlobsEnd => [[7]]
  | .requestHolePunch pubKey token => [[8], pubKey.toList, token.toList]
  | .requestDenied token pubKey .peerDeclined =>
      [[9], token.toList, pubKey.toList, [0]]
  | .requestDenied token pubKey .timeout =>
      [[9], token.toList, pubKey.toList, [1]]
  | .relayData senderHash payload => [[10], senderHash.toList, payload]

def ServerMessage.ofTransparentFields : List Bytes → Option ServerMessage
  | [[0], observedAddress] => (fromUtf8 observedAddress).map .authOk
  | [[1], reason] => (fromUtf8 reason).map .authFailed
  | [[2], blobId, blob, timestamp] =>
      (fromUtf8 blobId).map fun id =>
        .pendingBlob id blob (i64OfLeBytes timestamp)
  | [[3], hash, ipPort] =>
      (fromUtf8 ipPort).map (.peerOnline (arrayOfBytes 32 hash))
  | [[4], hash] => some (.peerOffline (arrayOfBytes 32 hash))
  | [[5], token, peerHash, ipPort, punchtimestamp] =>
      (fromUtf8 ipPort).map fun address =>
        .punchHole (arrayOfBytes 32 token) (arrayOfBytes 32 peerHash) address
          (i64OfLeBytes punchtimestamp)
  | [[6], reason] => (fromUtf8 reason).map .error
  | [[7]] => some .pendingBlobsEnd
  | [[8], pubKey, token] =>
      some (.requestHolePunch (arrayOfBytes 32 pubKey) (arrayOfBytes 32 token))
  | [[9], token, pubKey, [0]] =>
      some (.requestDenied (arrayOfBytes 32 token) (arrayOfBytes 32 pubKey)
        .peerDeclined)
  | [[9], token, pubKey, [1]] =>
      some (.requestDenied (arrayOfBytes 32 token) (arrayOfBytes 32 pubKey)
        .timeout)
  | [[10], senderHash, payload] =>
      some (.relayData (arrayOfBytes 32 senderHash) payload)
  | _ => none

def transparentServer : Codec ServerToClient :=
  Codec.ofFields
    (fun msg => i64ToLeBytes msg.timestamp :: msg.payload.transparentFields)
    (fun
      | timestamp :: payload =>
          (ServerMessage.ofTransparentFields payload).map fun decoded =>
            ⟨decoded, i64OfLeBytes timestamp⟩
      | _ => none)

/-- What `reader.next()` returns; `finished` is the end of the stream. -/
inductive WsItem where
  | binary (data : Bytes)
  | close
  | other
  | failed (reason : String)
  | finished
  deriving DecidableEq

/-! ## The state -/

inductive ReadPhase where
  | receiving
  | forwarding (msg : ServerToClient)
  | ended
  deriving DecidableEq

/-- `reporting` waits for room among the events, and goes on to `answering`
with the response if there is one. -/
inductive DispatchPhase where
  | receiving
  | reporting (event : ServerEvent) (response : Option ClientToServer)
  | answering (response : ClientToServer)
  | ended
  deriving DecidableEq

inductive WritePhase where
  | receiving
  | writing (bytes : Bytes)
  | ended
  deriving DecidableEq

inductive PresencePhase where
  | waiting
  | announcing (next : ClientMessage) (rest : List ClientMessage)
  | ended
  deriving DecidableEq

/-- The task which waits for the first of the others to end. -/
inductive WatchPhase where
  | waiting
  | reporting
  | ended
  deriving DecidableEq

/-- What changed the stores and the address: a handled message, or another
task. -/
inductive HandlerOp where
  | handles (msg : ServerMessage) (env : HandlerEnv)
  | others (handler : HandlerState)

/-- The tasks that send to `write_loop`. -/
inductive MessageSource where
  | dispatcher
  | presence
  | application
  deriving DecidableEq

/-- The lists at the end record the past: the items read, the operations on
the stores, the events put into and taken out of their channel, the messages
accepted by and taken from the outgoing one, and the frames written. -/
structure PipelineState where
  arrived : List WsItem
  reading : ReadPhase
  incoming : BoundedQueue ServerToClient 100
  handler : HandlerState
  dispatching : DispatchPhase
  events : BoundedQueue ServerEvent 100
  listening : Bool
  outgoing : BoundedQueue ClientToServer 100
  held : Bool
  writing : WritePhase
  presence : PresencePhase
  watching : WatchPhase
  read : List WsItem
  ops : List HandlerOp
  queued : List ServerEvent
  taken : List ServerEvent
  accepted : List (MessageSource × ClientToServer)
  fetched : List ClientToServer
  written : List Bytes
  writeFailed : Bool

/-- The state in which `run_client` returns; the events of the handshake are
still in their channel. -/
def PipelineState.initial (handler : HandlerState)
    (events : BoundedQueue ServerEvent 100) : PipelineState where
  arrived := []
  reading := .receiving
  incoming := .empty
  handler := handler
  dispatching := .receiving
  events := events
  listening := true
  outgoing := .empty
  held := true
  writing := .receiving
  presence := .waiting
  watching := .waiting
  read := []
  ops := []
  queued := events.items
  taken := []
  accepted := []
  fetched := []
  written := []
  writeFailed := false

inductive PipelineLabel where
  | arrives (item : WsItem)
  | reads
  | forwards
  | dispatches (env : HandlerEnv)
  | reports
  | answers
  | fetches
  | writes (ok : Bool)
  | presenceTick (timestamp : Int64)
  | announces (now : Int64)
  | watches
  | disconnects
  /-- `orchestrate` takes an event -/
  | takes
  /-- `orchestrate` or a task of its sends a message -/
  | submits (msg : ClientToServer)
  /-- the receiver of the events is dropped -/
  | stopsListening
  /-- the last sender outside the connection is dropped -/
  | releases
  | othersChange (handler : HandlerState)

/-! ## The steps -/

def DispatchPhase.answer : Option ClientToServer → DispatchPhase
  | none => .receiving
  | some response => .answering response

/-- The dispatcher once the message is handled; an error is printed. -/
def DispatchPhase.after (result : HandlerResult) : DispatchPhase :=
  match result.event with
  | none => .answer result.response
  | some event => .reporting event result.response

/-- The writer with a message; what does not serialise is printed. -/
def WritePhase.encode (wire : Codec ClientToServer) (msg : ClientToServer) :
    WritePhase :=
  match wire.toVec msg with
  | .ok bytes => .writing bytes
  | .error _ => .receiving

def PresencePhase.announce : List ClientMessage → PresencePhase
  | [] => .waiting
  | next :: rest => .announcing next rest

namespace PipelineState

variable (P : Primitives) (messages : Codec Message)
  (blobs : Codec BlobPayload) (server : Codec ServerToClient)
  (wire : Codec ClientToServer) (privkey : KeyType) (state : PipelineState)

def readItem (item : WsItem) (rest : List WsItem) : PipelineState :=
  let next := { state with
    arrived := rest
    read := state.read ++ [item] }
  match item with
  | .binary data =>
      match parseServerMessage server data with
      | .ok msg => { next with reading := .forwarding msg }
      | .error _ => next
  | .other => next
  | .close => { next with reading := .ended }
  | .failed _ => { next with reading := .ended }
  | .finished => { next with reading := .ended }

/-- A send to the dispatcher; it fails once the dispatcher has ended. -/
def forward (msg : ServerToClient) : Option PipelineState :=
  if state.dispatching = .ended then
    some { state with reading := .ended }
  else
    (state.incoming.trySend msg).map fun queue =>
      { state with reading := .receiving, incoming := queue }

def dispatchNext (env : HandlerEnv) : Option PipelineState :=
  match state.incoming.recv with
  | some (msg, queue) =>
      let result := handleMessage P messages blobs privkey env state.handler
        msg.payload
      some { state with
        incoming := queue
        handler := result.state
        dispatching := .after result
        ops := state.ops ++ [.handles msg.payload env] }
  | none =>
      if state.reading = .ended then
        some { state with dispatching := .ended }
      else none

/-- The send of an event, whose failure is ignored. -/
def reportEvent (event : ServerEvent) (response : Option ClientToServer) :
    Option PipelineState :=
  if state.listening then
    (state.events.trySend event).map fun queue =>
      { state with
        events := queue
        queued := state.queued ++ [event]
        dispatching := .answer response }
  else
    some { state with dispatching := .answer response }

/-- A message goes to the writer; `none` while there is no room. -/
def accept (source : MessageSource) (msg : ClientToServer) :
    Option PipelineState :=
  (state.outgoing.trySend msg).map fun queue =>
    { state with
      outgoing := queue
      accepted := state.accepted ++ [(source, msg)] }

def sendAnswer (response : ClientToServer) : Option PipelineState :=
  if state.writing = .ended then
    some { state with dispatching := .ended }
  else
    (state.accept .dispatcher response).map fun next =>
      { next with dispatching := .receiving }

/-- The other ends of the outgoing channel are gone. -/
def unsent : Prop :=
  state.held = false ∧ state.dispatching = .ended ∧ state.presence = .ended

instance : Decidable state.unsent :=
  inferInstanceAs (Decidable (_ ∧ _))

def fetch : Option PipelineState :=
  match state.outgoing.recv with
  | some (msg, queue) =>
      some { state with
        outgoing := queue
        fetched := state.fetched ++ [msg]
        writing := .encode wire msg }
  | none => if state.unsent then some { state with writing := .ended } else none

/-- One tick of `presence_refresh_loop`: the announcements to send. -/
def announcements (timestamp : Int64) : List ClientMessage :=
  match state.handler.myAddress, loadPeers P state.handler.peers with
  | some address, .ok peers =>
      peers.map fun peer =>
        generateAnnounceMessage P privkey peer.publicKey timestamp address
  | _, _ => []

def sendAnnounce (now : Int64) (announce : ClientMessage)
    (rest : List ClientMessage) : Option PipelineState :=
  if state.writing = .ended then
    some { state with presence := .ended }
  else
    (state.accept .presence (.new announce none now)).map fun next =>
      { next with presence := .announce rest }

/-- Some task of the connection has ended. -/
def someEnded : Prop :=
  state.writing = .ended ∨ state.reading = .ended ∨
    state.presence = .ended ∨ state.dispatching = .ended

instance : Decidable state.someEnded :=
  inferInstanceAs (Decidable (_ ∨ _))

def sendDisconnected : Option PipelineState :=
  if state.listening then
    (state.events.trySend .disconnected).map fun queue =>
      { state with
        events := queue
        queued := state.queued ++ [.disconnected]
        watching := .ended }
  else
    some { state with watching := .ended }

def takeEvent : Option PipelineState :=
  match state.listening, state.events.recv with
  | true, some (event, queue) =>
      some { state with events := queue, taken := state.taken ++ [event] }
  | _, _ => none

def submit (msg : ClientToServer) : Option PipelineState :=
  if state.held then
    if state.writing = .ended then some state
    else state.accept .application msg
  else none

end PipelineState

section Steps

variable (P : Primitives) (messages : Codec Message)
  (blobs : Codec BlobPayload) (server : Codec ServerToClient)
  (wire : Codec ClientToServer) (privkey : KeyType)

def pipelineStep (state : PipelineState) :
    PipelineLabel → Option PipelineState
  | .arrives item => some { state with arrived := state.arrived ++ [item] }
  | .reads =>
      match state.reading, state.arrived with
      | .receiving, item :: rest => some (state.readItem server item rest)
      | _, _ => none
  | .forwards =>
      match state.reading with
      | .forwarding msg => state.forward msg
      | _ => none
  | .dispatches env =>
      match state.dispatching with
      | .receiving => state.dispatchNext P messages blobs privkey env
      | _ => none
  | .reports =>
      match state.dispatching with
      | .reporting event response => state.reportEvent event response
      | _ => none
  | .answers =>
      match state.dispatching with
      | .answering response => state.sendAnswer response
      | _ => none
  | .fetches =>
      match state.writing with
      | .receiving => state.fetch wire
      | _ => none
  | .writes ok =>
      match state.writing, ok with
      | .writing bytes, true =>
          some { state with
            writing := .receiving
            written := state.written ++ [bytes] }
      | .writing _, false =>
          some { state with writing := .ended, writeFailed := true }
      | _, _ => none
  | .presenceTick timestamp =>
      match state.presence with
      | .waiting =>
          some { state with
            presence := .announce (state.announcements P privkey timestamp) }
      | _ => none
  | .announces now =>
      match state.presence with
      | .announcing announce rest => state.sendAnnounce now announce rest
      | _ => none
  | .watches =>
      if state.watching = .waiting ∧ state.someEnded then
        some { state with watching := .reporting }
      else none
  | .disconnects =>
      match state.watching with
      | .reporting => state.sendDisconnected
      | _ => none
  | .takes => state.takeEvent
  | .submits msg => state.submit msg
  | .stopsListening => some { state with listening := false }
  | .releases => some { state with held := false }
  | .othersChange handler =>
      some { state with
        handler := handler
        ops := state.ops ++ [.others handler] }

end Steps

/-! ## The transitions -/

/-- One step of the tasks, with what it needs of the state before it. -/
inductive PipelineTransition (P : Primitives) (messages : Codec Message)
    (blobs : Codec BlobPayload) (server : Codec ServerToClient)
    (wire : Codec ClientToServer) (privkey : KeyType)
    (state : PipelineState) : PipelineLabel → PipelineState → Prop
  | arrived (item : WsItem) :
      PipelineTransition P messages blobs server wire privkey state
        (.arrives item) { state with arrived := state.arrived ++ [item] }
  | read {item : WsItem} {rest : List WsItem}
      (hreading : state.reading = .receiving)
      (harrived : state.arrived = item :: rest) :
      PipelineTransition P messages blobs server wire privkey state .reads
        (state.readItem server item rest)
  | forwarded {msg : ServerToClient} {queue : BoundedQueue ServerToClient 100}
      (hreading : state.reading = .forwarding msg)
      (hdispatching : state.dispatching ≠ .ended)
      (hqueue : queue.items = state.incoming.items ++ [msg]) :
      PipelineTransition P messages blobs server wire privkey state .forwards
        { state with reading := .receiving, incoming := queue }
  | unforwarded {msg : ServerToClient}
      (hreading : state.reading = .forwarding msg)
      (hdispatching : state.dispatching = .ended) :
      PipelineTransition P messages blobs server wire privkey state .forwards
        { state with reading := .ended }
  | dispatched {msg : ServerToClient} {queue : BoundedQueue ServerToClient 100}
      (env : HandlerEnv)
      (hdispatching : state.dispatching = .receiving)
      (hqueue : state.incoming.items = msg :: queue.items) :
      PipelineTransition P messages blobs server wire privkey state
        (.dispatches env)
        { state with
          incoming := queue
          handler := (handleMessage P messages blobs privkey env state.handler
            msg.payload).state
          dispatching := .after (handleMessage P messages blobs privkey env
            state.handler msg.payload)
          ops := state.ops ++ [.handles msg.payload env] }
  | dispatcherEnded (env : HandlerEnv)
      (hdispatching : state.dispatching = .receiving)
      (hreading : state.reading = .ended) :
      PipelineTransition P messages blobs server wire privkey state
        (.dispatches env) { state with dispatching := .ended }
  | reported {event : ServerEvent} {response : Option ClientToServer}
      {queue : BoundedQueue ServerEvent 100}
      (hdispatching : state.dispatching = .reporting event response)
      (hlistening : state.listening = true)
      (hqueue : queue.items = state.events.items ++ [event]) :
      PipelineTransition P messages blobs server wire privkey state .reports
        { state with
          events := queue
          queued := state.queued ++ [event]
          dispatching := .answer response }
  | unreported {event : ServerEvent} {response : Option ClientToServer}
      (hdispatching : state.dispatching = .reporting event response)
      (hlistening : state.listening = false) :
      PipelineTransition P messages blobs server wire privkey state .reports
        { state with dispatching := .answer response }
  | answered {response : ClientToServer}
      {queue : BoundedQueue ClientToServer 100}
      (hdispatching : state.dispatching = .answering response)
      (hwriting : state.writing ≠ .ended)
      (hqueue : queue.items = state.outgoing.items ++ [response]) :
      PipelineTransition P messages blobs server wire privkey state .answers
        { state with
          outgoing := queue
          accepted := state.accepted ++ [(.dispatcher, response)]
          dispatching := .receiving }
  | unanswered {response : ClientToServer}
      (hdispatching : state.dispatching = .answering response)
      (hwriting : state.writing = .ended) :
      PipelineTransition P messages blobs server wire privkey state .answers
        { state with dispatching := .ended }
  | fetched {msg : ClientToServer} {queue : BoundedQueue ClientToServer 100}
      (hwriting : state.writing = .receiving)
      (hqueue : state.outgoing.items = msg :: queue.items) :
      PipelineTransition P messages blobs server wire privkey state .fetches
        { state with
          outgoing := queue
          fetched := state.fetched ++ [msg]
          writing := .encode wire msg }
  | writerEnded
      (hwriting : state.writing = .receiving) (hunsent : state.unsent) :
      PipelineTransition P messages blobs server wire privkey state .fetches
        { state with writing := .ended }
  | wrote {bytes : Bytes} (hwriting : state.writing = .writing bytes) :
      PipelineTransition P messages blobs server wire privkey state
        (.writes true)
        { state with
          writing := .receiving
          written := state.written ++ [bytes] }
  | writeFailed {bytes : Bytes} (hwriting : state.writing = .writing bytes) :
      PipelineTransition P messages blobs server wire privkey state
        (.writes false)
        { state with writing := .ended, writeFailed := true }
  | ticked (timestamp : Int64) (hpresence : state.presence = .waiting) :
      PipelineTransition P messages blobs server wire privkey state
        (.presenceTick timestamp)
        { state with
          presence := .announce (state.announcements P privkey timestamp) }
  | announced {announce : ClientMessage} {rest : List ClientMessage}
      {queue : BoundedQueue ClientToServer 100} (now : Int64)
      (hpresence : state.presence = .announcing announce rest)
      (hwriting : state.writing ≠ .ended)
      (hqueue : queue.items =
        state.outgoing.items ++ [.new announce none now]) :
      PipelineTransition P messages blobs server wire privkey state
        (.announces now)
        { state with
          outgoing := queue
          accepted := state.accepted ++ [(.presence, .new announce none now)]
          presence := .announce rest }
  | unannounced {announce : ClientMessage} {rest : List ClientMessage}
      (now : Int64) (hpresence : state.presence = .announcing announce rest)
      (hwriting : state.writing = .ended) :
      PipelineTransition P messages blobs server wire privkey state
        (.announces now) { state with presence := .ended }
  | watched (hwatching : state.watching = .waiting)
      (hended : state.someEnded) :
      PipelineTransition P messages blobs server wire privkey state .watches
        { state with watching := .reporting }
  | disconnected {queue : BoundedQueue ServerEvent 100}
      (hwatching : state.watching = .reporting)
      (hlistening : state.listening = true)
      (hqueue : queue.items = state.events.items ++ [.disconnected]) :
      PipelineTransition P messages blobs server wire privkey state
        .disconnects
        { state with
          events := queue
          queued := state.queued ++ [.disconnected]
          watching := .ended }
  | undisconnected (hwatching : state.watching = .reporting)
      (hlistening : state.listening = false) :
      PipelineTransition P messages blobs server wire privkey state
        .disconnects { state with watching := .ended }
  | took {event : ServerEvent} {queue : BoundedQueue ServerEvent 100}
      (hlistening : state.listening = true)
      (hqueue : state.events.items = event :: queue.items) :
      PipelineTransition P messages blobs server wire privkey state .takes
        { state with events := queue, taken := state.taken ++ [event] }
  | submitted {queue : BoundedQueue ClientToServer 100} (msg : ClientToServer)
      (hwriting : state.writing ≠ .ended)
      (hqueue : queue.items = state.outgoing.items ++ [msg]) :
      PipelineTransition P messages blobs server wire privkey state
        (.submits msg)
        { state with
          outgoing := queue
          accepted := state.accepted ++ [(.application, msg)] }
  | unsubmitted (msg : ClientToServer) :
      PipelineTransition P messages blobs server wire privkey state
        (.submits msg) state
  | stoppedListening :
      PipelineTransition P messages blobs server wire privkey state
        .stopsListening { state with listening := false }
  | released :
      PipelineTransition P messages blobs server wire privkey state .releases
        { state with held := false }
  | changed (handler : HandlerState) :
      PipelineTransition P messages blobs server wire privkey state
        (.othersChange handler)
        { state with
          handler := handler
          ops := state.ops ++ [.others handler] }

section Inversion

variable {P : Primitives} {messages : Codec Message}
  {blobs : Codec BlobPayload} {server : Codec ServerToClient}
  {wire : Codec ClientToServer} {privkey : KeyType}
  {state next : PipelineState}

theorem accept_eq_some {source : MessageSource} {msg : ClientToServer}
    (haccept : state.accept source msg = some next) :
    ∃ queue, queue.items = state.outgoing.items ++ [msg] ∧
      next = { state with
        outgoing := queue
        accepted := state.accepted ++ [(source, msg)] } := by
  obtain ⟨queue, hsend, rfl⟩ := Option.map_eq_some_iff.mp haccept
  exact ⟨queue, BoundedQueue.trySend_eq_some hsend, rfl⟩

/-- Every step is one of the transitions. -/
theorem pipelineTransition_of_step {label : PipelineLabel}
    (hstep : pipelineStep P messages blobs server wire privkey state label =
      some next) :
    PipelineTransition P messages blobs server wire privkey state label
      next := by
  cases label with
  | arrives item =>
      cases hstep
      exact .arrived item
  | reads =>
      simp only [pipelineStep] at hstep
      split at hstep
      next hreading harrived =>
        cases hstep
        exact .read hreading harrived
      next => contradiction
  | forwards =>
      simp only [pipelineStep] at hstep
      split at hstep
      next msg hreading =>
        unfold PipelineState.forward at hstep
        split at hstep
        next hended =>
          cases hstep
          exact .unforwarded hreading hended
        next hrunning =>
          obtain ⟨queue, hsend, rfl⟩ := Option.map_eq_some_iff.mp hstep
          exact .forwarded hreading hrunning
            (BoundedQueue.trySend_eq_some hsend)
      next => contradiction
  | dispatches env =>
      simp only [pipelineStep] at hstep
      split at hstep
      next hdispatching =>
        unfold PipelineState.dispatchNext at hstep
        split at hstep
        next msg queue hrecv =>
          cases hstep
          exact .dispatched env hdispatching (BoundedQueue.recv_eq_some hrecv)
        next =>
          split at hstep
          next hended =>
            cases hstep
            exact .dispatcherEnded env hdispatching hended
          next => contradiction
      next => contradiction
  | reports =>
      simp only [pipelineStep] at hstep
      split at hstep
      next event response hdispatching =>
        unfold PipelineState.reportEvent at hstep
        split at hstep
        next hlistening =>
          obtain ⟨queue, hsend, rfl⟩ := Option.map_eq_some_iff.mp hstep
          exact .reported hdispatching hlistening
            (BoundedQueue.trySend_eq_some hsend)
        next hlistening =>
          cases hstep
          exact .unreported hdispatching (by simpa using hlistening)
      next => contradiction
  | answers =>
      simp only [pipelineStep] at hstep
      split at hstep
      next response hdispatching =>
        unfold PipelineState.sendAnswer at hstep
        split at hstep
        next hended =>
          cases hstep
          exact .unanswered hdispatching hended
        next hrunning =>
          obtain ⟨sent, haccept, rfl⟩ := Option.map_eq_some_iff.mp hstep
          obtain ⟨queue, hqueue, rfl⟩ := accept_eq_some haccept
          exact .answered hdispatching hrunning hqueue
      next => contradiction
  | fetches =>
      simp only [pipelineStep] at hstep
      split at hstep
      next hwriting =>
        unfold PipelineState.fetch at hstep
        split at hstep
        next msg queue hrecv =>
          cases hstep
          exact .fetched hwriting (BoundedQueue.recv_eq_some hrecv)
        next =>
          split at hstep
          next hunsent =>
            cases hstep
            exact .writerEnded hwriting hunsent
          next => contradiction
      next => contradiction
  | writes ok =>
      simp only [pipelineStep] at hstep
      split at hstep
      next bytes hwriting =>
        cases hstep
        exact .wrote hwriting
      next bytes hwriting =>
        cases hstep
        exact .writeFailed hwriting
      next => contradiction
  | presenceTick timestamp =>
      simp only [pipelineStep] at hstep
      split at hstep
      next hpresence =>
        cases hstep
        exact .ticked timestamp hpresence
      next => contradiction
  | announces now =>
      simp only [pipelineStep] at hstep
      split at hstep
      next announce rest hpresence =>
        unfold PipelineState.sendAnnounce at hstep
        split at hstep
        next hended =>
          cases hstep
          exact .unannounced now hpresence hended
        next hrunning =>
          obtain ⟨sent, haccept, rfl⟩ := Option.map_eq_some_iff.mp hstep
          obtain ⟨queue, hqueue, rfl⟩ := accept_eq_some haccept
          exact .announced now hpresence hrunning hqueue
      next => contradiction
  | watches =>
      simp only [pipelineStep] at hstep
      split at hstep
      next hwatching =>
        cases hstep
        exact .watched hwatching.1 hwatching.2
      next => contradiction
  | disconnects =>
      simp only [pipelineStep] at hstep
      split at hstep
      next hwatching =>
        unfold PipelineState.sendDisconnected at hstep
        split at hstep
        next hlistening =>
          obtain ⟨queue, hsend, rfl⟩ := Option.map_eq_some_iff.mp hstep
          exact .disconnected hwatching hlistening
            (BoundedQueue.trySend_eq_some hsend)
        next hlistening =>
          cases hstep
          exact .undisconnected hwatching (by simpa using hlistening)
      next => contradiction
  | takes =>
      simp only [pipelineStep, PipelineState.takeEvent] at hstep
      split at hstep
      next event queue hlistening hrecv =>
        cases hstep
        exact .took hlistening (BoundedQueue.recv_eq_some hrecv)
      next => contradiction
  | submits msg =>
      simp only [pipelineStep, PipelineState.submit] at hstep
      split at hstep
      next =>
        split at hstep
        next =>
          cases hstep
          exact .unsubmitted msg
        next hrunning =>
          obtain ⟨queue, hqueue, rfl⟩ := accept_eq_some hstep
          exact .submitted msg hrunning hqueue
      next => contradiction
  | stopsListening =>
      cases hstep
      exact .stoppedListening
  | releases =>
      cases hstep
      exact .released
  | othersChange handler =>
      cases hstep
      exact .changed handler

end Inversion

end SechatClient
