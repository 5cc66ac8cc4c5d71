import SechatClient.BlobRedelivery
import SechatClient.MailboxEntryPoints

/-!
# Messages during the mailbox drain

Between `AuthOk` and `PendingBlobsEnd` the server may send any message.  The
drain loop handles the pending blobs and skips the rest, so what arrives there
never reaches `handle_message`.  The connection is compared with one that hands
every message to `handle_message`: in the presence cache, the answers to hole
punch requests and the events.
-/

namespace SechatClient

open ByteStrings

/-- A message as the server sends it, with what its handling reads from
outside. -/
abbrev Received := ServerMessage × DrainEnv

/-- The message for the dispatch loop, at the same clock readings. -/
def Received.live (received : Received) : ServerMessage × HandlerEnv :=
  (received.1, ⟨received.2.blob, received.2.ackNow⟩)

/-! ## What becomes of each message -/

/-- The blobs which the drain processes. -/
def drainBlobs : List Received → List Received
  | [] => []
  | (.pendingBlobsEnd, _) :: _ => []
  | (.authFailed _, _) :: _ => []
  | (.error _, _) :: _ => []
  | (.pendingBlob blobId blob timestamp, env) :: rest =>
      (.pendingBlob blobId blob timestamp, env) :: drainBlobs rest
  | _ :: rest => drainBlobs rest

/-- The messages which the dispatch loop handles after the drain; there are
none if the drain fails, or the contacts cannot be `listed` for the burst. -/
def drainLive (listed : Bool) : List Received → List Received
  | [] => []
  | (.pendingBlobsEnd, _) :: rest => if listed then rest else []
  | (.authFailed _, _) :: _ => []
  | (.error _, _) :: _ => []
  | _ :: rest => drainLive listed rest

/-- The messages which are read but not handled, or never read. -/
def drainDropped (listed : Bool) : List Received → List Received
  | [] => []
  | (.pendingBlobsEnd, _) :: rest => if listed then [] else rest
  | (.authFailed _, _) :: rest => rest
  | (.error _, _) :: rest => rest
  | (.pendingBlob _ _ _, _) :: rest => drainDropped listed rest
  | message :: rest => message :: drainDropped listed rest

/-- What arrives behind `PendingBlobsEnd`. -/
def behindEnd : List Received → List Received
  | [] => []
  | (.pendingBlobsEnd, _) :: rest => rest
  | _ :: rest => behindEnd rest

/-! ## The connection -/

section Connection

variable (P : Primitives) (messages : Codec Message)
  (blobs : Codec BlobPayload) (wire : Codec ClientToServer)
  (privkey : KeyType)

/-- The client after the drain, with the events that wait in the channel. -/
def DispatchRun.afterDrain (handler : HandlerState) (final : DrainState) :
    DispatchRun :=
  ⟨{ handler with peers := final.peers }, final.events.items, [], []⟩

/-- From the end of the drain on: the burst lists the contacts, then the
dispatch loop runs on what the server sends. -/
def continueAfter (handler : HandlerState) (rest : List Received) :
    DrainResult → DispatchRun
  | .ended final =>
      match loadPeers P final.peers with
      | .error _ => .afterDrain handler final
      | .ok _ =>
          mainDispatchLoop P messages blobs privkey
            (.afterDrain handler final) (rest.map Received.live)
  | .reading final => .afterDrain handler final
  | .failed final _ => .afterDrain handler final
  | .blocked final => .afterDrain handler final

/-- `run_client` on the messages behind `AuthOk`. -/
def clientRun (handler : HandlerState) (observedAddress : String)
    (received : List Received) : DispatchRun :=
  continueAfter P messages blobs privkey handler (behindEnd received)
    (drainAfterAuth P messages blobs wire privkey handler.peers
      observedAddress received)

/-- The same messages, all handed to `handle_message`. -/
def handledRun (handler : HandlerState) (observedAddress : String)
    (received : List Received) : DispatchRun :=
  mainDispatchLoop P messages blobs privkey
    ⟨handler, [.authenticated observedAddress], [], []⟩
    (received.map Received.live)

end Connection

def ClientToServer.answersPunch (answer : ClientToServer) : Bool :=
  match answer.payload with
  | .requestAccepted _ => true
  | .requestDenied _ => true
  | _ => false

def DispatchRun.punchAnswers (run : DispatchRun) : List ClientToServer :=
  run.answers.filter ClientToServer.answersPunch

/-- The presence caches agree on every identity, the answers to hole punch
requests and the events are the same. -/
structure SameOutcome (P : Primitives) (run other : DispatchRun) : Prop where
  cache : ∀ hash,
    cachedAt P run.state.cache hash = cachedAt P other.state.cache hash
  answers : run.punchAnswers = other.punchAnswers
  events : run.events = other.events

/-! ## What a message amounts to -/

section Amounts

variable (P : Primitives) (messages : Codec Message)
  (blobs : Codec BlobPayload) (privkey : KeyType) (peers : PeersDir)

/-- The event which a message leads to, given the contacts. -/
def eventOf : Received → Option ServerEvent
  | (.pendingBlob _ blob _, env) =>
      (storableSender P messages blobs peers privkey env.blob blob).map
        .blobStored
  | (.punchHole token peerHash ipPort punchtimestamp, _) =>
      some (.punchHole token peerHash ipPort punchtimestamp)
  | (.requestDenied _ pubKey reason, _) =>
      some (.holePunchDenied pubKey reason.text)
  | (.relayData senderHash payload, _) =>
      some (.relayData senderHash payload)
  | _ => none

def punchAnswerOf : Received → Option ClientToServer
  | (.requestHolePunch pubKey token, env) =>
      some (.new
        (match loadPeerData P peers pubKey with
        | .ok _ => .requestAccepted token
        | .error _ => .requestDenied token) none env.ackNow)
  | _ => none

/-- What a message makes of the cache entry of an identity. -/
def presenceOf (hash : KeyType) :
    Received → Option (Option (String × Int64))
  | (.peerOnline peer ipPort, env) =>
      if peer = hash ∧ (loadPeerData P peers peer).isOk then
        some (some (ipPort, env.blob.now))
      else none
  | (.peerOffline peer, _) => if peer = hash then some none else none
  | _ => none

def lastPresence (hash : KeyType) (received : List Received) :
    Option (Option (String × Int64)) :=
  (received.filterMap (presenceOf P peers hash)).getLast?

end Amounts

section Handled

variable {P : Primitives} {messages : Codec Message}
  {blobs : Codec BlobPayload} {wire : Codec ClientToServer}
  {privkey : KeyType} {peers : PeersDir}

/-- The store has the contacts of `peers` and readable databases. -/
structure SameContacts (peers other : PeersDir) : Prop where
  pubs : SamePubs peers other
  wellKeyed : WellKeyed other

theorem SameContacts.processBlob
    {other : PeersDir} (hsame : SameContacts peers other) (env : BlobEnv)
    (blob : Bytes) :
    SameContacts peers
      (processBlob P messages blobs other privkey env blob).peers where
  pubs := hsame.pubs.trans (samePubs_processBlob other privkey env blob)
  wellKeyed := processBlob_wellKeyed hsame.wellKeyed privkey env blob

theorem SameContacts.handleMessage
    {state : HandlerState} (hsame : SameContacts peers state.peers)
    (env : HandlerEnv) (message : ServerMessage) :
    SameContacts peers
      (handleMessage P messages blobs privkey env state
        message).state.peers := by
  cases message with
  | pendingBlob blobId blob timestamp => exact hsame.processBlob env.blob blob
  | peerOnline hash ipPort =>
      simp only [SechatClient.handleMessage]
      split <;> exact hsame
  | pendingBlobsEnd | peerOffline | punchHole | authOk | authFailed | error
  | requestHolePunch | requestDenied | relayData => exact hsame

theorem processBlob_event_of_same
    {other : PeersDir} (hsame : SameContacts peers other) (env : BlobEnv)
    (blob : Bytes) :
    (processBlob P messages blobs other privkey env blob).event =
      (storableSender P messages blobs peers privkey env blob).map
        .blobStored := by
  rw [processBlob_event P messages blobs hsame.wellKeyed,
    storableSender_congr (hsame.pubs.loadPeerData P)]

theorem handleMessage_event
    {state : HandlerState} (hsame : SameContacts peers state.peers)
    (received : Received) :
    (handleMessage P messages blobs privkey received.live.2 state
      received.live.1).event =
      eventOf P messages blobs privkey peers received := by
  obtain ⟨message, env⟩ := received
  cases message with
  | pendingBlob blobId blob timestamp =>
      exact processBlob_event_of_same hsame env.blob blob
  | peerOnline hash ipPort =>
      simp only [handleMessage, Received.live]
      split <;> rfl
  | pendingBlobsEnd | peerOffline | punchHole | authOk | authFailed | error
  | requestHolePunch | requestDenied | relayData => rfl

theorem handleMessage_punchAnswer
    {state : HandlerState} (hsame : SameContacts peers state.peers)
    (received : Received) :
    (handleMessage P messages blobs privkey received.live.2 state
      received.live.1).response.toList.filter ClientToServer.answersPunch =
      (punchAnswerOf P peers received).toList := by
  obtain ⟨message, env⟩ := received
  cases message with
  | peerOnline hash ipPort =>
      simp only [handleMessage, Received.live]
      split <;> rfl
  | requestHolePunch pubKey token =>
      simp only [handleMessage, Received.live, punchAnswerOf,
        hsame.pubs.loadPeerData P]
      cases loadPeerData P peers pubKey <;> rfl
  | pendingBlob | pendingBlobsEnd | peerOffline | punchHole | authOk
  | authFailed | error | requestDenied | relayData => rfl

theorem handleMessage_presence
    (hstored : StoredByIdentity P peers) {state : HandlerState}
    (hsame : SameContacts peers state.peers) (hash : KeyType)
    (received : Received) :
    cachedAt P (handleMessage P messages blobs privkey received.live.2 state
        received.live.1).state.cache hash =
      (presenceOf P peers hash received).getD
        (cachedAt P state.cache hash) := by
  obtain ⟨message, env⟩ := received
  cases message with
  | peerOnline peer ipPort =>
      have hload := hsame.pubs.loadPeerData P peer
      simp only [handleMessage, Received.live, presenceOf]
      cases hpeer : loadPeerData P peers peer with
      | error e =>
          rw [hpeer] at hload
          simp [appendOnlinePeer, hload, Except.isOk, Except.toBool]
      | ok contact =>
          rw [hpeer] at hload
          obtain ⟨next, hnext⟩ : ∃ next, appendOnlinePeer P state.peers
              state.cache peer ipPort env.blob.now = .ok next := by
            simp only [appendOnlinePeer, hload]
            exact ⟨_, rfl⟩
          simp only [hnext, cachedAt_appendOnlinePeer hload
            (hstored peer contact hpeer) hnext]
          by_cases hhash : peer = hash <;>
            simp [hhash, Except.isOk, Except.toBool]
  | peerOffline peer =>
      simp only [handleMessage, Received.live, presenceOf,
        cachedAt_removeOnlinePeer]
      by_cases hhash : peer = hash <;> simp [hhash]
  | pendingBlob | pendingBlobsEnd | punchHole | authOk | authFailed | error
  | requestHolePunch | requestDenied | relayData => rfl

theorem filterMap_cons_toList
    {α β : Type} (f : α → Option β) (head : α) (rest : List α) :
    (head :: rest).filterMap f = (f head).toList ++ rest.filterMap f := by
  cases hhead : f head <;> simp [hhead]

theorem lastPresence_cons (hash : KeyType) (head : Received)
    (rest : List Received) (entry : Option (String × Int64)) :
    (lastPresence P peers hash (head :: rest)).getD entry =
      (lastPresence P peers hash rest).getD
        ((presenceOf P peers hash head).getD entry) := by
  unfold lastPresence
  rw [filterMap_cons_toList, List.getLast?_append]
  cases presenceOf P peers hash head <;>
    cases (rest.filterMap (presenceOf P peers hash)).getLast? <;> rfl

/-- The dispatch loop adds up what the messages amount to. -/
theorem mainDispatchLoop_amounts
    (hstored : StoredByIdentity P peers) (received : List Received)
    {run : DispatchRun} (hsame : SameContacts peers run.state.peers) :
    (mainDispatchLoop P messages blobs privkey run
        (received.map Received.live)).events =
        run.events ++
          received.filterMap (eventOf P messages blobs privkey peers) ∧
      (mainDispatchLoop P messages blobs privkey run
          (received.map Received.live)).punchAnswers =
        run.punchAnswers ++ received.filterMap (punchAnswerOf P peers) ∧
      ∀ hash, cachedAt P (mainDispatchLoop P messages blobs privkey run
          (received.map Received.live)).state.cache hash =
        (lastPresence P peers hash received).getD
          (cachedAt P run.state.cache hash) := by
  induction received generalizing run with
  | nil => simp [lastPresence]
  | cons head rest ih =>
      have hnext : SameContacts peers
          (dispatch P messages blobs privkey run head.live).state.peers :=
        hsame.handleMessage head.live.2 head.live.1
      have hevents : (dispatch P messages blobs privkey run
          head.live).events = run.events ++
            (eventOf P messages blobs privkey peers head).toList := by
        rw [← handleMessage_event hsame]
        rfl
      have hanswers : (dispatch P messages blobs privkey run
          head.live).punchAnswers = run.punchAnswers ++
            (punchAnswerOf P peers head).toList := by
        rw [← handleMessage_punchAnswer hsame]
        exact List.filter_append _ _
      have hcache (hash : KeyType) : cachedAt P (dispatch P messages blobs
          privkey run head.live).state.cache hash =
            (presenceOf P peers hash head).getD
              (cachedAt P run.state.cache hash) :=
        handleMessage_presence hstored hsame hash head
      obtain ⟨hrestEvents, hrestAnswers, hrestCache⟩ := ih hnext
      rw [List.map_cons, mainDispatchLoop_cons]
      refine ⟨?_, ?_, fun hash => ?_⟩
      · rw [hrestEvents, hevents, filterMap_cons_toList, List.append_assoc]
      · rw [hrestAnswers, hanswers, filterMap_cons_toList, List.append_assoc]
      · rw [hrestCache, hcache, lastPresence_cons]

/-! ## The drain -/

/-- Whether the burst can list the contacts. -/
def contactsListed (P : Primitives) (peers : PeersDir) : Bool :=
  (loadPeers P peers).isOk

theorem continueAfter_ended
    {final : DrainState} (hsame : SamePubs peers final.peers)
    (handler : HandlerState) (rest : List Received) :
    continueAfter P messages blobs privkey handler rest (.ended final) =
      mainDispatchLoop P messages blobs privkey (.afterDrain handler final)
        ((if contactsListed P peers then rest else []).map
          Received.live) := by
  unfold continueAfter contactsListed
  cases hlisted : loadPeers P peers with
  | ok listed =>
      obtain ⟨later, hlater⟩ := hsame.loadPeers_ok ⟨listed, hlisted⟩
      simp [hlater, Except.isOk, Except.toBool]
  | error e =>
      cases hlater : loadPeers P final.peers with
      | error e => simp [hlater, Except.isOk, Except.toBool]
      | ok later =>
          obtain ⟨listed, hok⟩ := hsame.symm.loadPeers_ok ⟨later, hlater⟩
          rw [hlisted] at hok
          contradiction

variable (P messages blobs wire privkey peers) in
/-- The drain handles the blobs and the connection goes on with the messages
behind them, unless an event finds the channel full. -/
def DrainAmounts (handler : HandlerState) (state : DrainState)
    (received : List Received) : Prop :=
  if state.events.items.length + ((drainBlobs received).filterMap
      (eventOf P messages blobs privkey peers)).length ≤ 100 then
    ∃ final, SameContacts peers final.peers ∧
      final.events.items = state.events.items ++
        (drainBlobs received).filterMap
          (eventOf P messages blobs privkey peers) ∧
      continueAfter P messages blobs privkey handler (behindEnd received)
          (drain P messages blobs wire privkey state received) =
        mainDispatchLoop P messages blobs privkey (.afterDrain handler final)
          ((drainLive (contactsListed P peers) received).map Received.live)
  else
    ∃ stuck, drain P messages blobs wire privkey state received =
      .blocked stuck

theorem sendEvent_eq_none
    {events : EventChannel} {event : Option ServerEvent}
    (hsend : sendEvent events event = none) {later : List ServerEvent} :
    ¬ events.items.length + (event.toList ++ later).length ≤ 100 := by
  cases event with
  | none => cases hsend
  | some event =>
      have hfull : ¬ events.items.length < 100 := by
        intro hroom
        obtain ⟨next, hnext, _⟩ := BoundedQueue.trySend_of_lt hroom event
        rw [sendEvent, hnext] at hsend
        contradiction
      simp only [Option.toList_some, List.singleton_append, List.length_cons]
      omega

/-- A drain that stops at its first message. -/
theorem drainAmounts_of_stop
    {handler : HandlerState} {state : DrainState} {received : List Received}
    (hblobs : drainBlobs received = [])
    (hsame : SameContacts peers state.peers)
    (hcontinue : continueAfter P messages blobs privkey handler
        (behindEnd received)
        (drain P messages blobs wire privkey state received) =
      mainDispatchLoop P messages blobs privkey (.afterDrain handler state)
        ((drainLive (contactsListed P peers) received).map Received.live)) :
    DrainAmounts P messages blobs wire privkey peers handler state
      received := by
  have hbounded := state.events.bounded
  unfold DrainAmounts
  rw [hblobs, if_pos (by simpa using hbounded)]
  exact ⟨state, hsame, by simp, hcontinue⟩

theorem drainAmounts_blob
    {handler : HandlerState} {state : DrainState} {blobId : String}
    {blob : Bytes} {timestamp : Int64} {env : DrainEnv}
    {rest : List Received} {bytes : Bytes}
    (hack : ackBlob wire env blobId = .ok bytes)
    (hsame : SameContacts peers state.peers)
    (hrest : ∀ next : DrainState, SameContacts peers next.peers →
      DrainAmounts P messages blobs wire privkey peers handler next rest) :
    DrainAmounts P messages blobs wire privkey peers handler state
      ((.pendingBlob blobId blob timestamp, env) :: rest) := by
  have hevent : (processBlob P messages blobs state.peers privkey env.blob
      blob).event = eventOf P messages blobs privkey peers
        (.pendingBlob blobId blob timestamp, env) :=
    processBlob_event_of_same hsame env.blob blob
  have hfilter : (drainBlobs ((.pendingBlob blobId blob timestamp, env) ::
      rest)).filterMap (eventOf P messages blobs privkey peers) =
        (eventOf P messages blobs privkey peers
          (.pendingBlob blobId blob timestamp, env)).toList ++
          (drainBlobs rest).filterMap
            (eventOf P messages blobs privkey peers) :=
    filterMap_cons_toList _ _ _
  unfold DrainAmounts
  rw [hfilter]
  cases hsend : sendEvent state.events (eventOf P messages blobs privkey peers
      (.pendingBlob blobId blob timestamp, env)) with
  | none =>
      have hdrain : drain P messages blobs wire privkey state
          ((.pendingBlob blobId blob timestamp, env) :: rest) =
            .blocked { state with
              peers := (processBlob P messages blobs state.peers privkey
                env.blob blob).peers } := by
        simp only [drain, hevent, hsend]
      rw [if_neg (sendEvent_eq_none hsend)]
      exact ⟨_, hdrain⟩
  | some events =>
      have hdrain : drain P messages blobs wire privkey state
          ((.pendingBlob blobId blob timestamp, env) :: rest) =
            drain P messages blobs wire privkey
              ⟨(processBlob P messages blobs state.peers privkey env.blob
                blob).peers, events, state.written ++ [bytes]⟩ rest := by
        simp only [drain, hevent, hack, hsend]
      have hrest := hrest
        ⟨(processBlob P messages blobs state.peers privkey env.blob
          blob).peers, events, state.written ++ [bytes]⟩
        (hsame.processBlob env.blob blob)
      simp only [DrainAmounts, sendEvent_eq_some hsend, List.length_append,
        List.append_assoc, Nat.add_assoc] at hrest
      simp only [List.length_append, hdrain]
      exact hrest

/-- What the drain makes of any messages. -/
theorem drain_amounts
    (hwire : wire.RoundTrip) (handler : HandlerState)
    {received : List Received}
    (hwrites : ∀ message ∈ received, message.2.writeError = none)
    {state : DrainState} (hsame : SameContacts peers state.peers) :
    DrainAmounts P messages blobs wire privkey peers handler state
      received := by
  induction received generalizing state with
  | nil => exact drainAmounts_of_stop rfl hsame rfl
  | cons head rest ih =>
      have hrest {next : DrainState} (hnext : SameContacts peers next.peers) :
          DrainAmounts P messages blobs wire privkey peers handler next
            rest :=
        ih (fun message hmem =>
          hwrites message (List.mem_cons_of_mem _ hmem)) hnext
      have hwritten := hwrites head List.mem_cons_self
      obtain ⟨message, env⟩ := head
      cases message with
      | pendingBlobsEnd =>
          exact drainAmounts_of_stop rfl hsame
            (continueAfter_ended hsame.pubs handler rest)
      | pendingBlob blobId blob timestamp =>
          obtain ⟨bytes, hack⟩ : ∃ bytes, ackBlob wire env blobId =
              .ok bytes := by
            simp only [ackBlob, hwire.toVec_eq]
            rw [show env.writeError = none from hwritten]
            exact ⟨_, rfl⟩
          exact drainAmounts_blob hack hsame fun next hnext => hrest hnext
      | authFailed reason => exact drainAmounts_of_stop rfl hsame rfl
      | error reason => exact drainAmounts_of_stop rfl hsame rfl
      | authOk | peerOnline | peerOffline | punchHole | requestHolePunch
      | requestDenied | relayData => exact hrest hsame

end Handled

/-! ## What the dropped messages leave behind -/

section Split

variable {β : Type} {f : Received → Option β} {listed : Bool}

/-- Messages that end the drain amount to nothing. -/
structure SilentAtEnd (f : Received → Option β) : Prop where
  ended : ∀ env, f (.pendingBlobsEnd, env) = none
  authFailed : ∀ reason env, f (.authFailed reason, env) = none
  error : ∀ reason env, f (.error reason, env) = none

/-- Every message is a drained blob, dropped, live, or ends the drain. -/
theorem length_filterMap_split
    (hsilent : SilentAtEnd f) (listed : Bool) (received : List Received) :
    (received.filterMap f).length =
      ((drainBlobs received).filterMap f).length +
        ((drainDropped listed received).filterMap f).length +
        ((drainLive listed received).filterMap f).length := by
  induction received with
  | nil => rfl
  | cons head rest ih =>
      obtain ⟨message, env⟩ := head
      cases message with
      | pendingBlobsEnd =>
          cases listed <;>
            simp [drainBlobs, drainDropped, drainLive, hsilent.ended]
      | authFailed reason =>
          simp [drainBlobs, drainDropped, drainLive, hsilent.authFailed]
      | error reason =>
          simp [drainBlobs, drainDropped, drainLive, hsilent.error]
      | pendingBlob | authOk | peerOnline | peerOffline | punchHole
      | requestHolePunch | requestDenied | relayData =>
          simp only [filterMap_cons_toList, drainBlobs, drainDropped,
            drainLive, List.length_append, ih]
          omega

theorem filterMap_of_dropped_nil
    (hsilent : SilentAtEnd f) {received : List Received}
    (hdropped : (drainDropped listed received).filterMap f = []) :
    received.filterMap f =
      (drainBlobs received).filterMap f ++
        (drainLive listed received).filterMap f := by
  induction received with
  | nil => rfl
  | cons head rest ih =>
      obtain ⟨message, env⟩ := head
      cases message with
      | pendingBlobsEnd =>
          cases listed with
          | true => simp [drainBlobs, drainLive, hsilent.ended]
          | false =>
              simp only [drainDropped] at hdropped
              simpa [drainBlobs, drainLive, hsilent.ended] using hdropped
      | authFailed reason =>
          simp only [drainDropped] at hdropped
          simpa [drainBlobs, drainLive, hsilent.authFailed] using hdropped
      | error reason =>
          simp only [drainDropped] at hdropped
          simpa [drainBlobs, drainLive, hsilent.error] using hdropped
      | pendingBlob blobId blob timestamp =>
          simp only [drainDropped] at hdropped
          simp only [filterMap_cons_toList, drainBlobs, drainLive,
            ih hdropped, List.append_assoc]
      | authOk | peerOnline | peerOffline | punchHole | requestHolePunch
      | requestDenied | relayData =>
          simp only [drainDropped, filterMap_cons_toList,
            List.append_eq_nil_iff] at hdropped
          simp only [filterMap_cons_toList, drainBlobs, drainLive,
            ih hdropped.2, hdropped.1, List.nil_append]

/-- Nothing is missing exactly if the dropped messages amount to nothing. -/
theorem filterMap_split_iff
    (hsilent : SilentAtEnd f) (received : List Received) :
    (drainBlobs received).filterMap f ++
          (drainLive listed received).filterMap f =
        received.filterMap f ↔
      ∀ message ∈ drainDropped listed received, f message = none := by
  rw [← List.filterMap_eq_nil_iff]
  constructor
  · intro heq
    have hsplit := length_filterMap_split hsilent listed received
    rw [← heq, List.length_append] at hsplit
    exact List.eq_nil_of_length_eq_zero (by omega)
  · intro hdropped
    exact (filterMap_of_dropped_nil hsilent hdropped).symm

/-- The dropped messages come before the live ones. -/
theorem filterMap_dropped_live
    (hsilent : SilentAtEnd f)
    (hblob : ∀ blobId blob timestamp env,
      f (.pendingBlob blobId blob timestamp, env) = none)
    (received : List Received) :
    received.filterMap f =
      (drainDropped listed received).filterMap f ++
        (drainLive listed received).filterMap f := by
  induction received with
  | nil => rfl
  | cons head rest ih =>
      obtain ⟨message, env⟩ := head
      cases message with
      | pendingBlobsEnd =>
          cases listed <;> simp [drainDropped, drainLive, hsilent.ended]
      | authFailed reason => simp [drainDropped, drainLive, hsilent.authFailed]
      | error reason => simp [drainDropped, drainLive, hsilent.error]
      | pendingBlob blobId blob timestamp =>
          simp [drainDropped, drainLive, hblob, ih]
      | authOk | peerOnline | peerOffline | punchHole | requestHolePunch
      | requestDenied | relayData =>
          simp only [filterMap_cons_toList, drainDropped, drainLive, ih,
            List.append_assoc]

end Split

section Lost

variable {P : Primitives} {messages : Codec Message}
  {blobs : Codec BlobPayload} {wire : Codec ClientToServer}
  {privkey : KeyType} {handler : HandlerState}

variable (P messages blobs privkey) in
theorem silentAtEnd_eventOf (peers : PeersDir) :
    SilentAtEnd (eventOf P messages blobs privkey peers) :=
  ⟨fun _ => rfl, fun _ _ => rfl, fun _ _ => rfl⟩

variable (P) in
theorem silentAtEnd_punchAnswerOf (peers : PeersDir) :
    SilentAtEnd (punchAnswerOf P peers) :=
  ⟨fun _ => rfl, fun _ _ => rfl, fun _ _ => rfl⟩

theorem silentAtEnd_presenceOf (peers : PeersDir) (hash : KeyType) :
    SilentAtEnd (presenceOf P peers hash) :=
  ⟨fun _ => rfl, fun _ _ => rfl, fun _ _ => rfl⟩

/-- A blob is not answered as a hole punch request is. -/
theorem punchAnswers_drainBlobs (peers : PeersDir)
    (received : List Received) :
    (drainBlobs received).filterMap (punchAnswerOf P peers) = [] := by
  induction received with
  | nil => rfl
  | cons head rest ih =>
      obtain ⟨message, env⟩ := head
      cases message with
      | pendingBlobsEnd | authFailed | error => rfl
      | pendingBlob | authOk | peerOnline | peerOffline | punchHole
      | requestHolePunch | requestDenied | relayData => exact ih

variable (P) in
/-- Behind the drain comes a presence message of the identity, or the last
one that was dropped would have left its entry as it was. -/
def PresenceKept (handler : HandlerState) (dropped live : List Received)
    (hash : KeyType) : Prop :=
  (lastPresence P handler.peers hash live).isSome = true ∨
    lastPresence P handler.peers hash dropped = none ∨
    lastPresence P handler.peers hash dropped =
      some (cachedAt P handler.cache hash)

theorem presence_eq_iff
    (listed : Bool) (received : List Received) (hash : KeyType) :
    (lastPresence P handler.peers hash (drainLive listed received)).getD
          (cachedAt P handler.cache hash) =
        (lastPresence P handler.peers hash received).getD
          (cachedAt P handler.cache hash) ↔
      PresenceKept P handler (drainDropped listed received)
        (drainLive listed received) hash := by
  have hsplit : lastPresence P handler.peers hash received =
      (lastPresence P handler.peers hash (drainLive listed received)).or
        (lastPresence P handler.peers hash
          (drainDropped listed received)) := by
    unfold lastPresence
    rw [filterMap_dropped_live (silentAtEnd_presenceOf handler.peers hash)
      (fun _ _ _ _ => rfl) received, List.getLast?_append]
  rw [hsplit, PresenceKept]
  cases lastPresence P handler.peers hash (drainLive listed received) with
  | some entry => simp
  | none =>
      cases lastPresence P handler.peers hash
          (drainDropped listed received) with
      | none => simp
      | some entry => simp [eq_comm]

variable (P messages blobs privkey handler) in
/-- At most 99 of the drained blobs are stored, the dropped messages lead to no
event and no answer, and they leave the presence cache as it would be. -/
structure NothingLost (received : List Received) : Prop where
  fits : ((drainBlobs received).filterMap
    (eventOf P messages blobs privkey handler.peers)).length ≤ 99
  silent : ∀ message ∈
      drainDropped (contactsListed P handler.peers) received,
    eventOf P messages blobs privkey handler.peers message = none ∧
      punchAnswerOf P handler.peers message = none
  presence : ∀ hash, PresenceKept P handler
    (drainDropped (contactsListed P handler.peers) received)
    (drainLive (contactsListed P handler.peers) received) hash

theorem handledRun_amounts
    (hkeys : WellKeyed handler.peers)
    (hstored : StoredByIdentity P handler.peers) (observedAddress : String)
    (received : List Received) :
    (handledRun P messages blobs privkey handler observedAddress
        received).events =
        .authenticated observedAddress :: received.filterMap
          (eventOf P messages blobs privkey handler.peers) ∧
      (handledRun P messages blobs privkey handler observedAddress
          received).punchAnswers =
        received.filterMap (punchAnswerOf P handler.peers) ∧
      ∀ hash, cachedAt P (handledRun P messages blobs privkey handler
          observedAddress received).state.cache hash =
        (lastPresence P handler.peers hash received).getD
          (cachedAt P handler.cache hash) := by
  have hsame : SameContacts handler.peers handler.peers :=
    ⟨SamePubs.refl _, hkeys⟩
  exact mainDispatchLoop_amounts hstored received hsame

variable (P messages blobs privkey) in
/-- The drain starts with `Authenticated` in the channel. -/
theorem drainAfterAuth_amounts
    (hwire : wire.RoundTrip) (hkeys : WellKeyed handler.peers)
    (observedAddress : String) {received : List Received}
    (hwrites : ∀ message ∈ received, message.2.writeError = none) :
    ∃ state : DrainState,
      state.events.items = [.authenticated observedAddress] ∧
      drainAfterAuth P messages blobs wire privkey handler.peers
          observedAddress received =
        drain P messages blobs wire privkey state received ∧
      DrainAmounts P messages blobs wire privkey handler.peers handler state
        received := by
  obtain ⟨events, hitems, hdrain⟩ := drainAfterAuth_eq P messages blobs wire
    privkey handler.peers observedAddress
  exact ⟨⟨handler.peers, events, []⟩, hitems, hdrain received,
    drain_amounts hwire handler hwrites ⟨SamePubs.refl _, hkeys⟩⟩

/-- The connection whose stored blobs fit in the channel. -/
theorem clientRun_amounts
    (hwire : wire.RoundTrip) (hkeys : WellKeyed handler.peers)
    (hstored : StoredByIdentity P handler.peers) (observedAddress : String)
    {received : List Received}
    (hwrites : ∀ message ∈ received, message.2.writeError = none)
    (hfits : ((drainBlobs received).filterMap
      (eventOf P messages blobs privkey handler.peers)).length ≤ 99) :
    (clientRun P messages blobs wire privkey handler observedAddress
        received).events =
        .authenticated observedAddress ::
          ((drainBlobs received).filterMap
              (eventOf P messages blobs privkey handler.peers) ++
            (drainLive (contactsListed P handler.peers) received).filterMap
              (eventOf P messages blobs privkey handler.peers)) ∧
      (clientRun P messages blobs wire privkey handler observedAddress
          received).punchAnswers =
        (drainLive (contactsListed P handler.peers) received).filterMap
          (punchAnswerOf P handler.peers) ∧
      ∀ hash, cachedAt P (clientRun P messages blobs wire privkey handler
          observedAddress received).state.cache hash =
        (lastPresence P handler.peers hash
          (drainLive (contactsListed P handler.peers) received)).getD
          (cachedAt P handler.cache hash) := by
  obtain ⟨state, hitems, hdrain, hamounts⟩ := drainAfterAuth_amounts P
    messages blobs privkey hwire hkeys observedAddress hwrites
  rw [DrainAmounts, if_pos (by simp [hitems]; omega)] at hamounts
  obtain ⟨final, hsame, hfinal, hcontinue⟩ := hamounts
  rw [hitems, List.singleton_append] at hfinal
  unfold clientRun
  rw [hdrain, hcontinue]
  obtain ⟨hevents, hanswers, hcache⟩ := mainDispatchLoop_amounts hstored
    (drainLive (contactsListed P handler.peers) received)
    (show SameContacts handler.peers
      (DispatchRun.afterDrain handler final).state.peers from hsame)
  refine ⟨?_, hanswers, hcache⟩
  rw [hevents]
  show final.events.items ++ _ = _
  rw [hfinal, List.cons_append]

/-- A full channel holds fewer events than the messages lead to. -/
theorem clientRun_blocked
    (hwire : wire.RoundTrip) (hkeys : WellKeyed handler.peers)
    (observedAddress : String) {received : List Received}
    (hwrites : ∀ message ∈ received, message.2.writeError = none)
    (hfull : ¬ ((drainBlobs received).filterMap
      (eventOf P messages blobs privkey handler.peers)).length ≤ 99) :
    (clientRun P messages blobs wire privkey handler observedAddress
      received).events.length ≤ 100 := by
  obtain ⟨state, hitems, hdrain, hamounts⟩ := drainAfterAuth_amounts P
    messages blobs privkey hwire hkeys observedAddress hwrites
  rw [DrainAmounts, if_neg (by simp [hitems]; omega)] at hamounts
  obtain ⟨stuck, hblocked⟩ := hamounts
  unfold clientRun
  rw [hdrain, hblocked]
  exact stuck.events.bounded

end Lost

/-- What arrives after `AuthOk` has the same outcome as if `handle_message` had
handled it all exactly if nothing is lost in the drain.  There every hole punch
request gets exactly one answer. -/
theorem drain_phase_loses_nothing_iff
    (P : Primitives) (messages : Codec Message) (blobs : Codec BlobPayload)
    {wire : Codec ClientToServer} (hwire : wire.RoundTrip)
    (privkey : KeyType) {handler : HandlerState}
    (hkeys : WellKeyed handler.peers)
    (hstored : StoredByIdentity P handler.peers) (observedAddress : String)
    {received : List Received}
    (hwrites : ∀ message ∈ received, message.2.writeError = none) :
    (SameOutcome P
        (clientRun P messages blobs wire privkey handler observedAddress
          received)
        (handledRun P messages blobs privkey handler observedAddress
          received) ↔
      NothingLost P messages blobs privkey handler received) ∧
    (handledRun P messages blobs privkey handler observedAddress
      received).punchAnswers =
        received.filterMap (punchAnswerOf P handler.peers) := by
  obtain ⟨hevents, hanswers, hcache⟩ := handledRun_amounts hkeys hstored
    observedAddress received
  refine ⟨⟨fun hsame => ?_, fun hkept => ?_⟩, hanswers⟩
  · by_cases hfits : ((drainBlobs received).filterMap
        (eventOf P messages blobs privkey handler.peers)).length ≤ 99
    · obtain ⟨hclientEvents, hclientAnswers, hclientCache⟩ :=
        clientRun_amounts hwire hkeys hstored observedAddress hwrites hfits
      have hsameEvents := hsame.events
      have hsameAnswers := hsame.answers
      rw [hclientEvents, hevents, List.cons_inj_right,
        filterMap_split_iff
          (silentAtEnd_eventOf P messages blobs privkey handler.peers)]
        at hsameEvents
      rw [hclientAnswers, hanswers, ← List.nil_append (List.filterMap _ _),
        ← punchAnswers_drainBlobs handler.peers received,
        filterMap_split_iff (silentAtEnd_punchAnswerOf P handler.peers)]
        at hsameAnswers
      refine ⟨hfits, fun message hmem =>
        ⟨hsameEvents message hmem, hsameAnswers message hmem⟩,
        fun hash => ?_⟩
      rw [← presence_eq_iff, ← hclientCache, ← hcache]
      exact hsame.cache hash
    · have hbounded := clientRun_blocked hwire hkeys observedAddress hwrites
        hfits
      have hsplit := length_filterMap_split
        (silentAtEnd_eventOf P messages blobs privkey handler.peers)
        (contactsListed P handler.peers) received
      rw [hsame.events, hevents, List.length_cons, hsplit] at hbounded
      omega
  · obtain ⟨hclientEvents, hclientAnswers, hclientCache⟩ :=
      clientRun_amounts hwire hkeys hstored observedAddress hwrites
        hkept.fits
    constructor
    · intro hash
      rw [hclientCache, hcache]
      exact (presence_eq_iff _ _ _).mpr (hkept.presence hash)
    · have hsplit := (filterMap_split_iff
        (silentAtEnd_punchAnswerOf P handler.peers) received).mpr
        fun message hmem => (hkept.silent message hmem).2
      rw [punchAnswers_drainBlobs, List.nil_append] at hsplit
      rw [hclientAnswers, hanswers, hsplit]
    · have hsplit := (filterMap_split_iff
        (silentAtEnd_eventOf P messages blobs privkey handler.peers)
        received).mpr fun message hmem => (hkept.silent message hmem).1
      rw [hclientEvents, hevents, hsplit]

/-! ## A contact that comes online during the drain -/

def drainingHandler : HandlerState :=
  ⟨samplePeers (sampleKeys 1), [], none⟩

/-- A contact comes online and asks for a hole punch. -/
def contactCalls : List Received :=
  [(.peerOnline ((sampleKeys 1).id .transparent) "203.0.113.9:5000",
    samplePending.env),
    (.requestHolePunch ((sampleKeys 1).id .transparent) (.replicate 32 8),
      samplePending.env)]

def mailboxEnds : List Received := [(.pendingBlobsEnd, samplePending.env)]

theorem calls_after_drain_handled :
    SameOutcome .transparent
      (clientRun .transparent transparentMessages transparentBlobs
        transparentWire (sampleKeys 3).x25519Priv drainingHandler
        "203.0.113.7:4000" (mailboxEnds ++ contactCalls))
      (handledRun .transparent transparentMessages transparentBlobs
        (sampleKeys 3).x25519Priv drainingHandler "203.0.113.7:4000"
        (mailboxEnds ++ contactCalls)) := by
  have hwrites : ∀ message ∈ mailboxEnds ++ contactCalls,
      message.2.writeError = none := by
    simp [mailboxEnds, contactCalls, samplePending]
  have hdropped : drainDropped (contactsListed .transparent
      drainingHandler.peers) (mailboxEnds ++ contactCalls) = [] := rfl
  refine (drain_phase_loses_nothing_iff .transparent transparentMessages
    transparentBlobs transparentWire_roundTrip (sampleKeys 3).x25519Priv
    (samplePeers_wellKeyed (sampleKeys 1))
    (samplePeers_storedByIdentity (sampleKeys 1)) "203.0.113.7:4000"
    hwrites).1.mpr ⟨Nat.zero_le 99, ?_, ?_⟩
  · rw [hdropped]
    simp
  · intro hash
    rw [hdropped]
    exact Or.inr (Or.inl rfl)

/-- Before `PendingBlobsEnd` the contact stays offline in the cache and its
request is not answered. -/
theorem calls_during_drain_lost :
    (clientRun .transparent transparentMessages transparentBlobs
        transparentWire (sampleKeys 3).x25519Priv drainingHandler
        "203.0.113.7:4000" (contactCalls ++ mailboxEnds)).punchAnswers =
        [] ∧
      (handledRun .transparent transparentMessages transparentBlobs
        (sampleKeys 3).x25519Priv drainingHandler "203.0.113.7:4000"
        (contactCalls ++ mailboxEnds)).punchAnswers =
        [.new (.requestAccepted (.replicate 32 8)) none 1000] ∧
      ¬ SameOutcome .transparent
        (clientRun .transparent transparentMessages transparentBlobs
          transparentWire (sampleKeys 3).x25519Priv drainingHandler
          "203.0.113.7:4000" (contactCalls ++ mailboxEnds))
        (handledRun .transparent transparentMessages transparentBlobs
          (sampleKeys 3).x25519Priv drainingHandler "203.0.113.7:4000"
          (contactCalls ++ mailboxEnds)) := by
  refine ⟨rfl, rfl, fun hsame => ?_⟩
  have hanswers := hsame.answers
  contradiction

end SechatClient
