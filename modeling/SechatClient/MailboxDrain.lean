import SechatClient.BlobDelivery
import SechatClient.BoundedQueue

/-!
# The connect-time mailbox drain

After `AuthOk` the client reads its pending blobs until `PendingBlobsEnd`,
processes and acknowledges each.  It runs inside `run_client`, before
`orchestrate` polls the event channel, so every event it sends stays in the
channel and a send into the full channel never returns.
-/

namespace SechatClient

open ByteStrings

abbrev EventChannel := BoundedQueue ServerEvent 100

/-- What one round of the drain reads from outside: the environment of
`process_blob`, the clock of the ack and the outcome of writing it. -/
structure DrainEnv where
  blob : BlobEnv
  ackNow : Int64
  writeError : Option String

structure DrainState where
  peers : PeersDir
  events : EventChannel
  written : List Bytes

/-- How far the drain got: to `PendingBlobsEnd`, to the end of what the
server has sent so far, to an error, or to a send that waits forever. -/
inductive DrainResult where
  | ended (state : DrainState)
  | reading (state : DrainState)
  | failed (state : DrainState) (error : ClientErrors)
  | blocked (state : DrainState)

variable (P : Primitives) (messages : Codec Message)
  (blobs : Codec BlobPayload) (wire : Codec ClientToServer)

def ackBlob (env : DrainEnv) (blobId : String) : Except ClientErrors Bytes :=
  match wire.toVec (.new (generateAckBlob blobId) none env.ackNow) with
  | .error e => .error (.serializationFailed e)
  | .ok bytes =>
      match env.writeError with
      | some e => .error (.writeFailed e)
      | none => .ok bytes

def sendEvent (events : EventChannel) : Option ServerEvent → Option EventChannel
  | none => some events
  | some event => events.trySend event

def drain (privkey : KeyType) :
    DrainState → List (ServerMessage × DrainEnv) → DrainResult
  | state, [] => .reading state
  | state, (message, env) :: rest =>
      match message with
      | .pendingBlobsEnd => .ended state
      | .pendingBlob blobId blob _ =>
          let result :=
            processBlob P messages blobs state.peers privkey env.blob blob
          match sendEvent state.events result.event with
          | none => .blocked { state with peers := result.peers }
          | some events =>
              match ackBlob wire env blobId with
              | .error e => .failed ⟨result.peers, events, state.written⟩ e
              | .ok bytes =>
                  drain privkey
                    ⟨result.peers, events, state.written ++ [bytes]⟩ rest
      | .authFailed reason => .failed state (.authFailed reason)
      | .error reason => .failed state (.serverError reason)
      | _ => drain privkey state rest

/-- The address which `server_initial_handshake` sets as the client's own: the
one given, else the observed one with the port of the UDP socket. -/
def announceAddress (announceOverride : Option String)
    (observedAddress : String) (udpPort : UInt16) : String :=
  announceOverride.getD
    (match rsplitOnce ':' observedAddress with
    | some (ip, _) => ip ++ ":" ++ toString udpPort
    | none => observedAddress)

/-- From the `AuthOk` reply on: `Authenticated` goes into the fresh channel,
then the drain runs. -/
def drainAfterAuth (privkey : KeyType) (peers : PeersDir)
    (observedAddress : String) (received : List (ServerMessage × DrainEnv)) :
    DrainResult :=
  match (BoundedQueue.empty : EventChannel).trySend
      (.authenticated observedAddress) with
  | none => .blocked ⟨peers, .empty, []⟩
  | some events => drain P messages blobs wire privkey ⟨peers, events, []⟩ received

/-! ## Draining pending blobs -/

structure PendingBlob where
  blobId : String
  blob : Bytes
  timestamp : Int64
  env : DrainEnv

def PendingBlob.received (pending : PendingBlob) : ServerMessage × DrainEnv :=
  (.pendingBlob pending.blobId pending.blob pending.timestamp, pending.env)

def PendingBlob.ack (pending : PendingBlob) : Bytes :=
  wire.bytesOf (.new (.ackBlob pending.blobId) none pending.env.ackNow)

def mailbox (pending : List PendingBlob) (last : DrainEnv) :
    List (ServerMessage × DrainEnv) :=
  pending.map PendingBlob.received ++ [(.pendingBlobsEnd, last)]

def PendingBlob.storable (peers : PeersDir) (privkey : KeyType)
    (pending : PendingBlob) : Bool :=
  (storableSender P messages blobs peers privkey pending.env.blob
    pending.blob).isSome

variable {P messages blobs wire}

theorem ackBlob_of_written
    (hwire : wire.RoundTrip) {pending : PendingBlob}
    (hwrite : pending.env.writeError = none) :
    ackBlob wire pending.env pending.blobId = .ok (pending.ack wire) := by
  unfold ackBlob PendingBlob.ack generateAckBlob
  rw [hwire.toVec_eq, hwrite]

theorem storable_congr
    {peers other : PeersDir}
    (hload : ∀ id, loadPeerData P other id = loadPeerData P peers id)
    (privkey : KeyType) :
    PendingBlob.storable P messages blobs other privkey =
      PendingBlob.storable P messages blobs peers privkey := by
  funext pending
  unfold PendingBlob.storable
  rw [storableSender_congr hload]

variable (P messages blobs) in
/-- One round: the event of a storable blob needs a free place. -/
theorem drain_cons
    (hwire : wire.RoundTrip) (privkey : KeyType) {state : DrainState}
    (hkeys : WellKeyed state.peers) {pending : PendingBlob}
    (hwrite : pending.env.writeError = none)
    (rest : List (ServerMessage × DrainEnv)) :
    ∃ peers,
      WellKeyed peers ∧
      (∀ id, loadPeerData P peers id = loadPeerData P state.peers id) ∧
      if state.events.items.length + (if pending.storable P messages blobs
          state.peers privkey then 1 else 0) ≤ 100 then
        ∃ events : EventChannel,
          events.items.length = state.events.items.length +
            (if pending.storable P messages blobs state.peers privkey then 1
            else 0) ∧
          drain P messages blobs wire privkey state
              (pending.received :: rest) =
            drain P messages blobs wire privkey
              ⟨peers, events, state.written ++ [pending.ack wire]⟩ rest
      else
        ∃ stuck, drain P messages blobs wire privkey state
          (pending.received :: rest) = .blocked stuck := by
  have hevent := processBlob_event P messages blobs hkeys privkey
    pending.env.blob pending.blob
  refine ⟨(processBlob P messages blobs state.peers privkey pending.env.blob
    pending.blob).peers, processBlob_wellKeyed hkeys privkey _ _,
    (samePubs_processBlob state.peers privkey _ _).loadPeerData P, ?_⟩
  cases hsender : storableSender P messages blobs state.peers privkey
      pending.env.blob pending.blob with
  | none =>
      have hbounded := state.events.bounded
      rw [hsender] at hevent
      simp only [PendingBlob.storable, hsender]
      rw [if_pos (by simpa using hbounded)]
      refine ⟨state.events, by simp, ?_⟩
      simp only [drain, PendingBlob.received, hevent, Option.map_none,
        sendEvent, ackBlob_of_written hwire hwrite]
  | some sender =>
      rw [hsender] at hevent
      simp only [PendingBlob.storable, hsender, Option.isSome_some, if_true]
      by_cases hroom : state.events.items.length < 100
      · obtain ⟨events, hsend, hitems⟩ :=
          BoundedQueue.trySend_of_lt hroom (ServerEvent.blobStored sender)
        rw [if_pos (by omega)]
        refine ⟨events, by simp [hitems], ?_⟩
        simp only [drain, PendingBlob.received, hevent, Option.map_some,
          sendEvent, hsend, ackBlob_of_written hwire hwrite]
      · have hfull := BoundedQueue.trySend_of_not_lt hroom
          (ServerEvent.blobStored sender)
        rw [if_neg (by omega)]
        refine ⟨{ state with peers := (processBlob P messages blobs state.peers
          privkey pending.env.blob pending.blob).peers }, ?_⟩
        simp only [drain, PendingBlob.received, hevent, Option.map_some,
          sendEvent, hfull]

variable (P messages blobs) in
/-- The whole drain: it ends with every blob acknowledged if the events of
the storable blobs fit into the channel, and blocks otherwise. -/
theorem drain_mailbox
    (hwire : wire.RoundTrip) (privkey : KeyType) (state : DrainState)
    (hkeys : WellKeyed state.peers) {pending : List PendingBlob}
    (hwrites : ∀ blob ∈ pending, blob.env.writeError = none)
    (last : DrainEnv) :
    if state.events.items.length + pending.countP (PendingBlob.storable P
        messages blobs state.peers privkey) ≤ 100 then
      ∃ final, drain P messages blobs wire privkey state
          (mailbox pending last) = .ended final ∧
        final.written = state.written ++ pending.map (PendingBlob.ack wire)
    else
      ∃ stuck, drain P messages blobs wire privkey state
        (mailbox pending last) = .blocked stuck := by
  induction pending generalizing state with
  | nil =>
      have hbounded := state.events.bounded
      rw [if_pos (by simpa using hbounded)]
      exact ⟨state, rfl, by simp⟩
  | cons blob rest ih =>
      obtain ⟨peers, hpeers, hload, hround⟩ := drain_cons P messages
        blobs hwire privkey hkeys (hwrites blob List.mem_cons_self)
        (rest.map PendingBlob.received ++ [(.pendingBlobsEnd, last)])
      by_cases hroom : state.events.items.length +
          (if blob.storable P messages blobs state.peers privkey then 1
          else 0) ≤ 100
      · rw [if_pos hroom] at hround
        obtain ⟨events, hlength, hstep⟩ := hround
        have hrest := ih ⟨peers, events, state.written ++ [blob.ack wire]⟩
          hpeers
          (fun other hother => hwrites other (List.mem_cons_of_mem _ hother))
        have hcount : events.items.length + rest.countP (PendingBlob.storable
            P messages blobs state.peers privkey) =
              state.events.items.length + (blob :: rest).countP
                (PendingBlob.storable P messages blobs state.peers
                  privkey) := by
          rw [hlength, List.countP_cons]
          omega
        simp only [storable_congr hload, hcount] at hrest
        simp only [mailbox, List.map_cons, List.cons_append, hstep]
        split
        next hfits =>
          rw [if_pos hfits] at hrest
          obtain ⟨final, hended, hwritten⟩ := hrest
          exact ⟨final, hended, by simp [hwritten]⟩
        next hfits =>
          rw [if_neg hfits] at hrest
          exact hrest
      · rw [if_neg hroom] at hround
        have hfull : ¬ state.events.items.length + (blob :: rest).countP
            (PendingBlob.storable P messages blobs state.peers privkey) ≤
              100 := by
          rw [List.countP_cons]
          omega
        rw [if_neg hfull]
        exact hround

variable (P messages blobs wire) in
theorem drainAfterAuth_eq (privkey : KeyType) (peers : PeersDir)
    (observedAddress : String) :
    ∃ events : EventChannel,
      events.items = [.authenticated observedAddress] ∧
      ∀ received, drainAfterAuth P messages blobs wire privkey peers
          observedAddress received =
        drain P messages blobs wire privkey ⟨peers, events, []⟩ received := by
  have hroom : (BoundedQueue.empty : EventChannel).items.length < 100 := by
    simp
  obtain ⟨events, hsend, hitems⟩ := BoundedQueue.trySend_of_lt hroom
    (ServerEvent.authenticated observedAddress)
  refine ⟨events, hitems, ?_⟩
  intro received
  unfold drainAfterAuth
  rw [hsend]

/-- Whatever the mailbox holds, the drain reaches its end with every blob
acknowledged exactly when at most 99 of the blobs are offline messages that
will be stored: `Authenticated` takes the first of the 100 places. -/
theorem mailbox_drain_completes_iff
    (hwire : wire.RoundTrip) (privkey : KeyType) (peers : PeersDir)
    (hkeys : WellKeyed peers) (observedAddress : String)
    (pending : List PendingBlob)
    (hwrites : ∀ blob ∈ pending, blob.env.writeError = none)
    (last : DrainEnv) :
    (∃ final, drainAfterAuth P messages blobs wire privkey peers
          observedAddress (mailbox pending last) = .ended final ∧
        final.written = pending.map (PendingBlob.ack wire)) ↔
      pending.countP (PendingBlob.storable P messages blobs peers privkey) ≤
        99 := by
  obtain ⟨events, hitems, hdrain⟩ := drainAfterAuth_eq P messages blobs
    wire privkey peers observedAddress
  have hlength : events.items.length = 1 := by
    rw [hitems]
    rfl
  have hresult := drain_mailbox P messages blobs hwire privkey
    ⟨peers, events, []⟩ hkeys hwrites last
  simp only [hdrain]
  by_cases hfits : events.items.length + pending.countP
      (PendingBlob.storable P messages blobs peers privkey) ≤ 100
  · rw [if_pos hfits] at hresult
    obtain ⟨final, hended, hwritten⟩ := hresult
    constructor
    · intro _
      omega
    · intro _
      exact ⟨final, hended, by simpa using hwritten⟩
  · rw [if_neg hfits] at hresult
    obtain ⟨stuck, hblocked⟩ := hresult
    constructor
    · rintro ⟨final, hended, _⟩
      rw [hblocked] at hended
      contradiction
    · intro _
      omega

/-! ## A hundred offline messages -/

def samplePending : PendingBlob :=
  ⟨"blob", sampleBlob, 995, ⟨sampleEnv, 1000, none⟩⟩

theorem samplePending_storable :
    samplePending.storable .transparent transparentMessages transparentBlobs
      (samplePeers (sampleKeys 1)) (sampleKeys 3).x25519Priv = true := by
  simp only [PendingBlob.storable, samplePending,
    sampleBlob_storable (samplePeers_contact (sampleKeys 1))]
  rfl

theorem samplePending_written (count : ℕ) :
    ∀ blob ∈ List.replicate count samplePending,
      blob.env.writeError = none := by
  intro blob hblob
  rw [List.eq_of_mem_replicate hblob]
  rfl

theorem ninety_nine_messages_drained :
    ∃ final, drainAfterAuth .transparent transparentMessages transparentBlobs
        transparentWire (sampleKeys 3).x25519Priv (samplePeers (sampleKeys 1))
        "203.0.113.7:4000"
        (mailbox (List.replicate 99 samplePending) samplePending.env) =
          .ended final ∧
      final.written =
        (List.replicate 99 samplePending).map
          (PendingBlob.ack transparentWire) :=
  (mailbox_drain_completes_iff transparentWire_roundTrip
    (sampleKeys 3).x25519Priv (samplePeers (sampleKeys 1))
    (samplePeers_wellKeyed (sampleKeys 1)) "203.0.113.7:4000"
    (List.replicate 99 samplePending) (samplePending_written 99)
    samplePending.env).mpr
      (List.countP_le_length.trans (by simp))

theorem sample_drain_blocked {count : ℕ} (hcount : 100 ≤ count) :
    ∃ stuck, drainAfterAuth .transparent transparentMessages
      transparentBlobs transparentWire (sampleKeys 3).x25519Priv
      (samplePeers (sampleKeys 1)) "203.0.113.7:4000"
      (mailbox (List.replicate count samplePending) samplePending.env) =
        .blocked stuck := by
  obtain ⟨events, hitems, hdrain⟩ := drainAfterAuth_eq .transparent
    transparentMessages transparentBlobs transparentWire
    (sampleKeys 3).x25519Priv (samplePeers (sampleKeys 1)) "203.0.113.7:4000"
  have hresult := drain_mailbox .transparent transparentMessages
    transparentBlobs transparentWire_roundTrip (sampleKeys 3).x25519Priv
    ⟨samplePeers (sampleKeys 1), events, []⟩
    (samplePeers_wellKeyed (sampleKeys 1)) (samplePending_written count)
    samplePending.env
  rw [List.countP_replicate, if_pos samplePending_storable, hitems,
    List.length_singleton, if_neg (by omega), ← hdrain] at hresult
  exact hresult

/-- A mailbox of a hundred storable messages: the drain never returns. -/
theorem hundred_messages_block_drain :
    ¬ ∀ (pending : List PendingBlob) (last : DrainEnv),
      (∀ blob ∈ pending, blob.env.writeError = none) →
        ∃ final, drainAfterAuth .transparent transparentMessages
          transparentBlobs transparentWire (sampleKeys 3).x25519Priv
          (samplePeers (sampleKeys 1)) "203.0.113.7:4000"
          (mailbox pending last) = .ended final := by
  intro hall
  obtain ⟨stuck, hblocked⟩ := sample_drain_blocked le_rfl
  obtain ⟨final, hended⟩ := hall (List.replicate 100 samplePending)
    samplePending.env (samplePending_written 100)
  rw [hblocked] at hended
  cases hended

end SechatClient
