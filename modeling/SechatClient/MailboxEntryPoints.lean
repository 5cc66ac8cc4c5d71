import SechatClient.DispatchLoop
import SechatClient.MailboxDrain

/-!
# The two entry points of the mailbox

Pending blobs are handled by the drain loop while the client connects and by
`handle_message` afterwards.  Both acknowledge every blob and leave the same
store, whatever the blobs contain; in particular the slices which
`decrypt_blob` and `decrypt_message_stored` take are always in range.

The events are consumed while the drain runs, so its sends do not wait.
-/

namespace SechatClient

open ByteStrings

/-! ## Slices of the two decryptions -/

section Slices

variable (P : Primitives)

/-- `decrypt_message_stored` with its slices; `none` is a panic. -/
def decryptMessageStoredSliced (data : Bytes) (storagekey : KeyType) :
    Option (Except CryptoErrors Bytes) :=
  if data.length < 12 then
    some (.error .corruptedFile)
  else do
    let nonce ← slice data 0 12
    let ciphertext ← slice data 12 data.length
    let nonce ← nonceFromSlice nonce
    match P.aeadDecrypt storagekey nonce ciphertext with
    | none => some (.error .cryptographicError)
    | some plainbytes => some (.ok plainbytes)

def decryptBlobSliced (blob : Bytes) (privkey : KeyType) :
    Option (Except CryptoErrors Bytes) :=
  if blob.length < 44 then
    some (.error .corruptedFile)
  else do
    match keyTryFrom (← slice blob 0 32) with
    | .error e => some (.error e)
    | .ok ephPub =>
        let nonce ← slice blob 32 44
        let ciphertext ← slice blob 44 blob.length
        let nonce ← nonceFromSlice nonce
        match P.aeadDecrypt (blobKey P (P.diffieHellman privkey ephPub)) nonce
            ciphertext with
        | none => some (.error .cryptographicError)
        | some decrypted => some (.ok decrypted)

theorem decryptMessageStoredSliced_eq (data : Bytes) (storagekey : KeyType) :
    decryptMessageStoredSliced P data storagekey =
      some (decryptMessageStored P data storagekey) := by
  unfold decryptMessageStoredSliced decryptMessageStored
  split
  next => rfl
  next hlong =>
    have hnonce : nonceFromSlice (data.take 12) =
        some (arrayOfBytes 12 (data.take 12)) := by
      apply if_pos
      rw [List.length_take]
      omega
    rw [slice_of_le (by omega) (by omega), slice_to_end (by omega)]
    simp only [List.drop_zero, Nat.sub_zero, Option.bind_eq_bind,
      Option.bind_some, hnonce]
    cases P.aeadDecrypt storagekey (arrayOfBytes 12 (data.take 12))
        (data.drop 12) <;> rfl

theorem decryptBlobSliced_eq (blob : Bytes) (privkey : KeyType) :
    decryptBlobSliced P blob privkey = some (decryptBlob P blob privkey) := by
  unfold decryptBlobSliced decryptBlob
  split
  next => rfl
  next hlong =>
    have hkey : keyTryFrom (blob.take 32) =
        .ok (arrayOfBytes 32 (blob.take 32)) := by
      apply if_pos
      rw [List.length_take]
      omega
    have hnonce : nonceFromSlice ((blob.drop 32).take 12) =
        some (arrayOfBytes 12 ((blob.drop 32).take 12)) := by
      apply if_pos
      rw [List.length_take, List.length_drop]
      omega
    rw [slice_of_le (by omega) (by omega), slice_to_end (by omega),
      slice_of_le (by omega) (by omega)]
    simp only [List.drop_zero, Nat.sub_zero, Option.bind_eq_bind,
      Option.bind_some, hkey, Nat.reduceSub, hnonce]
    cases P.aeadDecrypt (blobKey P (P.diffieHellman privkey
        (arrayOfBytes 32 (blob.take 32))))
        (arrayOfBytes 12 ((blob.drop 32).take 12)) (blob.drop 44) <;> rfl

end Slices

/-! ## The drain while its events are consumed -/

section Drain

structure ConsumedState where
  peers : PeersDir
  events : List ServerEvent
  written : List Bytes

inductive ConsumedResult where
  | ended (state : ConsumedState)
  | reading (state : ConsumedState)
  | failed (state : ConsumedState) (error : ClientErrors)

variable (P : Primitives) (messages : Codec Message)
  (blobs : Codec BlobPayload) (wire : Codec ClientToServer)

/-- The drain loop of `server_initial_handshake`; `events` are those sent. -/
def drainConsumed (privkey : KeyType) :
    ConsumedState → List (ServerMessage × DrainEnv) → ConsumedResult
  | state, [] => .reading state
  | state, (message, env) :: rest =>
      match message with
      | .pendingBlobsEnd => .ended state
      | .pendingBlob blobId blob _ =>
          let result :=
            processBlob P messages blobs state.peers privkey env.blob blob
          let events := state.events ++ result.event.toList
          match ackBlob wire env blobId with
          | .error e => .failed ⟨result.peers, events, state.written⟩ e
          | .ok bytes =>
              drainConsumed privkey
                ⟨result.peers, events, state.written ++ [bytes]⟩ rest
      | .authFailed reason => .failed state (.authFailed reason)
      | .error reason => .failed state (.serverError reason)
      | _ => drainConsumed privkey state rest

def DrainState.consumed (state : DrainState) : ConsumedState :=
  ⟨state.peers, state.events.items, state.written⟩

def DrainResult.consumed : DrainResult → Option ConsumedResult
  | .ended state => some (.ended state.consumed)
  | .reading state => some (.reading state.consumed)
  | .failed state error => some (.failed state.consumed error)
  | .blocked _ => none

variable {P messages blobs wire}

theorem sendEvent_eq_some
    {events sent : EventChannel} {event : Option ServerEvent}
    (hsend : sendEvent events event = some sent) :
    sent.items = events.items ++ event.toList := by
  cases event with
  | none =>
      cases hsend
      simp
  | some event =>
      by_cases hroom : events.items.length < 100
      · obtain ⟨next, hnext, hitems⟩ := BoundedQueue.trySend_of_lt hroom event
        rw [sendEvent, hnext] at hsend
        cases hsend
        rw [hitems, Option.toList_some]
      · rw [sendEvent, BoundedQueue.trySend_of_not_lt hroom] at hsend
        contradiction

/-- Unless it waits for a full channel, the drain with nobody at the channel
does the same. -/
theorem drain_consumed
    {privkey : KeyType} {state : DrainState}
    {received : List (ServerMessage × DrainEnv)} {result : ConsumedResult}
    (hresult : (drain P messages blobs wire privkey state received).consumed =
      some result) :
    drainConsumed P messages blobs wire privkey state.consumed received =
      result := by
  induction received generalizing state with
  | nil =>
      cases hresult
      rfl
  | cons head rest ih =>
      obtain ⟨message, env⟩ := head
      cases message with
      | pendingBlob blobId blob timestamp =>
          simp only [drain] at hresult
          simp only [drainConsumed]
          cases hsend : sendEvent state.events (processBlob P messages blobs
              state.peers privkey env.blob blob).event with
          | none =>
              rw [hsend] at hresult
              cases hresult
          | some events =>
              simp only [hsend] at hresult
              have hitems := sendEvent_eq_some hsend
              cases hack : ackBlob wire env blobId with
              | error e =>
                  simp only [hack] at hresult ⊢
                  cases hresult
                  simp only [DrainState.consumed, hitems]
              | ok bytes =>
                  simp only [hack] at hresult ⊢
                  rw [← ih hresult]
                  simp only [DrainState.consumed, hitems]
      | pendingBlobsEnd =>
          cases hresult
          rfl
      | authFailed reason =>
          cases hresult
          rfl
      | error reason =>
          cases hresult
          rfl
      | authOk | peerOnline | peerOffline | punchHole | requestHolePunch
      | requestDenied | relayData => exact ih hresult

end Drain

/-! ## Both entry points on a list of blobs -/

section Agreement

variable {P : Primitives} {messages : Codec Message}
  {blobs : Codec BlobPayload} {wire : Codec ClientToServer}

/-- The same message for the dispatch loop, at the same clock readings. -/
def PendingBlob.live (pending : PendingBlob) : ServerMessage × HandlerEnv :=
  (.pendingBlob pending.blobId pending.blob pending.timestamp,
    ⟨pending.env.blob, pending.env.ackNow⟩)

def PendingBlob.answer (pending : PendingBlob) : ClientToServer :=
  .new (.ackBlob pending.blobId) none pending.env.ackNow

/-- The store after processing the blobs one after another. -/
def peersAfter (P : Primitives) (messages : Codec Message)
    (blobs : Codec BlobPayload) (privkey : KeyType) (peers : PeersDir)
    (pending : List PendingBlob) : PeersDir :=
  pending.foldl (fun peers blob =>
    (processBlob P messages blobs peers privkey blob.env.blob
      blob.blob).peers) peers

/-- The events which the blobs send one after another. -/
def blobEvents (P : Primitives) (messages : Codec Message)
    (blobs : Codec BlobPayload) (privkey : KeyType) :
    PeersDir → List PendingBlob → List ServerEvent
  | _, [] => []
  | peers, blob :: rest =>
      let result :=
        processBlob P messages blobs peers privkey blob.env.blob blob.blob
      result.event.toList ++ blobEvents P messages blobs privkey result.peers rest

variable (P messages blobs) in
theorem drainConsumed_mailbox
    (hwire : wire.RoundTrip) (privkey : KeyType) (state : ConsumedState)
    {pending : List PendingBlob}
    (hwrites : ∀ blob ∈ pending, blob.env.writeError = none)
    (last : DrainEnv) :
    drainConsumed P messages blobs wire privkey state
        (mailbox pending last) =
      .ended
        { peers := peersAfter P messages blobs privkey state.peers pending
          events := state.events ++
            blobEvents P messages blobs privkey state.peers pending
          written := state.written ++
            pending.map (PendingBlob.ack wire) } := by
  induction pending generalizing state with
  | nil => simp [mailbox, drainConsumed, peersAfter, blobEvents]
  | cons blob rest ih =>
      have hack := ackBlob_of_written hwire (hwrites blob List.mem_cons_self)
      have hrest : ∀ other ∈ rest, other.env.writeError = none :=
        fun other hother => hwrites other (List.mem_cons_of_mem _ hother)
      simp only [mailbox, List.map_cons, List.cons_append,
        PendingBlob.received, drainConsumed, hack]
      rw [← mailbox, ih _ hrest]
      simp [peersAfter, blobEvents]

variable (P messages blobs) in
theorem mainDispatchLoop_blobs
    (privkey : KeyType) (run : DispatchRun) (pending : List PendingBlob) :
    mainDispatchLoop P messages blobs privkey run
        (pending.map PendingBlob.live) =
      { state := { run.state with
          peers := peersAfter P messages blobs privkey run.state.peers
            pending }
        events := run.events ++
          blobEvents P messages blobs privkey run.state.peers pending
        answers := run.answers ++ pending.map PendingBlob.answer
        printed := run.printed } := by
  induction pending generalizing run with
  | nil => simp [peersAfter, blobEvents]
  | cons blob rest ih =>
      rw [List.map_cons, mainDispatchLoop_cons, ih]
      simp [dispatch, handleMessage, PendingBlob.live, PendingBlob.answer,
        generateAckBlob, HandlerResult.response, HandlerResult.error, peersAfter, blobEvents]

end Agreement

/-- Whatever the blobs are, both entry points reach the end of the list, send
exactly one ack for each, with its id and in order, and leave the same store;
the drain into the bounded channel ends there too unless it waits for a free
place; no slice of the two decryptions is out of range. -/
theorem mailbox_entry_points_agree
    (P : Primitives) (messages : Codec Message) (blobs : Codec BlobPayload)
    {wire : Codec ClientToServer} (hwire : wire.RoundTrip)
    (privkey : KeyType) (handler : HandlerState) (sent : List ServerEvent)
    (pending : List PendingBlob)
    (hwrites : ∀ blob ∈ pending, blob.env.writeError = none)
    (last : DrainEnv) :
    (∃ final,
      drainConsumed P messages blobs wire privkey ⟨handler.peers, sent, []⟩
          (mailbox pending last) = .ended final ∧
        final.written = pending.map (PendingBlob.ack wire) ∧
        final.peers = (mainDispatchLoop P messages blobs privkey
          (.start handler) (pending.map PendingBlob.live)).state.peers ∧
        final.events = sent ++ (mainDispatchLoop P messages blobs privkey
          (.start handler) (pending.map PendingBlob.live)).events ∧
        ∀ (events : EventChannel) (result : ConsumedResult),
          events.items = sent →
          (drain P messages blobs wire privkey ⟨handler.peers, events, []⟩
            (mailbox pending last)).consumed = some result →
          result = .ended final) ∧
      (mainDispatchLoop P messages blobs privkey (.start handler)
          (pending.map PendingBlob.live)).answers =
        pending.map PendingBlob.answer ∧
      (pending.map PendingBlob.answer).map (fun answer => answer.payload) =
        pending.map (fun blob => ClientMessage.ackBlob blob.blobId) ∧
      writeLoop wire (mainDispatchLoop P messages blobs privkey
          (.start handler) (pending.map PendingBlob.live)).answers =
        pending.map (PendingBlob.ack wire) ∧
      (∀ blob : Bytes, decryptBlobSliced P blob privkey =
        some (decryptBlob P blob privkey)) ∧
      ∀ data storagekey, decryptMessageStoredSliced P data storagekey =
        some (decryptMessageStored P data storagekey) := by
  have hlive := mainDispatchLoop_blobs P messages blobs privkey
    (.start handler) pending
  have hacks : writeLoop wire (pending.map PendingBlob.answer) =
      pending.map (PendingBlob.ack wire) := by
    rw [writeLoop_eq hwire, List.map_map]
    rfl
  have hended := drainConsumed_mailbox P messages blobs hwire privkey
    ⟨handler.peers, sent, []⟩ hwrites last
  refine ⟨⟨_, hended, ?_, ?_, ?_, ?_⟩, ?_, ?_, ?_,
    fun blob => decryptBlobSliced_eq P blob privkey,
    decryptMessageStoredSliced_eq P⟩
  · simp
  · rw [hlive]
    rfl
  · rw [hlive]
    rfl
  · intro events result hevents hresult
    have hdrained := drain_consumed hresult
    rw [DrainState.consumed, hevents, hended] at hdrained
    exact hdrained.symm
  · rw [hlive]
    rfl
  · simp [PendingBlob.answer, ClientToServer.new]
  · rw [hlive]
    exact hacks

/-! ## A poison blob before a message -/

def poisonPending : PendingBlob :=
  ⟨"poison", [255, 0], 990, ⟨sampleEnv, 1000, none⟩⟩

theorem poison_blob_acknowledged :
    ∃ final,
      drainConsumed .transparent transparentMessages transparentBlobs
          transparentWire (sampleKeys 3).x25519Priv
          ⟨samplePeers (sampleKeys 1), [], []⟩
          (mailbox [poisonPending, samplePending] samplePending.env) =
        .ended final ∧
      final.written = [poisonPending.ack transparentWire,
        samplePending.ack transparentWire] := by
  have hwrites : ∀ blob ∈ [poisonPending, samplePending],
      blob.env.writeError = none := by
    intro blob hmem
    simp only [List.mem_cons, List.not_mem_nil, or_false] at hmem
    rcases hmem with rfl | rfl <;> rfl
  obtain ⟨⟨final, hended, hwritten, _⟩, _⟩ := mailbox_entry_points_agree
    .transparent transparentMessages transparentBlobs transparentWire_roundTrip
    (sampleKeys 3).x25519Priv ⟨samplePeers (sampleKeys 1), [], none⟩ []
    [poisonPending, samplePending] hwrites samplePending.env
  exact ⟨final, hended, hwritten⟩

end SechatClient
