import SechatClient.BlobChanges
import SechatClient.ConnectIntents
import SechatClient.ConnectSessions
import SechatClient.PeersDirectory

/-!
# The `Send` command

`handle_command` hands the text to the live session's outbound channel, or as
an offline blob to the server channel, and then stores it as sent.  The store
step does not look at the outcome of the hand-over: a channel whose receiver
is gone takes nothing, and the text is shown as sent all the same.
-/

namespace SechatClient

open ByteStrings OrderedStore

abbrev OutboundChannel := Channel String 100
abbrev ServerChannel := Channel ClientToServer 100

/-- What one command reads from outside: the clocks and the randomness of
the blob and of the stored record, whether the database is open elsewhere,
and what a channel looks like once a send that had to wait can go on. -/
structure CommandEnv where
  now : Int64
  locked : Bool
  recordNonce : Nonce
  generateNow : Int64
  storedNonce : Nonce
  ephSecret : KeyType
  blobNonce : Nonce
  laterOutbound : OutboundChannel
  laterServer : ServerChannel

structure CommandState where
  peers : PeersDir
  sessionMap : KeyType → Option SessionEntry
  outbounds : ℕ → OutboundChannel
  server : ServerChannel

structure CommandResult where
  state : CommandState
  emitted : List AppEvent

/-- The channel as the send that completes finds it. -/
def whenSent {α : Type} {capacity : ℕ} (channel later : Channel α capacity) :
    Channel α capacity :=
  if channel.waits then later else channel

section Steps

variable (P : Primitives) (messages : Codec Message)
  (blobs : Codec BlobPayload) (keys : Keys)

def persistSent (env : CommandEnv) (state : CommandState)
    (peerPub : PeerPublic) (peer : KeyType) (text : String) : CommandResult :=
  match persistMessage P messages keys ⟨env.now, env.locked, env.recordNonce⟩
      state.peers peerPub peer text .you env.now with
  | (after, .ok ()) =>
      ⟨{ state with peers := after }, [.messageArrived peer true]⟩
  | (after, .error _) => ⟨{ state with peers := after }, []⟩

/-- The branch with a live entry; a failed send removes the entry. -/
def sendOverSession (env : CommandEnv) (state : CommandState)
    (peerPub : PeerPublic) (peer : KeyType) (text : String)
    (entry : SessionEntry) : Option CommandResult :=
  match (whenSent (state.outbounds entry.outbound)
      env.laterOutbound).send text with
  | none => none
  | some (channel, accepted) =>
      let sent := { state with
        outbounds := Function.update state.outbounds entry.outbound channel
        sessionMap :=
          if accepted then state.sessionMap
          else Function.update state.sessionMap peer none }
      some (persistSent P messages keys env sent peerPub peer text)

/-- The blob for a peer without an entry. -/
def offlineBlob (env : CommandEnv) (peerPub : PeerPublic) (text : String) :
    Except ClientErrors ClientToServer :=
  generateOfflineMessage P messages blobs peerPub keys.x25519Pub
    keys.x25519Priv keys.ed25519Signing text env.storedNonce env.ephSecret
    env.blobNonce env.generateNow

/-- The branch without an entry; the outcome of the send is dropped. -/
def sendOffline (env : CommandEnv) (state : CommandState)
    (peerPub : PeerPublic) (peer : KeyType) (text : String) :
    Option CommandResult :=
  match offlineBlob P messages blobs keys env peerPub text with
  | .error e => some ⟨state, [.error ("send failed: " ++ e.display)]⟩
  | .ok msg =>
      match (whenSent state.server env.laterServer).send msg with
      | none => none
      | some (channel, _) =>
          some (persistSent P messages keys env { state with server := channel }
            peerPub peer text)

/-- `handle_command` on `Send`; `none` while a send waits for room. -/
def handleSend (env : CommandEnv) (state : CommandState) (peer : KeyType)
    (text : String) : Option CommandResult :=
  match loadPeerData P state.peers peer with
  | .error e => some ⟨state, [.error ("unknown peer: " ++ e.display)]⟩
  | .ok peerPub =>
      match state.sessionMap peer with
      | some entry =>
          sendOverSession P messages keys env state peerPub peer text entry
      | none => sendOffline P messages blobs keys env state peerPub peer text

/-! ## What the user is shown -/

/-- The record the store step writes. -/
def sentRecord (env : CommandEnv) (peers : PeersDir) (peerPub : PeerPublic)
    (peer : KeyType) (text : String) : Option (Bytes × Bytes) :=
  insertedRecord P messages ⟨env.now, env.locked, env.recordNonce⟩
    (chatRecords peers peer)
    (loadStorageKey P peerPub.publicKey keys.x25519Priv)
    ⟨.you, text, env.now⟩

/-- The text is stored with author `You` and announced. -/
def ShownAsSent (env : CommandEnv) (state : CommandState)
    (peerPub : PeerPublic) (peer : KeyType) (text : String)
    (result : CommandResult) : Prop :=
  AppEvent.messageArrived peer true ∈ result.emitted ∧
    ∃ record, sentRecord P messages keys env state.peers peerPub peer text =
        some record ∧
      chatRecords result.state.peers peer =
        (chatRecords state.peers peer).insert record.1 record.2

/-- The text went into the session's outbound channel and nothing into the
server channel, or it went as a blob for the peer into the server channel
and nothing into an outbound channel. -/
def HandedToOnePath (env : CommandEnv) (state : CommandState)
    (peerPub : PeerPublic) (peer : KeyType) (text : String)
    (result : CommandResult) : Prop :=
  (∃ entry, state.sessionMap peer = some entry ∧
      (result.state.outbounds entry.outbound).queue.items =
        (whenSent (state.outbounds entry.outbound)
          env.laterOutbound).queue.items ++ [text] ∧
      result.state.server = state.server) ∨
    ∃ msg blob, state.sessionMap peer = none ∧
      offlineBlob P messages blobs keys env peerPub text = .ok msg ∧
      msg.payload = .sendBlob (peerPub.hash P) blob ∧
      result.state.server.queue.items =
        (whenSent state.server env.laterServer).queue.items ++ [msg] ∧
      result.state.outbounds = state.outbounds

/-- The send finds its channel without a receiver. -/
def ReceiverGone (env : CommandEnv) (state : CommandState)
    (peerPub : PeerPublic) (peer : KeyType) (text : String) : Prop :=
  (∃ entry, state.sessionMap peer = some entry ∧
      (whenSent (state.outbounds entry.outbound) env.laterOutbound).isOpen =
        false) ∨
    ∃ msg, state.sessionMap peer = none ∧
      offlineBlob P messages blobs keys env peerPub text = .ok msg ∧
      (whenSent state.server env.laterServer).isOpen = false

end Steps

section Outcomes

variable {P : Primitives} {messages : Codec Message}
  {blobs : Codec BlobPayload} {keys : Keys} {env : CommandEnv}
  {peerPub : PeerPublic} {peer : KeyType} {text : String}

variable (P messages keys env peerPub peer text) in
/-- The store step changes the store only, and announces what it stored. -/
theorem persistSent_spec (state : CommandState) :
    let result := persistSent P messages keys env state peerPub peer text
    result.state.outbounds = state.outbounds ∧
      result.state.server = state.server ∧
      (ShownAsSent P messages keys env state peerPub peer text result ↔
        (sentRecord P messages keys env state.peers peerPub peer
          text).isSome = true) := by
  have hok := storeInChat_isOk P messages
    ⟨env.now, env.locked, env.recordNonce⟩ state.peers peer
    (loadStorageKey P peerPub.publicKey keys.x25519Priv) ⟨.you, text, env.now⟩
  have hrecords := chatRecords_storeInChat_self P messages
    ⟨env.now, env.locked, env.recordNonce⟩ state.peers peer
    (loadStorageKey P peerPub.publicKey keys.x25519Priv) ⟨.you, text, env.now⟩
  unfold persistSent persistMessage
  unfold ShownAsSent sentRecord
  cases hstore : storeInChat P messages
      ⟨env.now, env.locked, env.recordNonce⟩ state.peers peer
      (loadStorageKey P peerPub.publicKey keys.x25519Priv)
      ⟨.you, text, env.now⟩ with
  | mk after outcome =>
      rw [hstore] at hok hrecords
      cases outcome with
      | error e =>
          have hnone := hok.symm
          simp only [Except.isOk, Except.toBool] at hnone
          simp [hnone]
      | ok stored =>
          have hsome := hok.symm
          simp only [Except.isOk, Except.toBool] at hsome
          obtain ⟨record, hrecord⟩ := Option.isSome_iff_exists.mp hsome
          rw [hrecord] at hrecords
          simpa [hrecord] using hrecords

theorem sendOverSession_spec
    {state : CommandState} {entry : SessionEntry} {result : CommandResult}
    (hsend : sendOverSession P messages keys env state peerPub peer text
      entry = some result) :
    let channel := whenSent (state.outbounds entry.outbound)
      env.laterOutbound
    result.state.server = state.server ∧
      (result.state.outbounds entry.outbound).queue.items =
        channel.queue.items ++ (if channel.isOpen then [text] else []) ∧
      (ShownAsSent P messages keys env state peerPub peer text result ↔
        (sentRecord P messages keys env state.peers peerPub peer
          text).isSome = true) := by
  intro channel
  unfold sendOverSession at hsend
  split at hsend
  next => contradiction
  next next accepted haccepted =>
    cases hsend
    obtain ⟨hopen, hitems⟩ := Channel.send_eq_some haccepted
    obtain ⟨houtbounds, hserver, hshown⟩ := persistSent_spec P messages keys
      env peerPub peer text
      { state with
        outbounds := Function.update state.outbounds entry.outbound next
        sessionMap :=
          if accepted then state.sessionMap
          else Function.update state.sessionMap peer none }
    refine ⟨hserver, ?_, hshown⟩
    rw [houtbounds]
    simp only [Function.update_self]
    rw [hitems, hopen]

theorem sendOffline_spec
    {state : CommandState} {msg : ClientToServer} {result : CommandResult}
    (hmsg : offlineBlob P messages blobs keys env peerPub text = .ok msg)
    (hsend : sendOffline P messages blobs keys env state peerPub peer text =
      some result) :
    let channel := whenSent state.server env.laterServer
    result.state.outbounds = state.outbounds ∧
      result.state.server.queue.items =
        channel.queue.items ++ (if channel.isOpen then [msg] else []) ∧
      (ShownAsSent P messages keys env state peerPub peer text result ↔
        (sentRecord P messages keys env state.peers peerPub peer
          text).isSome = true) := by
  intro channel
  unfold sendOffline at hsend
  rw [hmsg] at hsend
  simp only at hsend
  split at hsend
  next => contradiction
  next next accepted haccepted =>
    cases hsend
    obtain ⟨hopen, hitems⟩ := Channel.send_eq_some haccepted
    obtain ⟨houtbounds, hserver, hshown⟩ := persistSent_spec P messages keys
      env peerPub peer text { state with server := next }
    refine ⟨houtbounds, ?_, hshown⟩
    rw [hserver, hitems, hopen]

theorem offlineBlob_payload
    {msg : ClientToServer}
    (hmsg : offlineBlob P messages blobs keys env peerPub text = .ok msg) :
    ∃ blob, msg.payload = .sendBlob (peerPub.hash P) blob := by
  unfold offlineBlob generateOfflineMessage at hmsg
  split at hmsg
  next => contradiction
  next =>
    split at hmsg
    next => contradiction
    next =>
      cases hmsg
      exact ⟨_, rfl⟩

/-- Over a live entry the text is handed over exactly if the channel has a
receiver. -/
theorem handed_over_session_iff
    {state : CommandState} {entry : SessionEntry} {result : CommandResult}
    (hentry : state.sessionMap peer = some entry)
    (hsend : sendOverSession P messages keys env state peerPub peer text
      entry = some result) :
    HandedToOnePath P messages blobs keys env state peerPub peer text
        result ↔
      ¬ ReceiverGone P messages blobs keys env state peerPub peer text := by
  obtain ⟨hserver, hitems, _⟩ := sendOverSession_spec hsend
  unfold HandedToOnePath ReceiverGone
  rw [hentry]
  cases hopen : (whenSent (state.outbounds entry.outbound)
      env.laterOutbound).isOpen with
  | true => simp [hitems, hserver, hopen]
  | false => simp [hitems, hopen]

theorem handed_over_offline_iff
    {state : CommandState} {msg : ClientToServer} {result : CommandResult}
    (hentry : state.sessionMap peer = none)
    (hmsg : offlineBlob P messages blobs keys env peerPub text = .ok msg)
    (hsend : sendOffline P messages blobs keys env state peerPub peer text =
      some result) :
    HandedToOnePath P messages blobs keys env state peerPub peer text
        result ↔
      ¬ ReceiverGone P messages blobs keys env state peerPub peer text := by
  obtain ⟨houtbounds, hitems, _⟩ := sendOffline_spec hmsg hsend
  obtain ⟨blob, hblob⟩ := offlineBlob_payload hmsg
  unfold HandedToOnePath ReceiverGone
  rw [hentry, hmsg]
  cases hopen : (whenSent state.server env.laterServer).isOpen with
  | true => simp [hitems, houtbounds, hopen, hblob]
  | false => simp [hitems, hopen]

theorem not_shown_of_error
    {state : CommandState} (reason : String) :
    ¬ ShownAsSent P messages keys env state peerPub peer text
      ⟨state, [.error reason]⟩ := by
  rintro ⟨hemitted, _⟩
  simp at hemitted

/-- A text shown as sent was handed to exactly one outgoing path, unless the
store step succeeds after a send that found no receiver. -/
theorem sent_text_handed_over_iff
    (P : Primitives) (messages : Codec Message) (blobs : Codec BlobPayload)
    (keys : Keys) (env : CommandEnv) (state : CommandState) (peer : KeyType)
    (text : String) (result : CommandResult)
    (hresult : handleSend P messages blobs keys env state peer text =
      some result) :
    (∀ peerPub, loadPeerData P state.peers peer = .ok peerPub →
        ShownAsSent P messages keys env state peerPub peer text result →
        HandedToOnePath P messages blobs keys env state peerPub peer text
          result) ↔
      ∀ peerPub, loadPeerData P state.peers peer = .ok peerPub →
        (sentRecord P messages keys env state.peers peerPub peer
          text).isSome = true →
        ¬ ReceiverGone P messages blobs keys env state peerPub peer text := by
  unfold handleSend at hresult
  apply forall_congr'
  intro peerPub
  apply imp_congr_right
  intro hload
  rw [hload] at hresult
  simp only at hresult
  cases hentry : state.sessionMap peer with
  | some entry =>
      rw [hentry] at hresult
      rw [(sendOverSession_spec hresult).2.2,
        handed_over_session_iff hentry hresult]
  | none =>
      rw [hentry] at hresult
      cases hmsg : offlineBlob P messages blobs keys env peerPub text with
      | ok msg =>
          rw [(sendOffline_spec hmsg hresult).2.2,
            handed_over_offline_iff hentry hmsg hresult]
      | error e =>
          simp only [sendOffline, hmsg, Option.some.injEq] at hresult
          have hgone : ¬ ReceiverGone P messages blobs keys env state peerPub
              peer text := by
            simp [ReceiverGone, hentry, hmsg]
          have hshown : ¬ ShownAsSent P messages keys env state peerPub peer
              text result := by
            rw [← hresult]
            exact not_shown_of_error _
          exact ⟨fun _ _ => hgone, fun _ hsent => absurd hsent hshown⟩

end Outcomes

/-! ## Sample commands -/

def sampleCommandEnv : CommandEnv where
  now := 1000
  locked := false
  recordNonce := Vector.replicate 12 9
  generateNow := 1000
  storedNonce := Vector.replicate 12 7
  ephSecret := Vector.replicate 32 8
  blobNonce := Vector.replicate 12 6
  laterOutbound := ⟨true, .empty⟩
  laterServer := ⟨true, .empty⟩

/-- A client with one contact, with or without an entry for it, whose
channels all have or lack a receiver. -/
def sampleCommandState (live isOpen : Bool) : CommandState where
  peers := samplePeers (sampleKeys 1)
  sessionMap := fun _ => if live then some ⟨0, none⟩ else none
  outbounds := fun _ => ⟨isOpen, .empty⟩
  server := ⟨isOpen, .empty⟩

theorem sampleCommand_sentRecord (live isOpen : Bool) :
    (sentRecord .transparent transparentMessages (sampleKeys 3)
      sampleCommandEnv (sampleCommandState live isOpen).peers
      (sampleKeys 1).publicPart ((sampleKeys 1).id .transparent)
      "hi").isSome = true := by
  unfold sentRecord
  rw [show (sampleCommandState live isOpen).peers =
    samplePeers (sampleKeys 1) from rfl, samplePeers_records]
  rfl

theorem sampleCommand_offlineBlob :
    ∃ msg, offlineBlob .transparent transparentMessages transparentBlobs
      (sampleKeys 3) sampleCommandEnv (sampleKeys 1).publicPart "hi" =
        .ok msg :=
  ⟨_, rfl⟩

theorem sampleCommand_returns (live isOpen : Bool) :
    ∃ result, handleSend .transparent transparentMessages transparentBlobs
      (sampleKeys 3) sampleCommandEnv (sampleCommandState live isOpen)
      ((sampleKeys 1).id .transparent) "hi" = some result := by
  have hcontact : loadPeerData .transparent
      (sampleCommandState live isOpen).peers
      ((sampleKeys 1).id .transparent) = .ok (sampleKeys 1).publicPart :=
    samplePeers_contact (sampleKeys 1)
  obtain ⟨msg, hmsg⟩ := sampleCommand_offlineBlob
  unfold handleSend
  rw [hcontact]
  cases live <;> cases isOpen
  · simp only [sampleCommandState, Bool.false_eq_true, if_false, sendOffline,
      hmsg]
    exact ⟨_, rfl⟩
  · simp only [sampleCommandState, Bool.false_eq_true, if_false, sendOffline,
      hmsg]
    exact ⟨_, rfl⟩
  · exact ⟨_, rfl⟩
  · exact ⟨_, rfl⟩

theorem sample_text_handed_over :
    ∃ result, handleSend .transparent transparentMessages transparentBlobs
        (sampleKeys 3) sampleCommandEnv (sampleCommandState true true)
        ((sampleKeys 1).id .transparent) "hi" = some result ∧
      ∀ peerPub, loadPeerData .transparent
          (sampleCommandState true true).peers
          ((sampleKeys 1).id .transparent) = .ok peerPub →
        ShownAsSent .transparent transparentMessages (sampleKeys 3)
          sampleCommandEnv (sampleCommandState true true) peerPub
          ((sampleKeys 1).id .transparent) "hi" result →
        HandedToOnePath .transparent transparentMessages transparentBlobs
          (sampleKeys 3) sampleCommandEnv (sampleCommandState true true)
          peerPub ((sampleKeys 1).id .transparent) "hi" result := by
  obtain ⟨result, hresult⟩ := sampleCommand_returns true true
  refine ⟨result, hresult, (sent_text_handed_over_iff .transparent
    transparentMessages transparentBlobs (sampleKeys 3) sampleCommandEnv
    (sampleCommandState true true) ((sampleKeys 1).id .transparent) "hi"
    result hresult).mpr ?_⟩
  rintro peerPub _ _ (⟨entry, _, hclosed⟩ | ⟨msg, hnone, _⟩)
  · simp [sampleCommandState, whenSent, Channel.waits] at hclosed
  · simp [sampleCommandState] at hnone

/-- A dead session that is still in the map, and a relay connection that is
down: the text is shown as sent and nothing accepted it. -/
theorem sample_text_lost :
    (∃ result, handleSend .transparent transparentMessages transparentBlobs
        (sampleKeys 3) sampleCommandEnv (sampleCommandState true false)
        ((sampleKeys 1).id .transparent) "hi" = some result ∧
      ShownAsSent .transparent transparentMessages (sampleKeys 3)
        sampleCommandEnv (sampleCommandState true false)
        (sampleKeys 1).publicPart ((sampleKeys 1).id .transparent) "hi"
        result ∧
      ¬ HandedToOnePath .transparent transparentMessages transparentBlobs
        (sampleKeys 3) sampleCommandEnv (sampleCommandState true false)
        (sampleKeys 1).publicPart ((sampleKeys 1).id .transparent) "hi"
        result) ∧
      ∃ result, handleSend .transparent transparentMessages transparentBlobs
          (sampleKeys 3) sampleCommandEnv (sampleCommandState false false)
          ((sampleKeys 1).id .transparent) "hi" = some result ∧
        ShownAsSent .transparent transparentMessages (sampleKeys 3)
          sampleCommandEnv (sampleCommandState false false)
          (sampleKeys 1).publicPart ((sampleKeys 1).id .transparent) "hi"
          result ∧
        ¬ HandedToOnePath .transparent transparentMessages transparentBlobs
          (sampleKeys 3) sampleCommandEnv (sampleCommandState false false)
          (sampleKeys 1).publicPart ((sampleKeys 1).id .transparent) "hi"
          result := by
  have hcontact : ∀ live, loadPeerData .transparent
      (sampleCommandState live false).peers
      ((sampleKeys 1).id .transparent) = .ok (sampleKeys 1).publicPart :=
    fun _ => samplePeers_contact (sampleKeys 1)
  obtain ⟨msg, hmsg⟩ := sampleCommand_offlineBlob
  constructor
  · obtain ⟨result, hresult⟩ := sampleCommand_returns true false
    have hsend := hresult
    unfold handleSend at hsend
    rw [hcontact true] at hsend
    have hentry : (sampleCommandState true false).sessionMap
        ((sampleKeys 1).id .transparent) = some ⟨0, none⟩ := rfl
    rw [hentry] at hsend
    refine ⟨result, hresult, (sendOverSession_spec hsend).2.2.mpr
      (sampleCommand_sentRecord true false), ?_⟩
    rw [handed_over_session_iff hentry hsend, not_not]
    exact Or.inl ⟨⟨0, none⟩, hentry, rfl⟩
  · obtain ⟨result, hresult⟩ := sampleCommand_returns false false
    have hsend := hresult
    unfold handleSend at hsend
    rw [hcontact false] at hsend
    have hentry : (sampleCommandState false false).sessionMap
        ((sampleKeys 1).id .transparent) = none := rfl
    rw [hentry] at hsend
    refine ⟨result, hresult, (sendOffline_spec hmsg hsend).2.2.mpr
      (sampleCommand_sentRecord false false), ?_⟩
    rw [handed_over_offline_iff hentry hmsg hsend, not_not]
    exact Or.inr ⟨msg, hentry, hmsg, rfl⟩

end SechatClient
