import SechatClient.BlobChanges
import SechatClient.MailboxDrain
import SechatClient.MessageHandling

/-!
# Blobs delivered twice

The server keeps a blob until it is acknowledged, so a blob whose ack is lost
with the connection comes again.  Between the two deliveries the client
handles any messages of the dispatch loop and any number of connect-time
drains.  Nothing of this changes the contacts, hence the second delivery
passes the same checks as the first one and has the same effect.
-/

namespace SechatClient

open ByteStrings OrderedStore

/-- The store which a drain leaves, wherever it stopped. -/
def DrainResult.peers : DrainResult → PeersDir
  | .ended state => state.peers
  | .reading state => state.peers
  | .failed state _ => state.peers
  | .blocked state => state.peers

inductive Inbound where
  | live (env : HandlerEnv) (message : ServerMessage)
  | reconnect (announceOverride : Option String) (udpPort : UInt16)
      (observedAddress : String) (received : List (ServerMessage × DrainEnv))

section Inbound

variable (P : Primitives) (messages : Codec Message)
  (blobs : Codec BlobPayload) (wire : Codec ClientToServer)

def receive (privkey : KeyType) (state : HandlerState) :
    Inbound → HandlerState
  | .live env message =>
      (handleMessage P messages blobs privkey env state message).state
  | .reconnect announceOverride udpPort observedAddress received =>
      { state with
        peers := (drainAfterAuth P messages blobs wire privkey state.peers
          observedAddress received).peers
        myAddress := some
          (announceAddress announceOverride observedAddress udpPort) }

def receiveAll (privkey : KeyType) (state : HandlerState)
    (inbound : List Inbound) : HandlerState :=
  inbound.foldl (receive P messages blobs wire privkey) state

variable {P messages blobs wire}

theorem samePubs_drain
    (privkey : KeyType) (state : DrainState)
    (received : List (ServerMessage × DrainEnv)) :
    SamePubs state.peers
      (drain P messages blobs wire privkey state received).peers := by
  induction received generalizing state with
  | nil => exact SamePubs.refl state.peers
  | cons head rest ih =>
      obtain ⟨message, env⟩ := head
      cases message with
      | pendingBlob blobId blob timestamp =>
          have hblob : SamePubs state.peers (processBlob P messages blobs
              state.peers privkey env.blob blob).peers :=
            samePubs_processBlob state.peers privkey env.blob blob
          simp only [drain]
          split
          next => exact hblob
          next events _ =>
            split
            next => exact hblob
            next bytes _ => exact hblob.trans (ih ⟨_, events, _⟩)
      | pendingBlobsEnd => exact SamePubs.refl state.peers
      | authFailed reason => exact SamePubs.refl state.peers
      | error reason => exact SamePubs.refl state.peers
      | authOk observedAddress => exact ih state
      | peerOnline hash ipPort => exact ih state
      | peerOffline hash => exact ih state
      | punchHole token peerHash ipPort punchtimestamp => exact ih state
      | requestHolePunch pubKey token => exact ih state
      | requestDenied token pubKey reason => exact ih state
      | relayData senderHash payload => exact ih state

theorem samePubs_handleMessage
    (privkey : KeyType) (env : HandlerEnv) (state : HandlerState)
    (message : ServerMessage) :
    SamePubs state.peers
      (handleMessage P messages blobs privkey env state message).state.peers := by
  cases message with
  | pendingBlob blobId blob timestamp =>
      exact samePubs_processBlob state.peers privkey env.blob blob
  | peerOnline hash ipPort =>
      simp only [handleMessage]
      split <;> exact SamePubs.refl state.peers
  | _ => exact SamePubs.refl state.peers

theorem samePubs_receive
    (privkey : KeyType) (state : HandlerState) (inbound : Inbound) :
    SamePubs state.peers
      (receive P messages blobs wire privkey state inbound).peers := by
  cases inbound with
  | live env message => exact samePubs_handleMessage privkey env state message
  | reconnect announceOverride udpPort observedAddress received =>
      simp only [receive, drainAfterAuth]
      split
      next => exact SamePubs.refl state.peers
      next events _ => exact samePubs_drain privkey ⟨_, events, []⟩ received

theorem samePubs_receiveAll
    (privkey : KeyType) (state : HandlerState) (inbound : List Inbound) :
    SamePubs state.peers
      (receiveAll P messages blobs wire privkey state inbound).peers := by
  induction inbound generalizing state with
  | nil => exact SamePubs.refl state.peers
  | cons head rest ih =>
      exact (samePubs_receive privkey state head).trans
        (ih (receive P messages blobs wire privkey state head))

/-! ## The second delivery -/

theorem checkPurge_congr
    {peers other : PeersDir}
    (hload : ∀ id, loadPeerData P other id = loadPeerData P peers id)
    (now : Int64) (senderPubHash : KeyType) (signature : Bytes)
    (timestamp : Int64) :
    checkPurge P other now senderPubHash signature timestamp =
      checkPurge P peers now senderPubHash signature timestamp := by
  unfold checkPurge
  rw [hload]

/-- The checks read the contacts and nothing else of the store. -/
theorem blobEffect_congr
    {peers other : PeersDir} (hsame : SamePubs peers other)
    (privkey : KeyType) (now : Int64) (blob : Bytes) :
    blobEffect P messages blobs other privkey now blob =
      blobEffect P messages blobs peers privkey now blob := by
  have hload := hsame.loadPeerData P
  unfold blobEffect
  cases openBlob P blobs privkey blob with
  | error e => rfl
  | ok payload =>
      cases payload with
      | offlineMessage senderPubHash timestamp ciphertext signature =>
          simp only [checkOffline_congr hload]
      | purge senderPubHash signature timestamp =>
          simp only [checkPurge_congr hload]

/-- The effect finds its work done: the record is there already, or there is
nothing to wipe. -/
def EffectIsDone (P : Primitives) (messages : Codec Message) (env : BlobEnv)
    (peers : PeersDir) : BlobEffect → Prop
  | .none => True
  | .store sender storageKey msg =>
      ∀ record, insertedRecord P messages env (chatRecords peers sender)
        storageKey msg = some record →
          record ∈ (chatRecords peers sender).entries
  | .wipe sender => (chatRecords peers sender).entries = []

variable (P messages blobs) in
/-- One delivery leaves all records exactly when its effect is done. -/
theorem processBlob_unchanged_iff
    (peers : PeersDir) (privkey : KeyType) (env : BlobEnv) (blob : Bytes) :
    (∀ id, chatRecords (processBlob P messages blobs peers privkey env
        blob).peers id = chatRecords peers id) ↔
      EffectIsDone P messages env peers
        (blobEffect P messages blobs peers privkey env.now blob) := by
  rw [processBlob_peers]
  cases blobEffect P messages blobs peers privkey env.now blob with
  | none => simp [EffectIsDone]
  | store sender storageKey msg =>
      have hself := chatRecords_storeInChat_self P messages env peers sender
        storageKey msg
      simp only [EffectIsDone]
      constructor
      · intro hall record hrecord
        rw [hall sender, hrecord] at hself
        exact (Tree.insert_eq_self_iff _ _ _).mp hself.symm
      · intro hdone id
        by_cases hid : id = sender
        · subst hid
          rw [hself]
          cases hrecord : insertedRecord P messages env (chatRecords peers id)
              storageKey msg with
          | none => rfl
          | some record =>
              exact (Tree.insert_eq_self_iff _ _ _).mpr
                (hdone record hrecord)
        · exact chatRecords_storeInChat_ne P messages env peers hid
            storageKey msg
  | wipe sender =>
      have hself := chatRecords_purgePeerChat_self peers sender
      simp only [EffectIsDone]
      constructor
      · intro hall
        rw [← hall sender, hself]
        rfl
      · intro hempty id
        by_cases hid : id = sender
        · subst hid
          rw [hself]
          exact Tree.ext hempty.symm
        · exact chatRecords_purgePeerChat_ne peers hid

/-- A blob is delivered, other messages arrive, and it is delivered again.
The second delivery leaves the chat store exactly when the checks, made
against the contacts at the first delivery, give it nothing to do. -/
theorem redelivered_blob_unchanged_iff
    (privkey : KeyType) (state : HandlerState) (blob : Bytes)
    (first second : BlobEnv) (between : List Inbound) :
    let delivered := { state with
      peers := (processBlob P messages blobs state.peers privkey first
        blob).peers }
    let later :=
      (receiveAll P messages blobs wire privkey delivered between).peers
    (∀ id, chatRecords (processBlob P messages blobs later privkey second
        blob).peers id = chatRecords later id) ↔
      EffectIsDone P messages second later
        (blobEffect P messages blobs state.peers privkey second.now blob) := by
  intro delivered later
  have hfirst : SamePubs state.peers delivered.peers :=
    samePubs_processBlob state.peers privkey first blob
  have hlater : SamePubs delivered.peers later :=
    samePubs_receiveAll privkey delivered between
  rw [processBlob_unchanged_iff,
    blobEffect_congr (hfirst.trans hlater) privkey second.now blob]

end Inbound

/-- The sample message, delivered twice with nothing in between and within
its window, is stored a second time. -/
theorem redelivered_sampleBlob_stored_twice :
    openBlob .transparent transparentBlobs (sampleKeys 3).x25519Priv
        sampleBlob = .ok samplePayload ∧
      blobIsFresh 990 sampleEnv.now = true ∧
      let later := (processBlob .transparent transparentMessages
        transparentBlobs (samplePeers (sampleKeys 1))
        (sampleKeys 3).x25519Priv sampleEnv sampleBlob).peers
      ¬ ∀ id, chatRecords (processBlob .transparent transparentMessages
          transparentBlobs later (sampleKeys 3).x25519Priv sampleEnv
          sampleBlob).peers id = chatRecords later id := by
  refine ⟨sampleBlob_opens, by decide, ?_⟩
  intro later hall
  have hcontact := samplePeers_contact (sampleKeys 1)
  have hrecords := samplePeers_records (sampleKeys 1)
  have hone : findCounter (chatRecords (samplePeers (sampleKeys 1))
      ((sampleKeys 1).id .transparent)) = .ok 1 := by
    rw [hrecords]
    rfl
  have hfirst := sampleBlob_records hcontact hone
  have hstored := hall ((sampleKeys 1).id .transparent)
  have htwo : findCounter (chatRecords later
      ((sampleKeys 1).id .transparent)) = .ok 2 := by
    rw [hfirst, hrecords]
    rfl
  have hcontact' : loadPeerData .transparent later
      ((sampleKeys 1).id .transparent) = .ok (sampleKeys 1).publicPart := by
    rw [(samePubs_processBlob _ _ _ _).loadPeerData]
    exact hcontact
  rw [sampleBlob_records hcontact' htwo, hfirst, hrecords,
    Tree.insert_eq_self_iff] at hstored
  have hkeys : toBeBytes 2 ≠ toBeBytes 1 ∧ toBeBytes 2 ≠ toBeBytes 0 := by
    decide
  rcases Tree.mem_insert hstored with heq | hold
  · exact hkeys.1 (congrArg Prod.fst heq)
  · rcases Tree.mem_insert hold with heq | hempty
    · exact hkeys.2 (congrArg Prod.fst heq)
    · simp at hempty

end SechatClient
