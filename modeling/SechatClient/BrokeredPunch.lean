import SechatClient.PeersDirectory

/-!
# Brokered hole punches

A `PunchHole` event names a peer by identity and by address.  The peer is
looked up in `peers/` by its identity, without comparing the stored keys with
it, and when that fails in the presence cache by its address, without looking
at the identity at all.  `RemovePeer` leaves the cache as it is.
-/

namespace SechatClient

open ByteStrings StepSystem

variable (P : Primitives)

/-- The peer of every attempt started is stored under the named identity,
which is its own. -/
def StartsNamedContact (peers : PeersDir) (cache : List OnlinePeer)
    (peerHash : KeyType) (ipPort : String) (now : Int64) : Prop :=
  ∀ peer, resolvePunchPeer P peers cache peerHash ipPort now = some peer →
    loadPeerData P peers peerHash = .ok peer ∧ peer.hash P = peerHash

/-- No contact is cached as online at the address. -/
def AddressUnused (cache : List OnlinePeer) (ipPort : String)
    (now : Int64) : Prop :=
  ∀ online ∈ cache, now - online.lastSeen ≤ onlineTtlSecs →
    online.address ≠ ipPort

variable {P} {peers : PeersDir} {cache : List OnlinePeer}
  {peerHash : KeyType} {ipPort : String} {now : Int64}

theorem resolvePunchPeer_stored
    {peer : PeerPublic} (hload : loadPeerData P peers peerHash = .ok peer) :
    resolvePunchPeer P peers cache peerHash ipPort now = some peer := by
  simp [resolvePunchPeer, hload]

theorem resolvePunchPeer_cached
    {e : CryptoErrors} (hload : loadPeerData P peers peerHash = .error e) :
    resolvePunchPeer P peers cache peerHash ipPort now =
      ((loadOnlinePeers now cache).find? fun online =>
        online.address = ipPort).map OnlinePeer.keys := by
  simp [resolvePunchPeer, hload]

theorem resolvePunchPeer_eq_none_iff
    {e : CryptoErrors} (hload : loadPeerData P peers peerHash = .error e) :
    resolvePunchPeer P peers cache peerHash ipPort now = none ↔
      AddressUnused cache ipPort now := by
  rw [resolvePunchPeer_cached hload, Option.map_eq_none_iff,
    List.find?_eq_none]
  simp only [loadOnlinePeers, List.mem_filter, decide_eq_true_eq, and_imp]
  rfl

variable (P peers cache peerHash ipPort now) in
theorem startsNamedContact_iff :
    StartsNamedContact P peers cache peerHash ipPort now ↔
      (∀ peer, loadPeerData P peers peerHash = .ok peer →
        peer.hash P = peerHash) ∧
      ((loadPeerData P peers peerHash).isOk = false →
        AddressUnused cache ipPort now) := by
  unfold StartsNamedContact
  cases hload : loadPeerData P peers peerHash with
  | ok peer =>
      rw [resolvePunchPeer_stored hload]
      simp [Except.isOk, Except.toBool]
  | error e =>
      rw [← resolvePunchPeer_eq_none_iff hload]
      cases resolvePunchPeer P peers cache peerHash ipPort now with
      | none => simp
      | some peer => simp [Except.isOk, Except.toBool]

/-- A brokered attempt is for the named contact exactly when the record stored
under the named identity, if it loads, has that identity, and, if it does not
load, no cached contact has the address. -/
theorem brokered_punch_starts_named_contact_iff
    (P : Primitives) (peers : PeersDir) (cache : List OnlinePeer)
    (peerHash : KeyType) (ipPort : String) (now : Int64) :
    (∀ peer, resolvePunchPeer P peers cache peerHash ipPort now = some peer →
      loadPeerData P peers peerHash = .ok peer ∧ peer.hash P = peerHash) ↔
    (∀ peer, loadPeerData P peers peerHash = .ok peer →
      peer.hash P = peerHash) ∧
    ((loadPeerData P peers peerHash).isOk = false →
      ∀ online ∈ cache, now - online.lastSeen ≤ onlineTtlSecs →
        online.address ≠ ipPort) :=
  startsNamedContact_iff P peers cache peerHash ipPort now

/-! ## Along runs -/

section Runs

/-- No step but `addPeer` writes a record. -/
def NoNewRecords (P : Primitives) (peers next : PeersDir) : Prop :=
  ∀ id peer, loadPeerData P next id = .ok peer →
    loadPeerData P peers id = .ok peer

variable {next : PeersDir} {messages : Codec Message}
  {blobs : Codec BlobPayload} {keys : Keys}

theorem NoNewRecords.of_samePubs (hsame : SamePubs peers next) :
    NoNewRecords P peers next := by
  intro id peer hload
  rwa [hsame.loadPeerData] at hload

theorem NoNewRecords.trans
    {last : PeersDir} (hfirst : NoNewRecords P peers next)
    (hsecond : NoNewRecords P next last) : NoNewRecords P peers last :=
  fun id peer hload => hfirst id peer (hsecond id peer hload)

theorem noNewRecords_ensureDir (name : List Char) :
    NoNewRecords P peers (peers.ensureDir name) := by
  intro id peer hload
  unfold PeersDir.ensureDir at hload
  cases hname : peers.lookup name with
  | some dir => rwa [hname] at hload
  | none =>
      simp only [hname, loadPeerData] at hload
      by_cases hid : peerDirName id = name
      · -- the new entry has no record
        rw [hid, AList.lookup_insert] at hload
        contradiction
      · rwa [AList.lookup_insert_ne hid] at hload

theorem noNewRecords_loadPeerChatFile
    {locked : Bool} {id : KeyType} {db : ChatDb}
    (hopen : loadPeerChatFile locked peers id = .ok (next, db)) :
    NoNewRecords P peers next := by
  unfold loadPeerChatFile at hopen
  split at hopen
  next => contradiction
  next =>
    cases hopen
    apply (noNewRecords_ensureDir (peerDirName id)).trans
    exact .of_samePubs (samePubs_modifyDir _ _ fun dir => rfl)

theorem noNewRecords_storeInChat
    (env : BlobEnv) (id storageKey : KeyType) (msg : Message) :
    NoNewRecords P peers
      (storeInChat P messages env peers id storageKey msg).1 := by
  unfold storeInChat
  cases hopen : loadPeerChatFile env.locked peers id with
  | error e => exact .of_samePubs (SamePubs.refl peers)
  | ok result =>
      obtain ⟨opened, db⟩ := result
      have hopened : NoNewRecords P peers opened :=
        noNewRecords_loadPeerChatFile hopen
      simp only
      cases insertMessageStored P messages msg storageKey env.nonce db with
      | error e => exact hopened
      | ok stored =>
          exact hopened.trans
            (.of_samePubs (samePubs_storeChatDb opened id stored))

theorem noNewRecords_readHistory (locked : Bool) (peer : PeerPublic) :
    NoNewRecords P peers
      (readHistory P messages keys locked peers peer) := by
  unfold readHistory
  cases hopen : loadPeerChatFile locked peers (peer.hash P) with
  | error e => exact .of_samePubs (SamePubs.refl peers)
  | ok result =>
      obtain ⟨opened, db⟩ := result
      exact (noNewRecords_loadPeerChatFile hopen).trans
        (.of_samePubs (samePubs_storeChatDb opened _ _))

theorem noNewRecords_deletePeer (id : KeyType) :
    NoNewRecords P peers (deletePeer peers id) := by
  intro other peer hload
  by_cases hother : other = id
  · subst hother
    simp [loadPeerData, deletePeer] at hload
  · simp only [loadPeerData, deletePeer,
      AList.lookup_erase_ne (peerDirName_ne hother)] at hload
    exact hload

theorem noNewRecords_checkBlob
    (state : DirectoryState) (env : BlobEnv) (blob : Bytes) :
    NoNewRecords P state.peers
      (checkBlob P messages blobs keys state env blob).peers := by
  unfold checkBlob
  split
  next => exact .of_samePubs (SamePubs.refl _)
  next =>
    split
    next => exact .of_samePubs (SamePubs.refl _)
    next => exact .of_samePubs (SamePubs.refl _)
  next =>
    split
    next => exact .of_samePubs (SamePubs.refl _)
    next => exact .of_samePubs (samePubs_purgePeerChat _ _)

theorem StoredByIdentity.of_noNewRecords
    (hstored : StoredByIdentity P peers) (hnew : NoNewRecords P peers next) :
    StoredByIdentity P next :=
  fun id peer hload => hstored id peer (hnew id peer hload)

/-- Records are only written under the hash of their keys, whichever task
runs next. -/
theorem StoredByIdentity.directoryStep
    {state after : DirectoryState} {label : DirectoryLabel}
    (hstored : StoredByIdentity P state.peers)
    (hstep : directoryStep P messages blobs keys state label = some after) :
    StoredByIdentity P after.peers := by
  cases label with
  | addPeer peer =>
      simp only [SechatClient.directoryStep] at hstep
      split at hstep
      next hvalid =>
        cases hstep
        exact hstored.initializePeer hvalid
      next =>
        cases hstep
        exact hstored
  | send peer text env =>
      simp only [SechatClient.directoryStep] at hstep
      split at hstep
      next =>
        cases hstep
        exact hstored
      next =>
        cases hstep
        exact hstored.of_noNewRecords (noNewRecords_storeInChat env _ _ _)
  | purge peer =>
      simp only [SechatClient.directoryStep] at hstep
      split at hstep
      next =>
        cases hstep
        exact hstored
      next =>
        cases hstep
        exact hstored.of_samePubs (samePubs_purgePeerChat _ _)
  | removePeer peer =>
      cases hstep
      exact hstored.of_noNewRecords (noNewRecords_deletePeer peer)
  | blobChecked env blob =>
      simp only [SechatClient.directoryStep] at hstep
      split at hstep
      next =>
        cases hstep
        exact hstored.of_noNewRecords (noNewRecords_checkBlob state env blob)
      next => contradiction
  | blobStored env =>
      simp only [SechatClient.directoryStep] at hstep
      split at hstep
      next => contradiction
      next =>
        cases hstep
        exact hstored.of_noNewRecords (noNewRecords_storeInChat env _ _ _)
  | peerOnline hash ipPort now =>
      simp only [SechatClient.directoryStep] at hstep
      split at hstep <;> (cases hstep; exact hstored)
  | peerOffline hash =>
      cases hstep
      exact hstored
  | punchHole peerHash ipPort now =>
      simp only [SechatClient.directoryStep] at hstep
      split at hstep <;> (cases hstep; exact hstored)
  | sessionUp peer =>
      simp only [SechatClient.directoryStep] at hstep
      split at hstep
      next =>
        cases hstep
        exact hstored
      next => contradiction
  | sessionMessage peer text timestamp env =>
      simp only [SechatClient.directoryStep] at hstep
      split at hstep
      next =>
        cases hstep
        exact hstored.of_noNewRecords (noNewRecords_storeInChat env _ _ _)
      next => contradiction
  | historyChecked peer =>
      simp only [SechatClient.directoryStep] at hstep
      split at hstep <;> (cases hstep; exact hstored)
  | historyRead locked =>
      simp only [SechatClient.directoryStep] at hstep
      split at hstep
      next => contradiction
      next peer _ =>
        cases hstep
        exact hstored.of_noNewRecords (noNewRecords_readHistory locked peer)

/-- At a `PunchHole` event the attempt started is for the named contact. -/
def PunchesNamedContact (P : Primitives) (state : DirectoryState) :
    DirectoryLabel → Prop
  | .punchHole peerHash ipPort now =>
      StartsNamedContact P state.peers state.cache peerHash ipPort now
  | _ => True

/-- A `PunchHole` event names a stored contact, or an address at which no
contact is cached. -/
def BrokersKnownPeer (P : Primitives) (state : DirectoryState) :
    DirectoryLabel → Prop
  | .punchHole peerHash ipPort now =>
      (loadPeerData P state.peers peerHash).isOk = false →
        AddressUnused state.cache ipPort now
  | _ => True

/-- From an empty store, what is left of the condition is the address. -/
theorem punches_named_contact_along_run_iff
    (P : Primitives) (messages : Codec Message) (blobs : Codec BlobPayload)
    (keys : Keys) (labels : List DirectoryLabel) :
    AllSteps (directoryStep P messages blobs keys) (PunchesNamedContact P)
        .initial labels ↔
      AllSteps (directoryStep P messages blobs keys) (BrokersKnownPeer P)
        .initial labels := by
  apply allSteps_congr_of_invariant fun state => StoredByIdentity P state.peers
  · intro state label next hstored _ hstep
    exact hstored.directoryStep hstep
  · intro state label hstored
    cases label with
    | punchHole peerHash ipPort now =>
        rw [PunchesNamedContact, startsNamedContact_iff]
        exact and_iff_right (hstored peerHash)
    | _ => exact Iff.rfl
  · exact storedByIdentity_empty

end Runs

/-! ## A removed contact that is still cached -/

def removedWhileOnline : List DirectoryLabel :=
  [.addPeer (sampleKeys 1).publicPart,
    .peerOnline ((sampleKeys 1).id .transparent) "203.0.113.7:4000" 980,
    .removePeer ((sampleKeys 1).id .transparent)]

def removedState : DirectoryState where
  peers := deletePeer
    (initializePeer .transparent ∅ (sampleKeys 1).publicPart)
    ((sampleKeys 1).id .transparent)
  contacts := fun _ => none
  cache := [⟨(sampleKeys 1).publicPart, "203.0.113.7:4000", 980⟩]
  attempts := []
  sessions := []
  checkedBlob := none
  reading := none

theorem removedWhileOnline_eq :
    runFrom (directoryStep .transparent transparentMessages transparentBlobs
      (sampleKeys 3)) .initial removedWhileOnline = some removedState := by
  have hload := loadPeerData_initializePeer .transparent ∅
    (sampleKeys 1).publicPart rfl
  have hvalid : Primitives.transparent.isVerifyingKey
      (sampleKeys 1).publicPart.verifying = true := rfl
  simp [removedWhileOnline, removedState, runFrom, directoryStep, hvalid,
    appendOnlinePeer, Keys.id, hload, DirectoryState.initial,
    refreshOnlinePeer]

theorem removedState_not_stored :
    loadPeerData .transparent removedState.peers
        ((sampleKeys 1).id .transparent) =
      .error (.notFound
        (String.ofList (peerDirName ((sampleKeys 1).id .transparent)))) := by
  simp [loadPeerData, removedState, deletePeer]

/-- The contact was removed, and still a punch brokered for it starts an
attempt. -/
theorem removed_contact_still_punched :
    ∃ state, runFrom (directoryStep .transparent transparentMessages
        transparentBlobs (sampleKeys 3)) .initial removedWhileOnline =
          some state ∧
      (loadPeerData .transparent state.peers
        ((sampleKeys 1).id .transparent)).isOk = false ∧
      resolvePunchPeer .transparent state.peers state.cache
        ((sampleKeys 1).id .transparent) "203.0.113.7:4000" 990 =
          some (sampleKeys 1).publicPart := by
  refine ⟨removedState, removedWhileOnline_eq, ?_, ?_⟩
  · rw [removedState_not_stored]
    rfl
  · rw [resolvePunchPeer_cached removedState_not_stored]
    rfl

end SechatClient
