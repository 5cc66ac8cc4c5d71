import SechatClient.BlobDelivery
import SechatClient.OnlineCache
import SechatClient.StepSystem

/-!
# The peers directory under concurrent tasks

Commands, the blob handler, history reads and session event tasks all reach
`peers/<id>`.  A command checks the contact and acts within one task; the
others check it earlier, in another task, or not at all.  Opening `chat.db`
creates missing directories, so an open after a removal leaves an entry
without `peer.pub`, and one such entry fails the whole listing.
-/

namespace SechatClient

open ByteStrings OrderedStore StepSystem

/-- `contacts` records, per identity, the peer added and not since removed.
`checkedBlob` is an offline message between its checks and its insert,
`reading` a history read between its check and its open. -/
structure DirectoryState where
  peers : PeersDir
  contacts : KeyType → Option PeerPublic
  cache : List OnlinePeer
  attempts : List PeerPublic
  sessions : List PeerPublic
  checkedBlob : Option (KeyType × KeyType × Message)
  reading : Option PeerPublic

def DirectoryState.initial : DirectoryState where
  peers := ∅
  contacts := fun _ => none
  cache := []
  attempts := []
  sessions := []
  checkedBlob := none
  reading := none

inductive DirectoryLabel where
  | addPeer (peer : PeerPublic)
  | send (peer : KeyType) (text : String) (env : BlobEnv)
  | purge (peer : KeyType)
  | removePeer (peer : KeyType)
  | blobChecked (env : BlobEnv) (blob : Bytes)
  | blobStored (env : BlobEnv)
  | peerOnline (hash : KeyType) (ipPort : String) (now : Int64)
  | peerOffline (hash : KeyType)
  | punchHole (peerHash : KeyType) (ipPort : String) (now : Int64)
  | sessionUp (peer : PeerPublic)
  | sessionMessage (peer : PeerPublic) (text : String) (timestamp : Int64)
      (env : BlobEnv)
  | historyChecked (peer : KeyType)
  | historyRead (locked : Bool)

section Steps

variable (P : Primitives) (messages : Codec Message)
  (blobs : Codec BlobPayload) (keys : Keys)

def persistMessage (env : BlobEnv) (peers : PeersDir) (peer : PeerPublic)
    (peerId : KeyType) (text : String) (author : Author)
    (timestamp : Int64) : PeersDir × Except CryptoErrors Unit :=
  storeInChat P messages env peers peerId
    (loadStorageKey P peer.publicKey keys.x25519Priv) ⟨author, text, timestamp⟩

def readHistory (locked : Bool) (peers : PeersDir) (peer : PeerPublic) :
    PeersDir :=
  match loadPeerChatFile locked peers (peer.hash P) with
  | .error _ => peers
  | .ok (opened, db) =>
      storeChatDb opened (peer.hash P)
        (loadPeerChatMessages P messages
          (loadStorageKey P peer.publicKey keys.x25519Priv) db).2

/-- The checks of the blob handler; a purge takes effect at once. -/
def checkBlob (state : DirectoryState) (env : BlobEnv) (blob : Bytes) :
    DirectoryState :=
  match openBlob P blobs keys.x25519Priv blob with
  | .error _ => state
  | .ok (.offlineMessage senderPubHash timestamp ciphertext signature) =>
      match checkOffline P messages state.peers keys.x25519Priv env.now
          senderPubHash timestamp ciphertext signature with
      | .error _ => state
      | .ok (storageKey, msg) =>
          { state with checkedBlob := some (senderPubHash, storageKey, msg) }
  | .ok (.purge senderPubHash signature timestamp) =>
      match checkPurge P state.peers env.now senderPubHash signature
          timestamp with
      | .error _ => state
      | .ok () =>
          { state with peers := purgePeerChat state.peers senderPubHash }

def directoryStep (state : DirectoryState) :
    DirectoryLabel → Option DirectoryState
  | .addPeer peer =>
      if P.isVerifyingKey peer.verifying then
        some { state with
          peers := initializePeer P state.peers peer
          contacts := Function.update state.contacts (peer.hash P)
            (some peer) }
      else
        some state
  | .send peer text env =>
      match loadPeerData P state.peers peer with
      | .error _ => some state
      | .ok peerPub =>
          some { state with
            peers := (persistMessage P messages keys env state.peers peerPub
              peer text .you env.now).1 }
  | .purge peer =>
      match loadPeerData P state.peers peer with
      | .error _ => some state
      | .ok _ => some { state with peers := purgePeerChat state.peers peer }
  | .removePeer peer =>
      some { state with
        peers := deletePeer state.peers peer
        contacts := Function.update state.contacts peer none }
  | .blobChecked env blob =>
      match state.checkedBlob with
      | none => some (checkBlob P messages blobs keys state env blob)
      | some _ => none
  | .blobStored env =>
      match state.checkedBlob with
      | none => none
      | some (senderPubHash, storageKey, msg) =>
          some { state with
            peers := (storeInChat P messages env state.peers senderPubHash
              storageKey msg).1
            checkedBlob := none }
  | .peerOnline hash ipPort now =>
      match appendOnlinePeer P state.peers state.cache hash ipPort now with
      | .error _ => some state
      | .ok cache => some { state with cache := cache }
  | .peerOffline hash =>
      some { state with cache := removeOnlinePeer P state.cache hash }
  | .punchHole peerHash ipPort now =>
      match resolvePunchPeer P state.peers state.cache peerHash ipPort now with
      | none => some state
      | some peer => some { state with attempts := state.attempts ++ [peer] }
  | .sessionUp peer =>
      if peer ∈ state.attempts then
        some { state with sessions := state.sessions ++ [peer] }
      else
        none
  | .sessionMessage peer text timestamp env =>
      if peer ∈ state.sessions then
        some { state with
          peers := (persistMessage P messages keys env state.peers peer
            (peer.hash P) text .peer timestamp).1 }
      else
        none
  | .historyChecked peer =>
      match loadPeerData P state.peers peer with
      | .error _ => some state
      | .ok peerPub => some { state with reading := some peerPub }
  | .historyRead locked =>
      match state.reading with
      | none => none
      | some peer =>
          some { state with
            peers := readHistory P messages keys locked state.peers peer
            reading := none }

/-- A task that does not check the contact itself opens the database only
while the contact is stored. -/
def OpensKnownPeer (state : DirectoryState) : DirectoryLabel → Prop
  | .blobStored _ =>
      ∀ senderPubHash storageKey msg,
        state.checkedBlob = some (senderPubHash, storageKey, msg) →
        (loadPeerData P state.peers senderPubHash).isOk = true
  | .sessionMessage peer _ _ _ =>
      (loadPeerData P state.peers (peer.hash P)).isOk = true
  | .historyRead _ =>
      ∀ peer, state.reading = some peer →
        (loadPeerData P state.peers (peer.hash P)).isOk = true
  | _ => True

end Steps

/-- Every entry of `peers/` is named by an identity and holds the 64 bytes of
keys that hash to it. -/
def DirectoryState.WellFormed (P : Primitives) (state : DirectoryState) :
    Prop :=
  ∀ name dir, state.peers.lookup name = some dir →
    ∃ id content peer, name = peerDirName id ∧ dir.peerPub = some content ∧
      content.length = 64 ∧ parsePeerPub P content = .ok peer ∧
      peer.hash P = id

/-! ## The invariant -/

section Invariant

variable {P : Primitives} {messages : Codec Message}
  {blobs : Codec BlobPayload} {keys : Keys}

def PeerPublic.content (peer : PeerPublic) : Bytes :=
  peer.publicKey.toList ++ peer.verifying.toList

/-- The directory holds exactly the contacts. -/
structure DirectoryInvariant (P : Primitives) (state : DirectoryState) :
    Prop where
  entries : ∀ name dir, state.peers.lookup name = some dir →
    ∃ peer, name = peerDirName (peer.hash P) ∧
      dir.peerPub = some peer.content ∧
      P.isVerifyingKey peer.verifying = true ∧
      state.contacts (peer.hash P) = some peer
  contacts : ∀ id peer, state.contacts id = some peer →
    peer.hash P = id ∧ ∃ dir, state.peers.lookup (peerDirName id) = some dir

theorem DirectoryInvariant.initial :
    DirectoryInvariant P DirectoryState.initial where
  entries := by simp [DirectoryState.initial]
  contacts := by simp [DirectoryState.initial]

theorem DirectoryInvariant.of_samePubs
    {state next : DirectoryState} (hinv : DirectoryInvariant P state)
    (hpubs : SamePubs state.peers next.peers)
    (hcontacts : next.contacts = state.contacts) :
    DirectoryInvariant P next where
  entries := by
    intro name dir hdir
    have hpub := hpubs name
    rw [hdir, Option.map_some] at hpub
    obtain ⟨old, hold, hsame⟩ := Option.map_eq_some_iff.mp hpub.symm
    obtain ⟨peer, hname, hcontent, hvalid, hcontact⟩ :=
      hinv.entries name old hold
    rw [hcontacts]
    exact ⟨peer, hname, hsame ▸ hcontent, hvalid, hcontact⟩
  contacts := by
    intro id peer hpeer
    rw [hcontacts] at hpeer
    obtain ⟨hhash, old, hold⟩ := hinv.contacts id peer hpeer
    have hpub := hpubs (peerDirName id)
    rw [hold, Option.map_some] at hpub
    obtain ⟨dir, hdir, _⟩ := Option.map_eq_some_iff.mp hpub
    exact ⟨hhash, dir, hdir⟩

theorem DirectoryInvariant.addPeer
    {state : DirectoryState} (hinv : DirectoryInvariant P state)
    {peer : PeerPublic} (hvalid : P.isVerifyingKey peer.verifying = true) :
    DirectoryInvariant P { state with
      peers := initializePeer P state.peers peer
      contacts := Function.update state.contacts (peer.hash P)
        (some peer) } where
  entries := by
    intro name dir hdir
    by_cases hname : name = peerDirName (peer.hash P)
    · subst hname
      obtain ⟨db, hlookup⟩ := lookup_initializePeer_self P state.peers peer
      simp only [hlookup, Option.some.injEq] at hdir
      subst hdir
      exact ⟨peer, rfl, rfl, hvalid, Function.update_self _ _ _⟩
    · simp only [lookup_initializePeer_ne P state.peers peer hname] at hdir
      obtain ⟨other, hother, hcontent, hvalid', hcontact⟩ :=
        hinv.entries name dir hdir
      have hne : other.hash P ≠ peer.hash P := by
        intro heq
        rw [heq] at hother
        exact hname hother
      exact ⟨other, hother, hcontent, hvalid',
        by simpa [Function.update_of_ne hne] using hcontact⟩
  contacts := by
    intro id other hother
    by_cases hid : id = peer.hash P
    · subst hid
      simp only [Function.update_self, Option.some.injEq] at hother
      subst hother
      obtain ⟨db, hlookup⟩ := lookup_initializePeer_self P state.peers peer
      exact ⟨rfl, _, hlookup⟩
    · simp only [Function.update_of_ne hid] at hother
      obtain ⟨hhash, dir, hdir⟩ := hinv.contacts id other hother
      refine ⟨hhash, dir, ?_⟩
      simp only [lookup_initializePeer_ne P state.peers peer
        (peerDirName_ne hid), hdir]

theorem DirectoryInvariant.removePeer
    {state : DirectoryState} (hinv : DirectoryInvariant P state)
    (id : KeyType) :
    DirectoryInvariant P { state with
      peers := deletePeer state.peers id
      contacts := Function.update state.contacts id none } where
  entries := by
    intro name dir hdir
    have hname : name ≠ peerDirName id := by
      rintro rfl
      simp [deletePeer] at hdir
    simp only [deletePeer, AList.lookup_erase_ne hname] at hdir
    obtain ⟨peer, hpeer, hcontent, hvalid, hcontact⟩ :=
      hinv.entries name dir hdir
    have hne : peer.hash P ≠ id := by
      rintro rfl
      exact hname hpeer
    exact ⟨peer, hpeer, hcontent, hvalid,
      by simpa [Function.update_of_ne hne] using hcontact⟩
  contacts := by
    intro other peer hpeer
    have hne : other ≠ id := by
      rintro rfl
      simp at hpeer
    simp only [Function.update_of_ne hne] at hpeer
    obtain ⟨hhash, dir, hdir⟩ := hinv.contacts other peer hpeer
    refine ⟨hhash, dir, ?_⟩
    simp only [deletePeer, AList.lookup_erase_ne (peerDirName_ne hne), hdir]

theorem exists_dir_of_isOk
    {peers : PeersDir} {id : KeyType}
    (hok : (loadPeerData P peers id).isOk = true) :
    ∃ dir, peers.lookup (peerDirName id) = some dir := by
  cases hload : loadPeerData P peers id with
  | error e =>
      rw [hload] at hok
      contradiction
  | ok peer => exact exists_dir_of_loadPeerData hload

theorem samePubs_readHistory
    {peers : PeersDir} {peer : PeerPublic} {dir : PeerDir}
    (hdir : peers.lookup (peerDirName (peer.hash P)) = some dir)
    (locked : Bool) :
    SamePubs peers (readHistory P messages keys locked peers peer) := by
  unfold readHistory
  cases hopen : loadPeerChatFile locked peers (peer.hash P) with
  | error e => exact SamePubs.refl peers
  | ok result =>
      obtain ⟨opened, db⟩ := result
      exact (samePubs_loadPeerChatFile hdir hopen).trans
        (samePubs_storeChatDb opened _ _)

theorem DirectoryInvariant.checkBlob
    {state : DirectoryState} (hinv : DirectoryInvariant P state)
    (env : BlobEnv) (blob : Bytes) :
    DirectoryInvariant P (checkBlob P messages blobs keys state env blob) := by
  unfold SechatClient.checkBlob
  split
  next => exact hinv
  next =>
    split
    next => exact hinv
    next => exact hinv.of_samePubs (SamePubs.refl _) rfl
  next =>
    split
    next => exact hinv
    next => exact hinv.of_samePubs (samePubs_purgePeerChat _ _) rfl

theorem DirectoryInvariant.step
    {state next : DirectoryState} {label : DirectoryLabel}
    (hinv : DirectoryInvariant P state) (hok : OpensKnownPeer P state label)
    (hstep : directoryStep P messages blobs keys state label = some next) :
    DirectoryInvariant P next := by
  cases label with
  | addPeer peer =>
      simp only [directoryStep] at hstep
      split at hstep
      next hvalid =>
        cases hstep
        exact hinv.addPeer hvalid
      next =>
        cases hstep
        exact hinv
  | send peer text env =>
      simp only [directoryStep] at hstep
      split at hstep
      next =>
        cases hstep
        exact hinv
      next peerPub hload =>
        cases hstep
        obtain ⟨dir, hdir⟩ := exists_dir_of_loadPeerData hload
        exact hinv.of_samePubs (samePubs_storeInChat _ _ hdir env _ _) rfl
  | purge peer =>
      simp only [directoryStep] at hstep
      split at hstep
      next =>
        cases hstep
        exact hinv
      next =>
        cases hstep
        exact hinv.of_samePubs (samePubs_purgePeerChat _ _) rfl
  | removePeer peer =>
      cases hstep
      exact hinv.removePeer peer
  | blobChecked env blob =>
      simp only [directoryStep] at hstep
      split at hstep
      next =>
        cases hstep
        exact hinv.checkBlob env blob
      next => contradiction
  | blobStored env =>
      simp only [directoryStep] at hstep
      split at hstep
      next => contradiction
      next senderPubHash storageKey msg hchecked =>
        cases hstep
        obtain ⟨dir, hdir⟩ := exists_dir_of_isOk
          (hok senderPubHash storageKey msg hchecked)
        exact hinv.of_samePubs (samePubs_storeInChat _ _ hdir env _ msg) rfl
  | peerOnline hash ipPort now =>
      simp only [directoryStep] at hstep
      split at hstep <;>
        (cases hstep; exact hinv.of_samePubs (SamePubs.refl _) rfl)
  | peerOffline hash =>
      cases hstep
      exact hinv.of_samePubs (SamePubs.refl _) rfl
  | punchHole peerHash ipPort now =>
      simp only [directoryStep] at hstep
      split at hstep <;>
        (cases hstep; exact hinv.of_samePubs (SamePubs.refl _) rfl)
  | sessionUp peer =>
      simp only [directoryStep] at hstep
      split at hstep
      next =>
        cases hstep
        exact hinv.of_samePubs (SamePubs.refl _) rfl
      next => contradiction
  | sessionMessage peer text timestamp env =>
      simp only [directoryStep] at hstep
      split at hstep
      next =>
        cases hstep
        obtain ⟨dir, hdir⟩ := exists_dir_of_isOk hok
        exact hinv.of_samePubs (samePubs_storeInChat _ _ hdir env _ _) rfl
      next => contradiction
  | historyChecked peer =>
      simp only [directoryStep] at hstep
      split at hstep <;>
        (cases hstep; exact hinv.of_samePubs (SamePubs.refl _) rfl)
  | historyRead locked =>
      simp only [directoryStep] at hstep
      split at hstep
      next => contradiction
      next peer hreading =>
        cases hstep
        obtain ⟨dir, hdir⟩ := exists_dir_of_isOk (hok peer hreading)
        exact hinv.of_samePubs (samePubs_readHistory hdir locked) rfl

/-! ## What the listing returns -/

theorem PeerPublic.content_length (peer : PeerPublic) :
    peer.content.length = 64 := by
  simp [content]

theorem DirectoryInvariant.wellFormed
    {state : DirectoryState} (hinv : DirectoryInvariant P state) :
    state.WellFormed P := by
  intro name dir hdir
  obtain ⟨peer, hname, hcontent, hvalid, _⟩ := hinv.entries name dir hdir
  exact ⟨peer.hash P, peer.content, peer, hname, hcontent,
    peer.content_length, parsePeerPub_append P peer hvalid, rfl⟩

theorem DirectoryInvariant.loadPeerEntry
    {state : DirectoryState} (hinv : DirectoryInvariant P state)
    {entry : Sigma fun _ : List Char => PeerDir}
    (hentry : entry ∈ state.peers.entries) :
    ∃ peer, loadPeerEntry P entry.2 = .ok peer ∧
      entry.1 = peerDirName (peer.hash P) ∧
      state.contacts (peer.hash P) = some peer := by
  have hlookup : state.peers.lookup entry.1 = some entry.2 :=
    AList.mem_lookup_iff.mpr hentry
  obtain ⟨peer, hname, hcontent, hvalid, hcontact⟩ :=
    hinv.entries entry.1 entry.2 hlookup
  refine ⟨peer, ?_, hname, hcontact⟩
  have hlength : ¬ peer.content.length < 64 := by
    rw [peer.content_length]
    omega
  simp only [SechatClient.loadPeerEntry, hcontent]
  rw [if_neg hlength]
  exact parsePeerPub_append P peer hvalid

theorem DirectoryInvariant.loadPeers
    {state : DirectoryState} (hinv : DirectoryInvariant P state) :
    ∃ listed, loadPeers P state.peers = .ok listed ∧ listed.Nodup ∧
      ∀ peer, peer ∈ listed ↔ state.contacts (peer.hash P) = some peer := by
  have hparsed : ∀ entry ∈ state.peers.entries,
      ∃ peer, SechatClient.loadPeerEntry P entry.2 = .ok peer := by
    intro entry hentry
    obtain ⟨peer, hpeer, _⟩ := hinv.loadPeerEntry hentry
    exact ⟨peer, hpeer⟩
  obtain ⟨listed, hlisted⟩ := exists_mapM_eq_ok hparsed
  refine ⟨listed, hlisted, ?_, ?_⟩
  · have hnames := map_eq_of_mapM_eq_ok Sigma.fst
      (fun peer => peerDirName (peer.hash P)) hlisted (by
        intro entry hentry peer hpeer
        obtain ⟨other, hother, hname, _⟩ := hinv.loadPeerEntry hentry
        rw [hpeer] at hother
        cases hother
        exact hname)
    have hkeys : (state.peers.entries.map Sigma.fst).Nodup :=
      state.peers.nodupKeys
    rw [hnames] at hkeys
    exact hkeys.of_map _
  · intro peer
    rw [mem_of_mapM_eq_ok hlisted]
    constructor
    · rintro ⟨entry, hentry, hpeer⟩
      obtain ⟨other, hother, _, hcontact⟩ := hinv.loadPeerEntry hentry
      rw [hpeer] at hother
      cases hother
      exact hcontact
    · intro hcontact
      obtain ⟨_, dir, hdir⟩ := hinv.contacts _ peer hcontact
      have hentry := AList.mem_lookup_iff.mp hdir
      obtain ⟨other, hother, hname, hcontact'⟩ := hinv.loadPeerEntry hentry
      have hhash : peer.hash P = other.hash P := peerDirName_injective hname
      rw [← hhash, hcontact] at hcontact'
      cases hcontact'
      exact ⟨_, hentry, hother⟩

end Invariant

/-- In a run in which `chat.db` is only opened while its contact is stored,
the directory stays well formed and the listing returns exactly the peers
added and not since removed. -/
theorem peers_directory_well_formed
    (P : Primitives) (messages : Codec Message) (blobs : Codec BlobPayload)
    (keys : Keys) (labels : List DirectoryLabel)
    (hok : AllSteps (directoryStep P messages blobs keys) (OpensKnownPeer P)
      .initial labels)
    (state : DirectoryState)
    (hrun : runFrom (directoryStep P messages blobs keys) .initial labels =
      some state) :
    state.WellFormed P ∧
      ∃ listed, loadPeers P state.peers = .ok listed ∧ listed.Nodup ∧
        ∀ peer, peer ∈ listed ↔
          state.contacts (peer.hash P) = some peer := by
  have hinv : DirectoryInvariant P state := runFrom_invariant_of_allSteps
    (DirectoryInvariant P)
    (fun state label next hinv hok hstep => hinv.step hok hstep)
    DirectoryInvariant.initial hok hrun
  exact ⟨hinv.wellFormed, hinv.loadPeers⟩

theorem lookup_storeInChat_missing
    (P : Primitives) (messages : Codec Message) {peers : PeersDir}
    {id : KeyType} (hmissing : peers.lookup (peerDirName id) = none)
    {env : BlobEnv} (hfree : env.locked = false) (storageKey : KeyType)
    (msg : Message) :
    ∃ db, (storeInChat P messages env peers id storageKey msg).1.lookup
      (peerDirName id) = some ⟨none, some db⟩ := by
  unfold storeInChat
  cases hopen : loadPeerChatFile env.locked peers id with
  | error e => simp [loadPeerChatFile, hfree] at hopen
  | ok result =>
      obtain ⟨opened, db⟩ := result
      have hopened : opened.lookup (peerDirName id) =
          some ⟨none, some db⟩ := by
        simp only [loadPeerChatFile, hfree] at hopen
        cases hopen
        rw [PeersDir.lookup_modifyDir_self, PeersDir.lookup_ensureDir_self,
          hmissing]
        rfl
      simp only
      cases insertMessageStored P messages msg storageKey env.nonce db with
      | error e => exact ⟨db, hopened⟩
      | ok stored =>
          refine ⟨stored, ?_⟩
          simp only [storeChatDb]
          rw [PeersDir.lookup_modifyDir_self, hopened]
          rfl

/-! ## A message after the removal of its sender -/

section Sample

def sessionRun : List DirectoryLabel :=
  [.addPeer (sampleKeys 1).publicPart,
    .punchHole ((sampleKeys 1).id .transparent) "203.0.113.7:4000" 980,
    .sessionUp (sampleKeys 1).publicPart]

def sessionState : DirectoryState where
  peers := initializePeer .transparent ∅ (sampleKeys 1).publicPart
  contacts := Function.update (fun _ => none) ((sampleKeys 1).id .transparent)
    (some (sampleKeys 1).publicPart)
  cache := []
  attempts := [(sampleKeys 1).publicPart]
  sessions := [(sampleKeys 1).publicPart]
  checkedBlob := none
  reading := none

theorem sessionState_contact :
    loadPeerData .transparent sessionState.peers
      ((sampleKeys 1).publicPart.hash .transparent) =
        .ok (sampleKeys 1).publicPart :=
  loadPeerData_initializePeer .transparent ∅ (sampleKeys 1).publicPart rfl

theorem sessionRun_eq :
    runFrom (directoryStep .transparent transparentMessages transparentBlobs
      (sampleKeys 3)) .initial sessionRun = some sessionState := by
  have hload := sessionState_contact
  have hvalid : Primitives.transparent.isVerifyingKey
      (sampleKeys 1).publicPart.verifying = true := rfl
  simp only [sessionState] at hload
  simp [sessionRun, sessionState, runFrom, directoryStep, hvalid,
    resolvePunchPeer, Keys.id, hload, DirectoryState.initial]

def sessionMessage : DirectoryLabel :=
  .sessionMessage (sampleKeys 1).publicPart "hi" 990 sampleEnv

theorem session_message_keeps_directory :
    ∃ state, runFrom (directoryStep .transparent transparentMessages
        transparentBlobs (sampleKeys 3)) .initial
        (sessionRun ++ [sessionMessage]) = some state ∧
      state.WellFormed .transparent := by
  obtain ⟨state, hstep⟩ : ∃ state, directoryStep .transparent
      transparentMessages transparentBlobs (sampleKeys 3) sessionState
      sessionMessage = some state := by
    simp [directoryStep, sessionState, sessionMessage]
  have hlast : runFrom (directoryStep .transparent transparentMessages
      transparentBlobs (sampleKeys 3)) sessionState [sessionMessage] =
        some state := by
    simp [runFrom, hstep]
  have hrun := runFrom_append_eq_some.mpr ⟨sessionState, sessionRun_eq, hlast⟩
  have hfirst : AllSteps (directoryStep .transparent transparentMessages
      transparentBlobs (sampleKeys 3)) (OpensKnownPeer .transparent)
      .initial sessionRun := by
    apply allSteps_of_forall_mem
    intro label hlabel state
    simp only [sessionRun, List.mem_cons, List.not_mem_nil, or_false] at hlabel
    rcases hlabel with rfl | rfl | rfl <;> trivial
  have hknown : OpensKnownPeer .transparent sessionState sessionMessage := by
    change (loadPeerData .transparent sessionState.peers
      ((sampleKeys 1).publicPart.hash .transparent)).isOk = true
    rw [sessionState_contact]
    rfl
  have hsecond : AllSteps (directoryStep .transparent transparentMessages
      transparentBlobs (sampleKeys 3)) (OpensKnownPeer .transparent)
      sessionState [sessionMessage] := allSteps_cons hknown hstep trivial
  refine ⟨state, hrun, ?_⟩
  exact (peers_directory_well_formed .transparent transparentMessages
    transparentBlobs (sampleKeys 3) _
    (allSteps_append_intro hfirst sessionRun_eq hsecond) state hrun).1

/-- The session outlives the removal of its peer, and its next message
recreates the directory without `peer.pub`. -/
theorem session_message_after_removal :
    ¬ ∀ labels state,
      runFrom (directoryStep .transparent transparentMessages
        transparentBlobs (sampleKeys 3)) .initial labels = some state →
      state.WellFormed .transparent ∧
        ∃ listed, loadPeers .transparent state.peers = .ok listed := by
  intro hall
  let removed : DirectoryState := { sessionState with
    peers := deletePeer sessionState.peers ((sampleKeys 1).id .transparent)
    contacts := Function.update sessionState.contacts
      ((sampleKeys 1).id .transparent) none }
  have hmissing : removed.peers.lookup
      (peerDirName ((sampleKeys 1).publicPart.hash .transparent)) = none := by
    simp [removed, deletePeer, Keys.id]
  have hfree : sampleEnv.locked = false := rfl
  obtain ⟨db, hdir⟩ := lookup_storeInChat_missing .transparent
    transparentMessages hmissing hfree
    (loadStorageKey .transparent (sampleKeys 1).x25519Pub
      (sampleKeys 3).x25519Priv) ⟨.peer, "hi", 990⟩
  have hlast : runFrom (directoryStep .transparent transparentMessages
      transparentBlobs (sampleKeys 3)) sessionState
      [.removePeer ((sampleKeys 1).id .transparent), sessionMessage] =
        some { removed with
          peers := (persistMessage .transparent transparentMessages
            (sampleKeys 3) sampleEnv removed.peers (sampleKeys 1).publicPart
            ((sampleKeys 1).publicPart.hash .transparent) "hi" .peer
            990).1 } := by
    simp [runFrom, directoryStep, sessionMessage, removed, sessionState]
  have hrun := runFrom_append_eq_some.mpr ⟨sessionState, sessionRun_eq, hlast⟩
  obtain ⟨listed, hlisted⟩ := (hall _ _ hrun).2
  obtain ⟨peer, hpeer⟩ := isOk_of_mapM_eq_ok hlisted
    (AList.mem_lookup_iff.mp hdir)
  contradiction

end Sample

end SechatClient
