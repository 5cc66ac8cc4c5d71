import SechatClient.BlobChanges
import SechatClient.ChatRefinement
import SechatClient.PeersDirectory
import SechatClient.ReplayWindows

/-!
# The messenger

Seen from outside, the client keeps a set of contacts and one conversation for
each identity.  The messenger below keeps just that: no files, no keys of
records, no encryption at rest.  The first sections say what each operation of
the store does to the contacts and to the records of one identity, the last
one what it does to all conversations at once.
-/

namespace SechatClient

open ByteStrings OrderedStore

/-! ## Contacts and records under the operations of the store -/

section Operations

variable {P : Primitives} {messages : Codec Message} {peers : PeersDir}
  {id other : KeyType}

/-- The contact which the directory holds under an identity. -/
def contactOf (P : Primitives) (peers : PeersDir) (id : KeyType) :
    Option PeerPublic :=
  (loadPeerData P peers id).toOption

theorem contactOf_eq_some_iff {peer : PeerPublic} :
    contactOf P peers id = some peer ↔ loadPeerData P peers id = .ok peer := by
  unfold contactOf
  cases loadPeerData P peers id <;> simp [Except.toOption]

/-- The bytes of `peer.pub`, if the entry and the file are there. -/
def peerPubOf (peers : PeersDir) (id : KeyType) : Option Bytes :=
  (peers.lookup (peerDirName id)).bind PeerDir.peerPub

/-- A missing entry and an entry without `peer.pub` are told apart by the
error alone. -/
theorem contactOf_congr {next : PeersDir}
    (hpub : peerPubOf next id = peerPubOf peers id) :
    contactOf P next id = contactOf P peers id := by
  have hread (dirs : PeersDir) : contactOf P dirs id =
      (peerPubOf dirs id).bind fun content =>
        (if content.length < 64 then
          (.error .corruptedFile : Except CryptoErrors PeerPublic)
        else parsePeerPub P content).toOption := by
    unfold contactOf loadPeerData peerPubOf
    cases dirs.lookup (peerDirName id) with
    | none => rfl
    | some dir =>
        obtain ⟨content, _⟩ := dir
        cases content <;> rfl
  rw [hread, hread, hpub]

theorem peerPubOf_ensureDir (name : List Char) :
    peerPubOf (peers.ensureDir name) id = peerPubOf peers id := by
  unfold peerPubOf
  by_cases hname : peerDirName id = name
  · subst hname
    rw [PeersDir.lookup_ensureDir_self]
    cases peers.lookup (peerDirName id) <;> rfl
  · rw [PeersDir.lookup_ensureDir_ne _ hname]

theorem peerPubOf_modifyDir (name : List Char) {f : PeerDir → PeerDir}
    (hf : ∀ dir, (f dir).peerPub = dir.peerPub) :
    peerPubOf (peers.modifyDir name f) id = peerPubOf peers id := by
  unfold peerPubOf
  by_cases hname : peerDirName id = name
  · subst hname
    rw [PeersDir.lookup_modifyDir_self]
    cases peers.lookup (peerDirName id) with
    | none => rfl
    | some dir => exact hf dir
  · rw [PeersDir.lookup_modifyDir_ne _ _ hname]

theorem peerPubOf_loadPeerChatFile
    {opened : PeersDir} {locked : Bool} {db : ChatDb}
    (hopen : loadPeerChatFile locked peers other = .ok (opened, db)) :
    peerPubOf opened id = peerPubOf peers id := by
  unfold loadPeerChatFile at hopen
  split at hopen
  next => contradiction
  next =>
    cases hopen
    rw [peerPubOf_modifyDir, peerPubOf_ensureDir]
    intro dir
    rfl

theorem peerPubOf_storeChatDb (db : ChatDb) :
    peerPubOf (storeChatDb peers other db) id = peerPubOf peers id := by
  apply peerPubOf_modifyDir
  intro dir
  rfl

theorem contactOf_storeInChat (env : BlobEnv) (storageKey : KeyType)
    (msg : Message) :
    contactOf P (storeInChat P messages env peers other storageKey msg).1 id =
      contactOf P peers id := by
  apply contactOf_congr
  unfold storeInChat
  cases hopen : loadPeerChatFile env.locked peers other with
  | error e => rfl
  | ok result =>
      obtain ⟨opened, db⟩ := result
      have hopened : peerPubOf opened id = peerPubOf peers id :=
        peerPubOf_loadPeerChatFile hopen
      simp only
      cases insertMessageStored P messages msg storageKey env.nonce db with
      | error e => exact hopened
      | ok stored => exact (peerPubOf_storeChatDb stored).trans hopened

theorem contactOf_readHistory (keys : Keys) (locked : Bool)
    (peer : PeerPublic) :
    contactOf P (readHistory P messages keys locked peers peer) id =
      contactOf P peers id := by
  apply contactOf_congr
  unfold readHistory
  cases hopen : loadPeerChatFile locked peers (peer.hash P) with
  | error e => rfl
  | ok result =>
      obtain ⟨opened, db⟩ := result
      exact (peerPubOf_storeChatDb _).trans (peerPubOf_loadPeerChatFile hopen)

theorem contactOf_purgePeerChat :
    contactOf P (purgePeerChat peers other) id = contactOf P peers id := by
  apply contactOf_congr
  apply peerPubOf_modifyDir
  intro dir
  rfl

theorem contactOf_initializePeer {peer : PeerPublic}
    (hvalid : P.isVerifyingKey peer.verifying = true) :
    contactOf P (initializePeer P peers peer) =
      Function.update (contactOf P peers) (peer.hash P) (some peer) := by
  funext id
  by_cases hid : id = peer.hash P
  · subst hid
    rw [Function.update_self]
    exact contactOf_eq_some_iff.mpr
      (loadPeerData_initializePeer P peers peer hvalid)
  · rw [Function.update_of_ne hid]
    apply contactOf_congr
    unfold peerPubOf
    rw [lookup_initializePeer_ne P peers peer (peerDirName_ne hid)]

theorem contactOf_deletePeer :
    contactOf P (deletePeer peers other) =
      Function.update (contactOf P peers) other none := by
  funext id
  by_cases hid : id = other
  · subst hid
    rw [Function.update_self]
    simp [contactOf, loadPeerData, deletePeer, Except.toOption]
  · rw [Function.update_of_ne hid]
    apply contactOf_congr
    unfold peerPubOf
    rw [deletePeer, AList.lookup_erase_ne (peerDirName_ne hid)]

/-! ## Records -/

theorem chatDbOf_initializePeer (peer : PeerPublic) :
    chatDbOf (initializePeer P peers peer) id = chatDbOf peers id := by
  by_cases hid : id = peer.hash P
  · subst hid
    unfold chatDbOf initializePeer
    simp only [PeersDir.lookup_modifyDir_self, PeersDir.lookup_ensureDir_self]
    cases peers.lookup (peerDirName (peer.hash P)) <;> rfl
  · unfold chatDbOf
    rw [lookup_initializePeer_ne P peers peer (peerDirName_ne hid)]

theorem chatRecords_deletePeer_self :
    chatRecords (deletePeer peers id) id = Tree.empty := by
  simp [chatRecords, chatDbOf, deletePeer]

theorem chatRecords_deletePeer_ne (hne : id ≠ other) :
    chatRecords (deletePeer peers other) id = chatRecords peers id := by
  apply chatRecords_of_chatDbOf_eq
  unfold chatDbOf
  rw [deletePeer, AList.lookup_erase_ne (peerDirName_ne hne)]

theorem chatRecords_readHistory_ne (keys : Keys) (locked : Bool)
    {peer : PeerPublic} (hne : id ≠ peer.hash P) :
    chatRecords (readHistory P messages keys locked peers peer) id =
      chatRecords peers id := by
  apply chatRecords_of_chatDbOf_eq
  unfold readHistory
  cases hopen : loadPeerChatFile locked peers (peer.hash P) with
  | error e => rfl
  | ok result =>
      obtain ⟨opened, db⟩ := result
      obtain ⟨_, _, _, hother, _⟩ := loadPeerChatFile_eq_ok hopen
      exact (chatDbOf_modifyDir_ne opened hne _).trans (hother id hne)

theorem chatRecords_readHistory_self (keys : Keys) (locked : Bool)
    (peer : PeerPublic) :
    chatRecords (readHistory P messages keys locked peers peer) (peer.hash P) =
      if locked then chatRecords peers (peer.hash P)
      else (loadPeerChatMessages P messages
        (loadStorageKey P peer.publicKey keys.x25519Priv)
        (chatRecords peers (peer.hash P))).2 := by
  unfold readHistory
  cases hopen : loadPeerChatFile locked peers (peer.hash P) with
  | error e =>
      have hlocked := loadPeerChatFile_eq_error hopen
      simp [hlocked]
  | ok result =>
      obtain ⟨opened, db⟩ := result
      obtain ⟨hfree, hdb, -, -, dir, hdir⟩ := loadPeerChatFile_eq_ok hopen
      have hrecords : chatRecords peers (peer.hash P) = db := hdb.symm
      rw [hrecords, hfree]
      simp [chatRecords, chatDbOf_storeChatDb hdir]

end Operations

/-! ## Its state and its steps -/

/-- The contacts, and for each identity the conversation since it was last
deleted.  `checked` is an offline message which is about to be stored. -/
structure Messenger where
  contacts : KeyType → Option PeerPublic
  conversation : KeyType → List Message
  checked : Option (KeyType × Message)

namespace Messenger

def initial : Messenger where
  contacts := fun _ => none
  conversation := fun _ => []
  checked := none

/-- A message is lost while another task has the conversation open. -/
def store (locked : Bool) (id : KeyType) (msg : Message)
    (messenger : Messenger) : Messenger :=
  if locked then messenger
  else { messenger with
    conversation := Function.update messenger.conversation id
      (messenger.conversation id ++ [msg]) }

@[simp] theorem contacts_store (locked : Bool) (id : KeyType)
    (msg : Message) (messenger : Messenger) :
    (messenger.store locked id msg).contacts = messenger.contacts := by
  unfold store
  split <;> rfl

@[simp] theorem checked_store (locked : Bool) (id : KeyType)
    (msg : Message) (messenger : Messenger) :
    (messenger.store locked id msg).checked = messenger.checked := by
  unfold store
  split <;> rfl

def clear (id : KeyType) (messenger : Messenger) : Messenger :=
  { messenger with
    conversation := Function.update messenger.conversation id [] }

end Messenger

/-- What a blob says to the messenger. -/
inductive BlobReading where
  | ignored
  | message (sender : KeyType) (msg : Message)
  | purge (sender : KeyType)

section Steps

variable (P : Primitives) (messages : Codec Message)
  (blobs : Codec BlobPayload) (keys : Keys)

/-- What a payload says once its sender is known to be `contact`. -/
def BlobPayload.reading (contact : PeerPublic) : BlobPayload → BlobReading
  | .offlineMessage senderPubHash timestamp ciphertext _ =>
      match decodeRecord P messages
          (loadStorageKey P contact.publicKey keys.x25519Priv) ciphertext with
      | none => .ignored
      | some msg => .message senderPubHash ⟨.peer, msg.text, timestamp⟩
  | .purge senderPubHash _ _ => .purge senderPubHash

/-- A blob counts if it is fresh and a contact has signed it. -/
def Messenger.read (messenger : Messenger) (now : Int64) (blob : Bytes) :
    BlobReading :=
  match openBlob P blobs keys.x25519Priv blob with
  | .error _ => .ignored
  | .ok payload =>
      match messenger.contacts payload.senderPubHash with
      | none => .ignored
      | some contact =>
          if blobIsFresh payload.timestamp now = true ∧
              verifySlice P contact.verifying payload.bytesToVerify
                payload.signature = true then
            payload.reading P messages keys contact
          else
            .ignored

def Messenger.next (messenger : Messenger) : DirectoryLabel → Messenger
  | .addPeer peer =>
      if P.isVerifyingKey peer.verifying then
        { messenger with
          contacts := Function.update messenger.contacts (peer.hash P)
            (some peer) }
      else
        messenger
  | .send peer text env =>
      if (messenger.contacts peer).isSome then
        messenger.store env.locked peer ⟨.you, text, env.now⟩
      else
        messenger
  | .purge peer =>
      if (messenger.contacts peer).isSome then messenger.clear peer
      else messenger
  | .removePeer peer =>
      { messenger.clear peer with
        contacts := Function.update messenger.contacts peer none }
  | .blobChecked env blob =>
      match messenger.read P messages blobs keys env.now blob with
      | .ignored => messenger
      | .message sender msg => { messenger with checked := some (sender, msg) }
      | .purge sender => messenger.clear sender
  | .blobStored env =>
      match messenger.checked with
      | none => messenger
      | some (sender, msg) =>
          { messenger.store env.locked sender msg with checked := none }
  | .sessionMessage peer text timestamp env =>
      messenger.store env.locked (peer.hash P) ⟨.peer, text, timestamp⟩
  | .peerOnline _ _ _ => messenger
  | .peerOffline _ => messenger
  | .punchHole _ _ _ => messenger
  | .sessionUp _ => messenger
  | .historyChecked _ => messenger
  | .historyRead _ => messenger

def messengerAfter (labels : List DirectoryLabel) : Messenger :=
  labels.foldl (Messenger.next P messages blobs keys) .initial

end Steps

/-! ## Conversations under the operations of the store -/

section Conversations

variable {P : Primitives} {messages : Codec Message}
  {storageKeyOf : KeyType → KeyType} {count : ℕ} {peers next : PeersDir}
  {conversation : KeyType → List Message}

theorem RefinesLog.mono
    {storageKey : KeyType} {db : ChatDb} {more : ℕ} {log : List Message}
    (hrefines : RefinesLog P messages storageKey db count log)
    (hle : count ≤ more) : RefinesLog P messages storageKey db more log where
  keys := by
    intro entry hentry
    obtain ⟨hlength, hlow⟩ := hrefines.keys entry hentry
    exact ⟨hlength, by omega⟩
  log := hrefines.log

theorem RefinesLog.storeInChat
    (haead : P.AeadCorrect) (hround : messages.RoundTrip)
    {id storageKey : KeyType} {log : List Message}
    (hrefines : RefinesLog P messages storageKey (chatRecords peers id) count
      log)
    (hcount : count < 2 ^ 64) (env : BlobEnv) (msg : Message) :
    RefinesLog P messages storageKey
      (chatRecords
        (storeInChat P messages env peers id storageKey msg).1 id)
      (count + 1) (if env.locked then log else log ++ [msg]) := by
  rw [chatRecords_storeInChat_self]
  by_cases hlocked : env.locked = true
  · simpa [insertedRecord, hlocked] using hrefines.mono (Nat.le_succ count)
  · obtain ⟨data, hdata⟩ := encryptMessageStored_succeeds P storageKey hround
      msg env.nonce
    obtain ⟨counter, hcounter, -, hnext⟩ := hrefines.append hcount data
    rw [decodeRecord_encryptMessageStored haead hround hdata] at hnext
    simpa [insertedRecord, hlocked, hdata, hcounter] using hnext

/-- Under every identity the records hold the conversation of the identity,
encrypted with its key. -/
def RefinesConversations (P : Primitives) (messages : Codec Message)
    (storageKeyOf : KeyType → KeyType) (count : ℕ) (peers : PeersDir)
    (conversation : KeyType → List Message) : Prop :=
  ∀ id, RefinesLog P messages (storageKeyOf id) (chatRecords peers id) count
    (conversation id)

theorem RefinesConversations.of_records
    (hrefines : RefinesConversations P messages storageKeyOf count peers
      conversation)
    (hrecords : ∀ id, chatRecords next id = chatRecords peers id) :
    RefinesConversations P messages storageKeyOf (count + 1) next
      conversation := by
  intro id
  rw [hrecords id]
  exact (hrefines id).mono (Nat.le_succ count)

theorem RefinesConversations.store
    (haead : P.AeadCorrect) (hround : messages.RoundTrip)
    (hrefines : RefinesConversations P messages storageKeyOf count peers
      conversation)
    (hcount : count < 2 ^ 64) (env : BlobEnv) (id : KeyType) (msg : Message) :
    RefinesConversations P messages storageKeyOf (count + 1)
      (storeInChat P messages env peers id (storageKeyOf id) msg).1
      (if env.locked then conversation
        else Function.update conversation id (conversation id ++ [msg])) := by
  intro other
  by_cases hother : other = id
  · subst hother
    have hnext := (hrefines other).storeInChat haead hround hcount env msg
    by_cases hlocked : env.locked = true
    · simpa [hlocked] using hnext
    · simpa [hlocked] using hnext
  · rw [chatRecords_storeInChat_ne P messages env peers hother]
    have hnext := (hrefines other).mono (Nat.le_succ count)
    by_cases hlocked : env.locked = true
    · simpa [hlocked] using hnext
    · simpa [hlocked, Function.update_of_ne hother] using hnext

theorem RefinesConversations.clear
    (hrefines : RefinesConversations P messages storageKeyOf count peers
      conversation)
    {id : KeyType} (hself : chatRecords next id = Tree.empty)
    (hother : ∀ other, other ≠ id →
      chatRecords next other = chatRecords peers other) :
    RefinesConversations P messages storageKeyOf (count + 1) next
      (Function.update conversation id []) := by
  intro other
  by_cases hid : other = id
  · subst hid
    rw [hself, Function.update_self]
    exact RefinesLog.initial.mono (Nat.zero_le _)
  · rw [hother other hid, Function.update_of_ne hid]
    exact (hrefines other).mono (Nat.le_succ count)

theorem RefinesConversations.readHistory
    (hrefines : RefinesConversations P messages storageKeyOf count peers
      conversation)
    {keys : Keys} {peer : PeerPublic}
    (hkey : loadStorageKey P peer.publicKey keys.x25519Priv =
      storageKeyOf (peer.hash P)) (locked : Bool) :
    RefinesConversations P messages storageKeyOf (count + 1)
      (readHistory P messages keys locked peers peer) conversation := by
  intro other
  by_cases hother : other = peer.hash P
  · subst hother
    rw [chatRecords_readHistory_self, hkey]
    cases locked with
    | true => exact (hrefines _).mono (Nat.le_succ count)
    | false => exact (hrefines _).load.mono (Nat.le_succ count)
  · rw [chatRecords_readHistory_ne keys locked hother]
    exact (hrefines other).mono (Nat.le_succ count)

end Conversations

end SechatClient
