import SechatClient.BlobRewrap

/-!
# What a blob can change

The records of the chat databases before and after `process_blob`, for
arbitrary delivered bytes.  The checks decide between three effects: nothing,
one stored message, or a wiped conversation.  Each effect names the sender
whose database it touches, and each is reached only through a verified
signature of that sender.
-/

namespace SechatClient

open ByteStrings OrderedStore

/-- The records a later open of the database finds. -/
def chatRecords (peers : PeersDir) (id : KeyType) : ChatDb :=
  (chatDbOf peers id).getD Tree.empty

def BlobPayload.senderPubHash : BlobPayload → KeyType
  | .offlineMessage senderPubHash _ _ _ => senderPubHash
  | .purge senderPubHash _ _ => senderPubHash

def BlobPayload.signature : BlobPayload → Bytes
  | .offlineMessage _ _ _ signature => signature
  | .purge _ signature _ => signature

def BlobPayload.bytesToVerify : BlobPayload → Bytes
  | .offlineMessage _ timestamp ciphertext _ =>
      offlineBytesToVerify ciphertext timestamp
  | .purge _ _ timestamp => purgeBytesToVerify timestamp

inductive BlobEffect where
  | none
  | store (sender storageKey : KeyType) (msg : Message)
  | wipe (sender : KeyType)

section Effect

variable (P : Primitives) (messages : Codec Message)
  (blobs : Codec BlobPayload)

/-- What the checks of `process_blob` decide. -/
def blobEffect (peers : PeersDir) (privkey : KeyType) (now : Int64)
    (blob : Bytes) : BlobEffect :=
  match openBlob P blobs privkey blob with
  | .error _ => .none
  | .ok (.offlineMessage senderPubHash timestamp ciphertext signature) =>
      match checkOffline P messages peers privkey now senderPubHash timestamp
          ciphertext signature with
      | .error _ => .none
      | .ok (storageKey, msg) => .store senderPubHash storageKey msg
  | .ok (.purge senderPubHash signature timestamp) =>
      match checkPurge P peers now senderPubHash signature timestamp with
      | .error _ => .none
      | .ok () => .wipe senderPubHash

/-- The record an insert of the message writes, if the database opens, the
message serialises and the last key has its eight bytes. -/
def insertedRecord (env : BlobEnv) (db : ChatDb) (storageKey : KeyType)
    (msg : Message) : Option (Bytes × Bytes) :=
  if env.locked then
    none
  else
    match encryptMessageStored P messages msg storageKey env.nonce,
        findCounter db with
    | .ok data, .ok counter => some (toBeBytes counter, data)
    | _, _ => none

variable {P messages blobs}

theorem insertedRecord_eq_some
    {env : BlobEnv} {db : ChatDb} {storageKey : KeyType} {msg : Message}
    {record : Bytes × Bytes}
    (hrecord : insertedRecord P messages env db storageKey msg =
      some record) :
    env.locked = false ∧ ∃ data counter,
      encryptMessageStored P messages msg storageKey env.nonce = .ok data ∧
        findCounter db = .ok counter ∧ record = (toBeBytes counter, data) := by
  unfold insertedRecord at hrecord
  split at hrecord
  next => contradiction
  next hlocked =>
    split at hrecord
    next data counter hdata hcounter =>
      cases hrecord
      exact ⟨by simpa using hlocked, data, counter, hdata, hcounter, rfl⟩
    next => contradiction

/-! ## Records after each effect -/

theorem chatRecords_of_chatDbOf_eq
    {peers next : PeersDir} {id : KeyType}
    (hdb : chatDbOf next id = chatDbOf peers id) :
    chatRecords next id = chatRecords peers id := by
  unfold chatRecords
  rw [hdb]

/-- An open database shows the records, and it may have been created. -/
theorem chatRecords_of_loadPeerChatFile
    {locked : Bool} {peers opened : PeersDir} {id : KeyType} {db : ChatDb}
    (hopen : loadPeerChatFile locked peers id = .ok (opened, db))
    (other : KeyType) : chatRecords opened other = chatRecords peers other := by
  obtain ⟨-, hdb, hself, hother, -⟩ := loadPeerChatFile_eq_ok hopen
  by_cases hid : other = id
  · subst hid
    simp [chatRecords, hself, hdb]
  · exact chatRecords_of_chatDbOf_eq (hother other hid)

variable (P messages) in
theorem chatRecords_storeInChat_self
    (env : BlobEnv) (peers : PeersDir) (id storageKey : KeyType)
    (msg : Message) :
    chatRecords (storeInChat P messages env peers id storageKey msg).1 id =
      match insertedRecord P messages env (chatRecords peers id) storageKey
          msg with
      | none => chatRecords peers id
      | some record => (chatRecords peers id).insert record.1 record.2 := by
  unfold storeInChat insertedRecord
  cases hopen : loadPeerChatFile env.locked peers id with
  | error e =>
      have hlocked := loadPeerChatFile_eq_error hopen
      simp [hlocked]
  | ok result =>
      obtain ⟨opened, db⟩ := result
      obtain ⟨hfree, hdb, _, _, dir, hdir⟩ := loadPeerChatFile_eq_ok hopen
      have hopened := chatRecords_of_loadPeerChatFile hopen id
      have hrecords : chatRecords peers id = db := hdb.symm
      simp only [hfree, Bool.false_eq_true, if_false, insertMessageStored,
        hrecords]
      cases hdata : encryptMessageStored P messages msg storageKey
          env.nonce with
      | error e => simpa [hrecords] using hopened
      | ok data =>
          cases hcounter : findCounter db with
          | error e => simpa [hrecords] using hopened
          | ok counter =>
              simp [chatRecords, chatDbOf_storeChatDb hdir]

variable (P messages) in
theorem chatRecords_storeInChat_ne
    (env : BlobEnv) (peers : PeersDir) {id other : KeyType}
    (hne : other ≠ id) (storageKey : KeyType) (msg : Message) :
    chatRecords (storeInChat P messages env peers id storageKey msg).1 other =
      chatRecords peers other := by
  apply chatRecords_of_chatDbOf_eq
  unfold storeInChat
  cases hopen : loadPeerChatFile env.locked peers id with
  | error e => rfl
  | ok result =>
      obtain ⟨opened, db⟩ := result
      obtain ⟨_, _, _, hother, _⟩ := loadPeerChatFile_eq_ok hopen
      have hopened := hother other hne
      simp only
      cases insertMessageStored P messages msg storageKey env.nonce db with
      | error e => exact hopened
      | ok stored =>
          rw [← hopened]
          exact chatDbOf_modifyDir_ne opened hne _

theorem chatRecords_purgePeerChat_self (peers : PeersDir) (id : KeyType) :
    chatRecords (purgePeerChat peers id) id = Tree.empty := by
  unfold chatRecords
  rw [chatDbOf_purgePeerChat_self]
  rfl

theorem chatRecords_purgePeerChat_ne
    (peers : PeersDir) {id other : KeyType} (hne : other ≠ id) :
    chatRecords (purgePeerChat peers id) other = chatRecords peers other :=
  chatRecords_of_chatDbOf_eq (chatDbOf_modifyDir_ne peers hne _)

variable (P messages blobs) in
/-- The store after a blob is the store after its effect. -/
theorem processBlob_peers
    (peers : PeersDir) (privkey : KeyType) (env : BlobEnv) (blob : Bytes) :
    (processBlob P messages blobs peers privkey env blob).peers =
      match blobEffect P messages blobs peers privkey env.now blob with
      | .none => peers
      | .store sender storageKey msg =>
          (storeInChat P messages env peers sender storageKey msg).1
      | .wipe sender => purgePeerChat peers sender := by
  unfold processBlob blobEffect
  cases openBlob P blobs privkey blob with
  | error e => rfl
  | ok payload =>
      cases payload with
      | offlineMessage senderPubHash timestamp ciphertext signature =>
          simp only [handleBlob]
          cases checkOffline P messages peers privkey env.now senderPubHash
              timestamp ciphertext signature with
          | error e => rfl
          | ok checked =>
              obtain ⟨storageKey, msg⟩ := checked
              simp only
              split <;> next after _ hstore => rw [hstore]
      | purge senderPubHash signature timestamp =>
          simp only [handleBlob]
          cases checkPurge P peers env.now senderPubHash signature
            timestamp <;> rfl

variable (P messages) in
theorem storeInChat_isOk
    (env : BlobEnv) (peers : PeersDir) (id storageKey : KeyType)
    (msg : Message) :
    (storeInChat P messages env peers id storageKey msg).2.isOk =
      (insertedRecord P messages env (chatRecords peers id) storageKey
        msg).isSome := by
  unfold storeInChat insertedRecord
  cases hopen : loadPeerChatFile env.locked peers id with
  | error e =>
      have hlocked := loadPeerChatFile_eq_error hopen
      simp [hlocked, Except.isOk, Except.toBool]
  | ok result =>
      obtain ⟨opened, db⟩ := result
      obtain ⟨hfree, hdb, _⟩ := loadPeerChatFile_eq_ok hopen
      have hrecords : chatRecords peers id = db := hdb.symm
      simp only [hfree, Bool.false_eq_true, if_false, insertMessageStored,
        hrecords]
      cases encryptMessageStored P messages msg storageKey env.nonce with
      | error e => rfl
      | ok data => cases findCounter db <;> rfl

variable (P messages blobs) in
theorem processBlob_isOk
    (peers : PeersDir) (privkey : KeyType) (env : BlobEnv) (blob : Bytes) :
    (processBlob P messages blobs peers privkey env blob).outcome.isOk =
      match blobEffect P messages blobs peers privkey env.now blob with
      | .none => false
      | .store sender storageKey msg =>
          (insertedRecord P messages env (chatRecords peers sender) storageKey
            msg).isSome
      | .wipe _ => true := by
  unfold processBlob blobEffect
  cases openBlob P blobs privkey blob with
  | error e => rfl
  | ok payload =>
      cases payload with
      | offlineMessage senderPubHash timestamp ciphertext signature =>
          simp only [handleBlob]
          cases checkOffline P messages peers privkey env.now senderPubHash
              timestamp ciphertext signature with
          | error e => rfl
          | ok checked =>
              obtain ⟨storageKey, msg⟩ := checked
              simp only [← storeInChat_isOk]
              split <;> next hstore =>
                rw [hstore]
                rfl
      | purge senderPubHash signature timestamp =>
          simp only [handleBlob]
          cases checkPurge P peers env.now senderPubHash signature
            timestamp <;> rfl

/-! ## Authentication of each effect -/

theorem checkOffline_eq_ok
    {peers : PeersDir} {myPriv senderPubHash storageKey : KeyType}
    {now timestamp : Int64} {ciphertext signature : Bytes} {msg : Message}
    (hcheck : checkOffline P messages peers myPriv now senderPubHash timestamp
      ciphertext signature = .ok (storageKey, msg)) :
    ∃ peer plaintext senderMsg,
      loadPeerData P peers senderPubHash = .ok peer ∧
        verifySlice P peer.verifying
          (offlineBytesToVerify ciphertext timestamp) signature = true ∧
        storageKey = loadStorageKey P peer.publicKey myPriv ∧
        decryptMessageStored P ciphertext storageKey = .ok plaintext ∧
        messages.fromSlice plaintext = .ok senderMsg ∧
        msg = ⟨.peer, senderMsg.text, timestamp⟩ := by
  unfold checkOffline at hcheck
  split at hcheck
  next =>
    split at hcheck
    next => contradiction
    next peer hload =>
      split at hcheck
      next hverify =>
        simp only at hcheck
        split at hcheck
        next => contradiction
        next plaintext hdecrypt =>
          split at hcheck
          next => contradiction
          next senderMsg hslice =>
            cases hcheck
            exact ⟨peer, plaintext, senderMsg, hload, hverify, rfl, hdecrypt,
              hslice, rfl⟩
      next => contradiction
  next => contradiction

theorem checkPurge_eq_ok
    {peers : PeersDir} {senderPubHash : KeyType} {now timestamp : Int64}
    {signature : Bytes}
    (hcheck : checkPurge P peers now senderPubHash signature timestamp =
      .ok ()) :
    ∃ peer, loadPeerData P peers senderPubHash = .ok peer ∧
      verifySlice P peer.verifying (purgeBytesToVerify timestamp)
        signature = true := by
  unfold checkPurge at hcheck
  split at hcheck
  next =>
    split at hcheck
    next => contradiction
    next peer hload =>
      split at hcheck
      next hverify => exact ⟨peer, hload, hverify⟩
      next => contradiction
  next => contradiction

/-- The change of one database which a verified offline message makes: the
decrypted text, under the author `Peer`, with the timestamp of the payload,
in one record after the last one. -/
def StoresMessage (P : Primitives) (messages : Codec Message)
    (privkey : KeyType) (env : BlobEnv) (peer : PeerPublic)
    (before after : ChatDb) (timestamp : Int64) (ciphertext : Bytes) : Prop :=
  let storageKey := loadStorageKey P peer.publicKey privkey
  ∃ plaintext senderMsg data counter,
    decryptMessageStored P ciphertext storageKey = .ok plaintext ∧
      messages.fromSlice plaintext = .ok senderMsg ∧
      encryptMessageStored P messages ⟨.peer, senderMsg.text, timestamp⟩
        storageKey env.nonce = .ok data ∧
      findCounter before = .ok counter ∧
      after = before.insert (toBeBytes counter) data ∧
      (before.HasRoom →
        after.entries = before.entries ++ [(toBeBytes counter, data)])

/-- What happened to a database that changed. -/
def PayloadApplied (P : Primitives) (messages : Codec Message)
    (privkey : KeyType) (env : BlobEnv) (peer : PeerPublic)
    (before after : ChatDb) : BlobPayload → Prop
  | .offlineMessage _ timestamp ciphertext _ =>
      StoresMessage P messages privkey env peer before after timestamp
        ciphertext
  | .purge _ _ _ => after.entries = []

/-- An accepted offline message changes the records of its sender only, and
inserts what it carries. -/
theorem stored_message_authenticated
    {peers : PeersDir} {privkey : KeyType} {env : BlobEnv} {id : KeyType}
    {senderPubHash storageKey : KeyType} {timestamp : Int64}
    {ciphertext signature : Bytes} {msg : Message}
    (hcheck : checkOffline P messages peers privkey env.now senderPubHash
      timestamp ciphertext signature = .ok (storageKey, msg))
    (hchanged : chatRecords (storeInChat P messages env peers senderPubHash
      storageKey msg).1 id ≠ chatRecords peers id) :
    senderPubHash = id ∧ ∃ peer,
      loadPeerData P peers id = .ok peer ∧
        verifySlice P peer.verifying (BlobPayload.offlineMessage senderPubHash
          timestamp ciphertext signature).bytesToVerify signature = true ∧
        PayloadApplied P messages privkey env peer (chatRecords peers id)
          (chatRecords (storeInChat P messages env peers senderPubHash
            storageKey msg).1 id)
          (.offlineMessage senderPubHash timestamp ciphertext signature) := by
  have hid : id = senderPubHash := by
    by_contra hne
    exact hchanged (chatRecords_storeInChat_ne P messages env peers hne
      storageKey msg)
  subst hid
  obtain ⟨peer, plaintext, senderMsg, hload, hverify, rfl, hdecrypt, hslice,
    rfl⟩ := checkOffline_eq_ok hcheck
  refine ⟨rfl, peer, hload, hverify, ?_⟩
  rw [chatRecords_storeInChat_self] at hchanged ⊢
  cases hrecord : insertedRecord P messages env (chatRecords peers id)
      (loadStorageKey P peer.publicKey privkey)
      ⟨.peer, senderMsg.text, timestamp⟩ with
  | none => simp [hrecord] at hchanged
  | some record =>
      obtain ⟨_, data, counter, hdata, hcounter, rfl⟩ :=
        insertedRecord_eq_some hrecord
      refine ⟨plaintext, senderMsg, data, counter, hdecrypt, hslice, hdata,
        hcounter, rfl, ?_⟩
      intro hroom
      exact Tree.insert_entries_of_forall_lt data
        (findCounter_above hroom hcounter)

variable (P messages blobs) in
/-- A blob that changes a database opened to a payload of a stored contact
with a valid signature, it changed the database of that contact, and in one
of the two ways of its kind. -/
theorem changed_records_authenticated
    (peers : PeersDir) (privkey : KeyType) (env : BlobEnv) (blob : Bytes)
    (id : KeyType)
    (hchanged : chatRecords (processBlob P messages blobs peers privkey env
      blob).peers id ≠ chatRecords peers id) :
    ∃ payload peer,
      openBlob P blobs privkey blob = .ok payload ∧
        payload.senderPubHash = id ∧
        loadPeerData P peers id = .ok peer ∧
        verifySlice P peer.verifying payload.bytesToVerify
          payload.signature = true ∧
        PayloadApplied P messages privkey env peer (chatRecords peers id)
          (chatRecords (processBlob P messages blobs peers privkey env
            blob).peers id) payload := by
  rw [processBlob_peers] at hchanged ⊢
  unfold blobEffect at hchanged ⊢
  cases hopen : openBlob P blobs privkey blob with
  | error e => simp [hopen] at hchanged
  | ok payload =>
      cases payload with
      | offlineMessage senderPubHash timestamp ciphertext signature =>
          simp only [hopen] at hchanged ⊢
          cases hcheck : checkOffline P messages peers privkey env.now
              senderPubHash timestamp ciphertext signature with
          | error e => simp [hcheck] at hchanged
          | ok checked =>
              obtain ⟨storageKey, msg⟩ := checked
              simp only [hcheck] at hchanged ⊢
              obtain ⟨hid, peer, hload, hverify, happlied⟩ :=
                stored_message_authenticated hcheck hchanged
              exact ⟨_, peer, rfl, hid, hload, hverify, happlied⟩
      | purge senderPubHash signature timestamp =>
          simp only [hopen] at hchanged ⊢
          cases hcheck : checkPurge P peers env.now senderPubHash signature
              timestamp with
          | error e => simp [hcheck] at hchanged
          | ok checked =>
              simp only [hcheck] at hchanged ⊢
              have hid : id = senderPubHash := by
                by_contra hne
                exact hchanged (chatRecords_purgePeerChat_ne peers hne)
              subst hid
              obtain ⟨peer, hload, hverify⟩ := checkPurge_eq_ok hcheck
              refine ⟨_, peer, rfl, rfl, hload, hverify, ?_⟩
              rw [chatRecords_purgePeerChat_self]
              rfl

/-- A failed blob leaves every database: a check failed first, or the insert
wrote no record. -/
theorem chatRecords_of_processBlob_error
    {peers : PeersDir} {privkey : KeyType} {env : BlobEnv} {blob : Bytes}
    {error : ClientErrors}
    (herror : (processBlob P messages blobs peers privkey env blob).outcome =
      .error error) (id : KeyType) :
    chatRecords (processBlob P messages blobs peers privkey env blob).peers
      id = chatRecords peers id := by
  have hfailed := processBlob_isOk P messages blobs peers privkey env blob
  rw [herror] at hfailed
  rw [processBlob_peers]
  cases heffect : blobEffect P messages blobs peers privkey env.now blob with
  | none => rfl
  | store sender storageKey msg =>
      simp only
      by_cases hid : id = sender
      · subst hid
        have hnone : insertedRecord P messages env (chatRecords peers id)
            storageKey msg = none := by
          rw [heffect] at hfailed
          simpa [Except.isOk, Except.toBool] using hfailed
        rw [chatRecords_storeInChat_self, hnone]
      · exact chatRecords_storeInChat_ne P messages env peers hid storageKey
          msg
  | wipe sender =>
      rw [heffect] at hfailed
      simp [Except.isOk, Except.toBool] at hfailed

variable (P messages blobs) in
/-- A blob whose insert or removal fails changes no database and stores no
blob. -/
theorem processBlobFailing_unchanged
    (peers : PeersDir) (privkey : KeyType) (env : BlobEnv) (reason : String)
    (blob : Bytes) :
    let result :=
      processBlobFailing P messages blobs peers privkey env reason blob
    (∀ id, chatRecords result.peers id = chatRecords peers id) ∧
      result.event = none := by
  unfold processBlobFailing
  cases openBlob P blobs privkey blob with
  | error e => exact ⟨fun _ => rfl, rfl⟩
  | ok payload =>
      cases payload with
      | offlineMessage senderPubHash timestamp ciphertext signature =>
          simp only [handleBlobFailing]
          cases checkOffline P messages peers privkey env.now senderPubHash
              timestamp ciphertext signature with
          | error e => exact ⟨fun _ => rfl, rfl⟩
          | ok checked =>
              simp only
              cases hopen : loadPeerChatFile env.locked peers
                  senderPubHash with
              | error e => exact ⟨fun _ => rfl, rfl⟩
              | ok result =>
                  obtain ⟨opened, db⟩ := result
                  have hkept := chatRecords_of_loadPeerChatFile hopen
                  simp only
                  split <;> exact ⟨hkept, rfl⟩
      | purge senderPubHash signature timestamp =>
          simp only [handleBlobFailing]
          cases checkPurge P peers env.now senderPubHash signature
              timestamp with
          | error e => exact ⟨fun _ => rfl, rfl⟩
          | ok checked =>
              simp only
              split <;> exact ⟨fun _ => rfl, rfl⟩

variable (P messages blobs) in
/-- Blobs are authenticated, touch one conversation and are atomic, also when
the insert or the removal fails. -/
theorem process_blob_authenticated_and_atomic
    (peers : PeersDir) (privkey : KeyType) (env : BlobEnv) (blob : Bytes) :
    let result := processBlob P messages blobs peers privkey env blob
    (∀ id, chatRecords result.peers id ≠ chatRecords peers id →
        ∃ payload peer,
          openBlob P blobs privkey blob = .ok payload ∧
            payload.senderPubHash = id ∧
            loadPeerData P peers id = .ok peer ∧
            verifySlice P peer.verifying payload.bytesToVerify
              payload.signature = true ∧
            PayloadApplied P messages privkey env peer (chatRecords peers id)
              (chatRecords result.peers id) payload) ∧
      (∀ error, result.outcome = .error error →
        (∀ id, chatRecords result.peers id = chatRecords peers id) ∧
          result.event = none) ∧
      ∀ reason,
        let failed :=
          processBlobFailing P messages blobs peers privkey env reason blob
        (∀ id, chatRecords failed.peers id = chatRecords peers id) ∧
          failed.event = none := by
  intro result
  refine ⟨?_, ?_, fun reason => processBlobFailing_unchanged P messages blobs
    peers privkey env reason blob⟩
  · intro id hchanged
    exact changed_records_authenticated P messages blobs peers privkey env
      blob id hchanged
  · intro error herror
    refine ⟨fun id => chatRecords_of_processBlob_error herror id, ?_⟩
    unfold BlobResult.event
    rw [herror]

end Effect

/-! ## The sample blob -/

def sampleRecord : Bytes :=
  (encryptMessageStored .transparent transparentMessages ⟨.peer, "hi", 990⟩
    (loadStorageKey .transparent (sampleKeys 1).x25519Pub
      (sampleKeys 3).x25519Priv) sampleEnv.nonce).toOption.getD []

theorem sampleBlob_effect
    {peers : PeersDir}
    (hcontact : loadPeerData .transparent peers
      ((sampleKeys 1).id .transparent) = .ok (sampleKeys 1).publicPart) :
    blobEffect .transparent transparentMessages transparentBlobs peers
        (sampleKeys 3).x25519Priv 1000 sampleBlob =
      .store ((sampleKeys 1).id .transparent)
        (loadStorageKey .transparent (sampleKeys 1).x25519Pub
          (sampleKeys 3).x25519Priv) ⟨.peer, "hi", 990⟩ := by
  unfold blobEffect
  rw [sampleBlob_opens]
  simp only [samplePayload, sampleBlob_checks hcontact]

theorem sampleBlob_records
    {peers : PeersDir}
    (hcontact : loadPeerData .transparent peers
      ((sampleKeys 1).id .transparent) = .ok (sampleKeys 1).publicPart)
    {counter : UInt64}
    (hcounter : findCounter (chatRecords peers
      ((sampleKeys 1).id .transparent)) = .ok counter) :
    chatRecords (processBlob .transparent transparentMessages
        transparentBlobs peers (sampleKeys 3).x25519Priv sampleEnv
        sampleBlob).peers ((sampleKeys 1).id .transparent) =
      (chatRecords peers ((sampleKeys 1).id .transparent)).insert
        (toBeBytes counter) sampleRecord := by
  have hnow : sampleEnv.now = 1000 := rfl
  have hrecord : insertedRecord .transparent transparentMessages sampleEnv
      (chatRecords peers ((sampleKeys 1).id .transparent))
      (loadStorageKey .transparent (sampleKeys 1).x25519Pub
        (sampleKeys 3).x25519Priv) ⟨.peer, "hi", 990⟩ =
        some (toBeBytes counter, sampleRecord) := by
    unfold insertedRecord
    rw [hcounter]
    rfl
  rw [processBlob_peers, hnow, sampleBlob_effect hcontact]
  simp only
  rw [chatRecords_storeInChat_self, hrecord]

theorem samplePeers_records (contact : Keys) :
    chatRecords (samplePeers contact) (contact.id .transparent) =
      Tree.empty.insert (toBeBytes 0) [42] := by
  unfold chatRecords
  rw [samplePeers_chatDb]
  rfl

theorem sampleBlob_authenticated :
    (∃ payload peer,
        openBlob .transparent transparentBlobs (sampleKeys 3).x25519Priv
            sampleBlob = .ok payload ∧
          payload.senderPubHash = (sampleKeys 1).id .transparent ∧
          loadPeerData .transparent (samplePeers (sampleKeys 1))
            ((sampleKeys 1).id .transparent) = .ok peer ∧
          verifySlice .transparent peer.verifying payload.bytesToVerify
            payload.signature = true) ∧
      (processBlob .transparent transparentMessages transparentBlobs
        (samplePeers (sampleKeys 1)) (sampleKeys 3).x25519Priv sampleEnv
        [1, 2, 3]).event = none := by
  constructor
  · have hcounter : findCounter (chatRecords (samplePeers (sampleKeys 1))
        ((sampleKeys 1).id .transparent)) = .ok 1 := by
      rw [samplePeers_records]
      rfl
    have hchanged : chatRecords (processBlob .transparent transparentMessages
        transparentBlobs (samplePeers (sampleKeys 1))
        (sampleKeys 3).x25519Priv sampleEnv sampleBlob).peers
          ((sampleKeys 1).id .transparent) ≠
        chatRecords (samplePeers (sampleKeys 1))
          ((sampleKeys 1).id .transparent) := by
      rw [sampleBlob_records (samplePeers_contact (sampleKeys 1)) hcounter,
        samplePeers_records, Ne, Tree.insert_eq_self_iff]
      intro hmem
      rcases Tree.mem_insert hmem with heq | hempty
      · have hkey : toBeBytes 1 ≠ toBeBytes 0 := by decide
        exact hkey (congrArg Prod.fst heq)
      · simp at hempty
    obtain ⟨payload, peer, hopen, hsender, hload, hverify, _⟩ :=
      (process_blob_authenticated_and_atomic .transparent transparentMessages
        transparentBlobs (samplePeers (sampleKeys 1))
        (sampleKeys 3).x25519Priv sampleEnv sampleBlob).1 _ hchanged
    exact ⟨payload, peer, hopen, hsender, hload, hverify⟩
  · exact ((process_blob_authenticated_and_atomic .transparent
      transparentMessages transparentBlobs (samplePeers (sampleKeys 1))
      (sampleKeys 3).x25519Priv sampleEnv [1, 2, 3]).2.1 .decryptionFailed
        rfl).2

/-! ## An exhausted record counter -/

/-- The sample contact with another database. -/
def samplePeersWith (contact : Keys) (db : ChatDb) : PeersDir :=
  storeChatDb (samplePeers contact) (contact.id .transparent) db

theorem samplePeersWith_contact (contact : Keys) (db : ChatDb) :
    loadPeerData .transparent (samplePeersWith contact db)
      (contact.id .transparent) = .ok contact.publicPart := by
  unfold samplePeersWith
  rw [(samePubs_storeChatDb _ _ _).loadPeerData]
  exact samplePeers_contact contact

theorem samplePeersWith_records (contact : Keys) (db : ChatDb) :
    chatRecords (samplePeersWith contact db) (contact.id .transparent) =
      db := by
  obtain ⟨dir, hdir⟩ := exists_dir_of_loadPeerData
    (samplePeers_contact contact)
  unfold chatRecords samplePeersWith
  rw [chatDbOf_storeChatDb hdir]
  rfl

def exhaustedDb : ChatDb := Tree.empty.insert (toBeBytes (0 - 1)) [42]

theorem exhaustedDb_findCounter : findCounter exhaustedDb = .ok 0 := rfl

/-- Behind the last 64-bit key an insert does not append. -/
theorem exhausted_insert_not_appended (data : Bytes) :
    ¬ ∃ record, (exhaustedDb.insert (toBeBytes 0) data).entries =
      exhaustedDb.entries ++ [record] := by
  rintro ⟨record, heq⟩
  have hsorted := (exhaustedDb.insert (toBeBytes 0) data).sorted
  have hmem : record ∈ (exhaustedDb.insert (toBeBytes 0) data).entries := by
    rw [heq]
    simp
  rw [heq, List.pairwise_append] at hsorted
  have habove : toBeBytes (0 - 1) < record.1 :=
    hsorted.2.2 _ (Tree.mem_insert_self _ _ _) record (by simp)
  have hnone : ¬ toBeBytes (0 - 1) < toBeBytes 0 := by decide
  rcases Tree.mem_insert hmem with rfl | hold
  · exact hnone habove
  · rcases Tree.mem_insert hold with rfl | hempty
    · exact lt_irrefl _ habove
    · simp at hempty

/-- With a record under the last key the next message goes in front of it. -/
theorem exhausted_blob_not_appended :
    ¬ ∀ (peers : PeersDir) (env : BlobEnv) (blob : Bytes) (id : KeyType),
      chatRecords (processBlob .transparent transparentMessages
          transparentBlobs peers (sampleKeys 3).x25519Priv env blob).peers
          id ≠ chatRecords peers id →
        (∃ record, (chatRecords (processBlob .transparent transparentMessages
            transparentBlobs peers (sampleKeys 3).x25519Priv env
            blob).peers id).entries =
              (chatRecords peers id).entries ++ [record]) ∨
          (chatRecords (processBlob .transparent transparentMessages
            transparentBlobs peers (sampleKeys 3).x25519Priv env
            blob).peers id).entries = [] := by
  intro hall
  have hcounter : findCounter (chatRecords (samplePeersWith (sampleKeys 1)
      exhaustedDb) ((sampleKeys 1).id .transparent)) = .ok 0 := by
    rw [samplePeersWith_records]
    exact exhaustedDb_findCounter
  have hrecords := sampleBlob_records
    (samplePeersWith_contact (sampleKeys 1) exhaustedDb) hcounter
  have hchange := hall (samplePeersWith (sampleKeys 1) exhaustedDb) sampleEnv
    sampleBlob ((sampleKeys 1).id .transparent)
  rw [hrecords, samplePeersWith_records] at hchange
  have hnew : (toBeBytes 0, sampleRecord) ∉ exhaustedDb.entries := by
    intro hmem
    rcases Tree.mem_insert hmem with heq | hempty
    · have hkey : toBeBytes 0 ≠ toBeBytes (0 - 1) := by decide
      exact hkey (congrArg Prod.fst heq)
    · simp at hempty
  rcases hchange (fun heq => hnew ((Tree.insert_eq_self_iff _ _ _).mp heq))
    with happend | hwiped
  · exact exhausted_insert_not_appended sampleRecord happend
  · have hmem := Tree.mem_insert_self exhaustedDb (toBeBytes 0) sampleRecord
    rw [hwiped] at hmem
    simp at hmem

end SechatClient
