import SechatClient.BlobHandling
import SechatClient.ChatLog

/-!
# Delivered blobs

What `process_blob` does at the client it is delivered to.  The first part
follows an honest blob through the checks; the second says, for any blob,
which event it sends and that it leaves the contacts as they are.
-/

namespace SechatClient

open ByteStrings OrderedStore

section Honest

variable {P : Primitives} {messages : Codec Message}
  {blobs : Codec BlobPayload} {sender target : Keys} {peers : PeersDir}
  {issued now : Int64}

theorem openBlob_encryptBlob
    (hdh : P.DhCommutes) (haead : P.AeadCorrect) (hround : blobs.RoundTrip)
    (htarget : target.Genuine P) {payload : BlobPayload} {bytes : Bytes}
    (hbytes : blobs.toVec payload = .ok bytes)
    (ephSecret : KeyType) (nonce : Nonce) :
    openBlob P blobs target.x25519Priv
        (encryptBlob P target.x25519Pub bytes ephSecret nonce) =
      .ok payload := by
  unfold openBlob
  rw [htarget.x25519, decryptBlob_encryptBlob P hdh haead]
  simp only
  rw [hround.fromSlice_toVec hbytes]

theorem identityHash_of_genuine (hsender : sender.Genuine P) :
    identityHash P sender.x25519Pub (P.verifyingKey sender.ed25519Signing) =
      sender.id P := by
  rw [← hsender.ed25519]
  rfl

theorem verifySlice_of_genuine
    (hsig : P.SignatureCorrect) (hsender : sender.Genuine P) (data : Bytes) :
    verifySlice P sender.publicPart.verifying data
      (P.sign sender.ed25519Signing data).toList = true := by
  rw [verifySlice_toList, Keys.publicPart, hsender.ed25519]
  exact hsig sender.ed25519Signing data

theorem checkPurge_of_issued
    (hsig : P.SignatureCorrect) (hsender : sender.Genuine P)
    (hcontact : loadPeerData P peers (sender.id P) = .ok sender.publicPart)
    (hfresh : blobIsFresh issued now = true) :
    checkPurge P peers now (sender.id P)
        (P.sign sender.ed25519Signing (purgeBytesToSign issued)).toList
        issued = .ok () := by
  have hverify : verifySlice P sender.publicPart.verifying
      (purgeBytesToVerify issued)
      (P.sign sender.ed25519Signing (purgeBytesToSign issued)).toList =
        true := by
    rw [purgeBytesToVerify_eq]
    exact verifySlice_of_genuine hsig hsender (purgeBytesToSign issued)
  simp only [checkPurge, hfresh, if_true, hcontact, hverify]

theorem verifySlice_offline_of_genuine
    (hsig : P.SignatureCorrect) (hsender : sender.Genuine P)
    (cipher : Bytes) (issued : Int64) :
    verifySlice P sender.publicPart.verifying
      (offlineBytesToVerify cipher issued)
      (P.sign sender.ed25519Signing
        (offlineBytesToSign cipher issued)).toList = true := by
  rw [offlineBytesToVerify_eq]
  exact verifySlice_of_genuine hsig hsender (offlineBytesToSign cipher issued)

theorem checkOffline_of_recipient
    (hsig : P.SignatureCorrect) (hdh : P.DhCommutes) (haead : P.AeadCorrect)
    (hround : messages.RoundTrip) (hsender : sender.Genuine P)
    (htarget : target.Genuine P)
    (hcontact : loadPeerData P peers (sender.id P) = .ok sender.publicPart)
    (hfresh : blobIsFresh issued now = true)
    {text : String} (storedNonce : Nonce) {cipher : Bytes}
    (hcipher : encryptMessageStored P messages ⟨.you, text, issued⟩
      (loadStorageKey P target.x25519Pub sender.x25519Priv) storedNonce =
        .ok cipher) :
    checkOffline P messages peers target.x25519Priv now (sender.id P)
        issued cipher
        (P.sign sender.ed25519Signing (offlineBytesToSign cipher issued)).toList =
      .ok (loadStorageKey P sender.x25519Pub target.x25519Priv,
        ⟨.peer, text, issued⟩) := by
  have hverify := verifySlice_offline_of_genuine hsig hsender cipher issued
  obtain ⟨bytes, hvec, hslice⟩ := hround ⟨.you, text, issued⟩
  have hdecrypt : decryptMessageStored P cipher
      (loadStorageKey P sender.publicPart.publicKey target.x25519Priv) =
        .ok bytes := by
    simp only [encryptMessageStored, hvec, Except.ok.injEq] at hcipher
    rw [← hcipher, decryptMessageStored_append, Keys.publicPart,
      hsender.x25519, htarget.x25519, loadStorageKey_comm P hdh, haead]
  simp only [checkOffline, hfresh, if_true, hcontact, hverify, hdecrypt,
    hslice]
  rfl

end Honest

/-! ## Record keys -/

def WellKeyed (peers : PeersDir) : Prop :=
  ∀ id db, chatDbOf peers id = some db → db.WellKeyed

theorem WellKeyed.of_one_changed
    {peers next : PeersDir} (hkeys : WellKeyed peers) (id : KeyType)
    (hother : ∀ other, other ≠ id → chatDbOf next other = chatDbOf peers other)
    (hself : ∀ db, chatDbOf next id = some db → db.WellKeyed) :
    WellKeyed next := by
  intro other db hdb
  by_cases hne : other = id
  · subst hne
    exact hself db hdb
  · rw [hother other hne] at hdb
    exact hkeys other db hdb

theorem WellKeyed.getD
    {peers : PeersDir} (hkeys : WellKeyed peers) (id : KeyType) :
    ChatDb.WellKeyed ((chatDbOf peers id).getD Tree.empty) := by
  cases hdb : chatDbOf peers id with
  | none => exact ChatDb.wellKeyed_empty
  | some db => exact hkeys id db hdb

/-! ## Any blob -/

section Effects

variable (P : Primitives) (messages : Codec Message)
  (blobs : Codec BlobPayload)

/-- The sender of a blob that opens to an offline message which passes its
checks and can be stored. -/
def storableSender (peers : PeersDir) (privkey : KeyType) (env : BlobEnv)
    (blob : Bytes) : Option KeyType :=
  match openBlob P blobs privkey blob with
  | .ok (.offlineMessage senderPubHash timestamp ciphertext signature) =>
      match checkOffline P messages peers privkey env.now senderPubHash
          timestamp ciphertext signature with
      | .ok (storageKey, msg) =>
          if env.locked = false ∧
              (encryptMessageStored P messages msg storageKey
                env.nonce).isOk then
            some senderPubHash
          else
            none
      | .error _ => none
  | _ => none

variable {P messages blobs}

theorem exists_dir_of_loadPeerData
    {peers : PeersDir} {id : KeyType} {peer : PeerPublic}
    (hload : loadPeerData P peers id = .ok peer) :
    ∃ dir, peers.lookup (peerDirName id) = some dir := by
  unfold loadPeerData at hload
  cases hlookup : peers.lookup (peerDirName id) with
  | none => simp [hlookup] at hload
  | some dir => exact ⟨dir, rfl⟩

theorem checkOffline_contact
    {peers : PeersDir} {myPriv senderPubHash storageKey : KeyType}
    {now timestamp : Int64} {ciphertext signature : Bytes} {msg : Message}
    (hcheck : checkOffline P messages peers myPriv now senderPubHash timestamp
      ciphertext signature = .ok (storageKey, msg)) :
    ∃ dir, peers.lookup (peerDirName senderPubHash) = some dir := by
  unfold checkOffline at hcheck
  split at hcheck
  next =>
    split at hcheck
    next => contradiction
    next peerData hload => exact exists_dir_of_loadPeerData hload
  next => contradiction

theorem checkOffline_congr
    {peers other : PeersDir}
    (hload : ∀ id, loadPeerData P other id = loadPeerData P peers id)
    (myPriv senderPubHash : KeyType) (now timestamp : Int64)
    (ciphertext signature : Bytes) :
    checkOffline P messages other myPriv now senderPubHash timestamp
        ciphertext signature =
      checkOffline P messages peers myPriv now senderPubHash timestamp
        ciphertext signature := by
  unfold checkOffline
  rw [hload]

theorem storableSender_congr
    {peers other : PeersDir}
    (hload : ∀ id, loadPeerData P other id = loadPeerData P peers id)
    (privkey : KeyType) (env : BlobEnv) (blob : Bytes) :
    storableSender P messages blobs other privkey env blob =
      storableSender P messages blobs peers privkey env blob := by
  unfold storableSender
  cases openBlob P blobs privkey blob with
  | error e => rfl
  | ok payload =>
      cases payload with
      | offlineMessage senderPubHash timestamp ciphertext signature =>
          simp only [checkOffline_congr hload]
      | purge senderPubHash signature timestamp => rfl

variable (P messages) in
theorem samePubs_storeInChat
    {peers : PeersDir} {id : KeyType} {dir : PeerDir}
    (hdir : peers.lookup (peerDirName id) = some dir) (env : BlobEnv)
    (storageKey : KeyType) (msg : Message) :
    SamePubs peers
      (storeInChat P messages env peers id storageKey msg).1 := by
  unfold storeInChat
  cases hopen : loadPeerChatFile env.locked peers id with
  | error e => exact SamePubs.refl peers
  | ok result =>
      obtain ⟨opened, db⟩ := result
      have hopened := samePubs_loadPeerChatFile hdir hopen
      simp only
      cases insertMessageStored P messages msg storageKey env.nonce db with
      | error e => exact hopened
      | ok stored => exact hopened.trans (samePubs_storeChatDb opened id stored)

variable (P messages) in
/-- Storing keeps the record keys well formed and succeeds exactly when the
database is free and the message serialises. -/
theorem storeInChat_wellKeyed
    {peers : PeersDir} (hkeys : WellKeyed peers) (env : BlobEnv)
    (id storageKey : KeyType) (msg : Message) :
    WellKeyed (storeInChat P messages env peers id storageKey msg).1 ∧
      ((storeInChat P messages env peers id storageKey msg).2.isOk = true ↔
        env.locked = false ∧
          (encryptMessageStored P messages msg storageKey env.nonce).isOk =
            true) := by
  unfold storeInChat
  cases hopen : loadPeerChatFile env.locked peers id with
  | error e =>
      have hlocked := loadPeerChatFile_eq_error hopen
      simp [hkeys, hlocked, Except.isOk, Except.toBool]
  | ok result =>
      obtain ⟨opened, db⟩ := result
      obtain ⟨hfree, hdb, hself, hother, dir, hdir⟩ :=
        loadPeerChatFile_eq_ok hopen
      have hdbKeys : db.WellKeyed := by
        rw [hdb]
        exact hkeys.getD id
      simp only [insertMessageStored]
      cases hencrypt : encryptMessageStored P messages msg storageKey
          env.nonce with
      | error e =>
          refine ⟨hkeys.of_one_changed id hother ?_, by
            simp [Except.isOk, Except.toBool]⟩
          intro db' hdb'
          rw [hself] at hdb'
          cases hdb'
          exact hdbKeys
      | ok data =>
          obtain ⟨counter, hcounter⟩ := findCounter_of_wellKeyed hdbKeys
          rw [hcounter]
          refine ⟨hkeys.of_one_changed id ?_ ?_, by
            simp [hfree, Except.isOk, Except.toBool]⟩
          · intro other hne
            rw [← hother other hne]
            exact chatDbOf_modifyDir_ne opened hne _
          · intro db' hdb'
            simp only [chatDbOf_storeChatDb hdir, Option.some.injEq] at hdb'
            rw [← hdb']
            exact hdbKeys.insert counter data

variable (P messages blobs) in
/-- What storing an accepted message keeps of the store, and wiping a chat
does, every blob keeps. -/
theorem processBlob_keeps
    {Keeps : PeersDir → Prop} {peers : PeersDir} (hpeers : Keeps peers)
    (privkey : KeyType) (env : BlobEnv) (blob : Bytes)
    (hstore : ∀ sender timestamp ciphertext signature storageKey msg,
      checkOffline P messages peers privkey env.now sender timestamp
          ciphertext signature = .ok (storageKey, msg) →
        Keeps (storeInChat P messages env peers sender storageKey msg).1)
    (hwipe : ∀ sender, Keeps (purgePeerChat peers sender)) :
    Keeps (processBlob P messages blobs peers privkey env blob).peers := by
  unfold processBlob
  cases openBlob P blobs privkey blob with
  | error e => exact hpeers
  | ok payload =>
      cases payload with
      | offlineMessage senderPubHash timestamp ciphertext signature =>
          simp only [handleBlob]
          cases hcheck : checkOffline P messages peers privkey env.now
              senderPubHash timestamp ciphertext signature with
          | error e => exact hpeers
          | ok checked =>
              obtain ⟨storageKey, msg⟩ := checked
              have hstored := hstore _ _ _ _ storageKey msg hcheck
              simp only
              split <;> next after _ hafter =>
                rw [hafter] at hstored
                exact hstored
      | purge senderPubHash signature timestamp =>
          simp only [handleBlob]
          split
          next => exact hpeers
          next => exact hwipe senderPubHash

theorem processBlob_wellKeyed
    {peers : PeersDir} (hkeys : WellKeyed peers) (privkey : KeyType)
    (env : BlobEnv) (blob : Bytes) :
    WellKeyed (processBlob P messages blobs peers privkey env blob).peers := by
  apply processBlob_keeps P messages blobs hkeys
  · intro sender timestamp ciphertext signature storageKey msg _
    exact (storeInChat_wellKeyed P messages hkeys env sender storageKey msg).1
  · intro sender
    refine hkeys.of_one_changed sender
      (fun other hne => chatDbOf_modifyDir_ne peers hne _) ?_
    simp [chatDbOf_purgePeerChat_self]

variable (P messages blobs) in
/-- The event of a blob: one for each offline message that is stored. -/
theorem processBlob_event
    {peers : PeersDir} (hkeys : WellKeyed peers) (privkey : KeyType)
    (env : BlobEnv) (blob : Bytes) :
    (processBlob P messages blobs peers privkey env blob).event =
      (storableSender P messages blobs peers privkey env blob).map
        .blobStored := by
  unfold processBlob storableSender
  cases openBlob P blobs privkey blob with
  | error e => rfl
  | ok payload =>
      cases payload with
      | offlineMessage senderPubHash timestamp ciphertext signature =>
          simp only [handleBlob]
          cases checkOffline P messages peers privkey env.now senderPubHash
              timestamp ciphertext signature with
          | error e => rfl
          | ok checked =>
              obtain ⟨storageKey, msg⟩ := checked
              have hstored := (storeInChat_wellKeyed P messages hkeys env
                senderPubHash storageKey msg).2
              simp only
              split
              next after e hstore =>
                rw [hstore] at hstored
                rw [if_neg fun hok => Bool.false_ne_true (hstored.mpr hok)]
                rfl
              next after hstore =>
                rw [hstore] at hstored
                rw [if_pos (hstored.mp rfl)]
                rfl
      | purge senderPubHash signature timestamp =>
          simp only [handleBlob]
          split <;> rfl

theorem samePubs_processBlob
    (peers : PeersDir) (privkey : KeyType) (env : BlobEnv) (blob : Bytes) :
    SamePubs peers
      (processBlob P messages blobs peers privkey env blob).peers := by
  apply processBlob_keeps P messages blobs (SamePubs.refl peers)
  · intro sender timestamp ciphertext signature storageKey msg hcheck
    obtain ⟨dir, hdir⟩ := checkOffline_contact hcheck
    exact samePubs_storeInChat P messages hdir env storageKey msg
  · intro sender
    exact samePubs_purgePeerChat peers sender

end Effects

/-! ## A sample blob -/

def sampleEnv : BlobEnv := ⟨1000, false, Vector.replicate 12 9⟩

theorem samplePeers_wellKeyed (contact : Keys) :
    WellKeyed (samplePeers contact) := by
  have hempty : WellKeyed ∅ := by
    intro id db hdb
    simp [chatDbOf] at hdb
  refine hempty.of_one_changed (contact.id .transparent) ?_ ?_
  · intro other hne
    unfold samplePeers storeChatDb
    rw [chatDbOf_modifyDir_ne _ hne]
    unfold chatDbOf
    rw [lookup_initializePeer_ne _ _ _ (peerDirName_ne hne)]
  · intro db hdb
    rw [samplePeers_chatDb] at hdb
    cases hdb
    exact ChatDb.wellKeyed_empty.insert 0 [42]

def sampleCipher : Bytes :=
  (encryptMessageStored .transparent transparentMessages ⟨.you, "hi", 990⟩
    (loadStorageKey .transparent (sampleKeys 3).x25519Pub
      (sampleKeys 1).x25519Priv) (Vector.replicate 12 7)).toOption.getD []

def samplePayload : BlobPayload :=
  .offlineMessage ((sampleKeys 1).id .transparent) 990 sampleCipher
    (Primitives.transparent.sign (sampleKeys 1).ed25519Signing
      (offlineBytesToSign sampleCipher 990)).toList

def sampleBlob : Bytes :=
  encryptBlob .transparent (sampleKeys 3).x25519Pub
    (transparentBlobs.bytesOf samplePayload)
    (Vector.replicate 32 8) (Vector.replicate 12 6)

theorem sampleBlob_opens :
    openBlob .transparent transparentBlobs (sampleKeys 3).x25519Priv
      sampleBlob = .ok samplePayload :=
  openBlob_encryptBlob transparent_dhCommutes transparent_aeadCorrect
    transparentBlobs_roundTrip (sampleKeys_genuine 3)
    (transparentBlobs_roundTrip.toVec_eq samplePayload) _ _

theorem sampleBlob_checks
    {peers : PeersDir}
    (hcontact : loadPeerData .transparent peers
      ((sampleKeys 1).id .transparent) = .ok (sampleKeys 1).publicPart) :
    checkOffline .transparent transparentMessages peers
        (sampleKeys 3).x25519Priv 1000 ((sampleKeys 1).id .transparent) 990
        sampleCipher
        (Primitives.transparent.sign (sampleKeys 1).ed25519Signing
          (offlineBytesToSign sampleCipher 990)).toList =
      .ok (loadStorageKey .transparent (sampleKeys 1).x25519Pub
        (sampleKeys 3).x25519Priv, ⟨.peer, "hi", 990⟩) :=
  checkOffline_of_recipient transparent_signatureCorrect
    transparent_dhCommutes transparent_aeadCorrect
    transparentMessages_roundTrip (sampleKeys_genuine 1)
    (sampleKeys_genuine 3) hcontact (by decide) (Vector.replicate 12 7) rfl

theorem sampleBlob_storable
    {peers : PeersDir}
    (hcontact : loadPeerData .transparent peers
      ((sampleKeys 1).id .transparent) = .ok (sampleKeys 1).publicPart) :
    storableSender .transparent transparentMessages transparentBlobs peers
        (sampleKeys 3).x25519Priv sampleEnv sampleBlob =
      some ((sampleKeys 1).id .transparent) := by
  have hnow : sampleEnv.now = 1000 := rfl
  unfold storableSender
  rw [sampleBlob_opens]
  simp only [samplePayload, hnow, sampleBlob_checks hcontact]
  exact if_pos ⟨rfl, rfl⟩

end SechatClient
