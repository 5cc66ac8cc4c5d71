import SechatClient.BlobDelivery

/-!
# Re-wrapped blobs

A payload which an identity issued for one recipient is taken out of its
envelope, wrapped again for another of its contacts and delivered there.  An
offline message is bound to its recipient by the pairwise storage key; a
purge is signed without naming its recipient.
-/

namespace SechatClient

open ByteStrings OrderedStore

inductive IssuedKind where
  | offline (text : String) (storedNonce : Nonce)
  | purge

variable (P : Primitives)

def issuedPayload (messages : Codec Message) (recipient : PeerPublic)
    (sender : Keys) (issued : Int64) :
    IssuedKind → Except ClientErrors BlobPayload
  | .offline text storedNonce =>
      offlinePayload P messages recipient sender.x25519Pub sender.x25519Priv
        sender.ed25519Signing text storedNonce issued
  | .purge => .ok (purgePayload P sender.x25519Pub sender.ed25519Signing issued)

def issuedMessage (messages : Codec Message) (blobs : Codec BlobPayload)
    (recipient : PeerPublic) (sender : Keys) (issued : Int64)
    (ephSecret : KeyType) (nonce : Nonce) :
    IssuedKind → Except ClientErrors ClientToServer
  | .offline text storedNonce =>
      generateOfflineMessage P messages blobs recipient sender.x25519Pub
        sender.x25519Priv sender.ed25519Signing text storedNonce ephSecret
        nonce issued
  | .purge =>
      generatePurgeMessage P blobs recipient sender.x25519Pub
        sender.ed25519Signing ephSecret nonce issued

theorem issuedMessage_eq_ok
    {messages : Codec Message} {blobs : Codec BlobPayload}
    {recipient : PeerPublic} {sender : Keys} {issued : Int64}
    {ephSecret : KeyType} {nonce : Nonce} {kind : IssuedKind}
    {msg : ClientToServer}
    (hissued : issuedMessage P messages blobs recipient sender issued
      ephSecret nonce kind = .ok msg) :
    ∃ payload bytes,
      issuedPayload P messages recipient sender issued kind = .ok payload ∧
      blobs.toVec payload = .ok bytes ∧
      msg.payload = generateBlob P recipient bytes ephSecret nonce := by
  cases kind with
  | offline text storedNonce =>
      simp only [issuedMessage, generateOfflineMessage] at hissued
      split at hissued
      next => contradiction
      next payload hpayload =>
        split at hissued
        next => contradiction
        next bytes hbytes =>
          cases hissued
          exact ⟨payload, bytes, hpayload, hbytes, rfl⟩
  | purge =>
      simp only [issuedMessage, generatePurgeMessage] at hissued
      split at hissued
      next => contradiction
      next bytes hbytes =>
        cases hissued
        exact ⟨_, bytes, rfl, hbytes, rfl⟩

section Delivery

variable {P} {messages : Codec Message} {blobs : Codec BlobPayload}
  {sender target : Keys} {recipient : PeerPublic} {peers : PeersDir}
  {issued : Int64} {env : BlobEnv}

/-- The signature of an issued offline message verifies at every contact of
its sender, but only the recipient's storage key opens the ciphertext. -/
theorem checkOffline_of_other_recipient
    (messages : Codec Message)
    (hsig : P.SignatureCorrect) (hsender : sender.Genuine P)
    (hauth : P.AeadAuthenticAmong
      [loadStorageKey P recipient.publicKey sender.x25519Priv,
        loadStorageKey P sender.x25519Pub target.x25519Priv])
    (hcontact : loadPeerData P peers (sender.id P) = .ok sender.publicPart)
    (hkeys : loadStorageKey P recipient.publicKey sender.x25519Priv ≠
      loadStorageKey P sender.x25519Pub target.x25519Priv)
    (hfresh : blobIsFresh issued env.now = true)
    (bytes : Bytes) (storedNonce : Nonce) :
    let cipher := storedNonce.toList ++
      P.aeadEncrypt (loadStorageKey P recipient.publicKey sender.x25519Priv)
        storedNonce bytes
    checkOffline P messages peers target.x25519Priv env.now (sender.id P)
        issued cipher
        (P.sign sender.ed25519Signing (offlineBytesToSign cipher issued)).toList =
      .error .decryptionFailed := by
  intro cipher
  have hverify := verifySlice_offline_of_genuine hsig hsender cipher issued
  have hdecrypt : decryptMessageStored P cipher
      (loadStorageKey P sender.publicPart.publicKey target.x25519Priv) =
        .error .cryptographicError := by
    rw [decryptMessageStored_append]
    simp only [Keys.publicPart]
    rw [hauth _ (by simp) _ (by simp) hkeys]
  simp only [checkOffline, hfresh, if_true, hcontact, hverify, hdecrypt]

theorem handleBlob_offline_of_other_recipient
    (hsig : P.SignatureCorrect) (hsender : sender.Genuine P)
    (hauth : P.AeadAuthenticAmong
      [loadStorageKey P recipient.publicKey sender.x25519Priv,
        loadStorageKey P sender.x25519Pub target.x25519Priv])
    (hcontact : loadPeerData P peers (sender.id P) = .ok sender.publicPart)
    (hkeys : loadStorageKey P recipient.publicKey sender.x25519Priv ≠
      loadStorageKey P sender.x25519Pub target.x25519Priv)
    (hfresh : blobIsFresh issued env.now = true)
    {text : String} {storedNonce : Nonce} {payload : BlobPayload}
    (hissued : issuedPayload P messages recipient sender issued
      (.offline text storedNonce) = .ok payload) :
    (handleBlob P messages peers target.x25519Priv env payload).peers =
      peers := by
  simp only [issuedPayload, offlinePayload, encryptMessageStored] at hissued
  cases hvec : messages.toVec ⟨.you, text, issued⟩ with
  | error e =>
      rw [hvec] at hissued
      simp at hissued
  | ok bytes =>
      rw [hvec] at hissued
      simp only [Except.ok.injEq] at hissued
      subst payload
      rw [identityHash_of_genuine hsender]
      have hcheck := checkOffline_of_other_recipient messages hsig
        hsender hauth hcontact hkeys hfresh bytes storedNonce
      simp only at hcheck
      simp only [handleBlob, signChallenge, hcheck]

theorem handleBlob_purge_of_issued
    (hsig : P.SignatureCorrect) (hsender : sender.Genuine P)
    (hcontact : loadPeerData P peers (sender.id P) = .ok sender.publicPart)
    (hfresh : blobIsFresh issued env.now = true) :
    (handleBlob P messages peers target.x25519Priv env
      (purgePayload P sender.x25519Pub sender.ed25519Signing issued)).peers =
      purgePeerChat peers (sender.id P) := by
  have hcheck := checkPurge_of_issued hsig hsender hcontact hfresh
  unfold purgePayload
  rw [identityHash_of_genuine hsender]
  simp only [handleBlob, signChallenge, hcheck]

end Delivery

theorem issuedMessage_of_payload
    {messages : Codec Message} {blobs : Codec BlobPayload}
    {recipient : PeerPublic} {sender : Keys} {issued : Int64}
    {kind : IssuedKind} {payload : BlobPayload} {bytes : Bytes}
    (hpayload : issuedPayload P messages recipient sender issued kind =
      .ok payload)
    (hbytes : blobs.toVec payload = .ok bytes)
    (ephSecret : KeyType) (nonce : Nonce) :
    issuedMessage P messages blobs recipient sender issued ephSecret nonce
        kind =
      .ok (.new (generateBlob P recipient bytes ephSecret nonce) none
        issued) := by
  cases kind with
  | offline text storedNonce =>
      simp only [issuedPayload] at hpayload
      simp only [issuedMessage, generateOfflineMessage, hpayload, hbytes]
  | purge =>
      cases hpayload
      simp only [issuedMessage, generatePurgeMessage, hbytes]

theorem decryptBlob_of_issued
    {messages : Codec Message} {blobs : Codec BlobPayload}
    (hdh : P.DhCommutes) (haead : P.AeadCorrect) {sender recipient : Keys}
    (hrecipient : recipient.Genuine P) {issued : Int64} {ephSecret : KeyType}
    {nonce : Nonce} {kind : IssuedKind} {msg : ClientToServer}
    (hissued : issuedMessage P messages blobs recipient.publicPart sender
      issued ephSecret nonce kind = .ok msg)
    {hash : KeyType} {blob opened : Bytes}
    (hblob : msg.payload = .sendBlob hash blob)
    (hopened : decryptBlob P blob recipient.x25519Priv = .ok opened) :
    ∃ payload,
      issuedPayload P messages recipient.publicPart sender issued kind =
        .ok payload ∧
      blobs.toVec payload = .ok opened := by
  obtain ⟨payload, bytes, hpayload, hbytes, hmsg⟩ :=
    issuedMessage_eq_ok P hissued
  rw [hblob, generateBlob] at hmsg
  cases hmsg
  have hopen : decryptBlob P (encryptBlob P recipient.publicPart.publicKey
      bytes ephSecret nonce) recipient.x25519Priv = .ok bytes := by
    rw [Keys.publicPart, hrecipient.x25519]
    exact decryptBlob_encryptBlob P hdh haead recipient.x25519Priv bytes
      ephSecret nonce
  rw [hopen] at hopened
  cases hopened
  exact ⟨payload, hpayload, hbytes⟩

/-- A blob issued for one recipient, opened there and re-wrapped for another
contact of the sender leaves that contact's chat store with the sender
unchanged exactly when it is an offline message or the store does not
exist. -/
theorem rewrapped_blob_chat_unchanged_iff
    (messages : Codec Message) (blobs : Codec BlobPayload)
    (hsig : P.SignatureCorrect) (hdh : P.DhCommutes) (haead : P.AeadCorrect)
    (hround : blobs.RoundTrip)
    (sender recipient target : Keys) (peers : PeersDir)
    (hauth : P.AeadAuthenticAmong
      [loadStorageKey P recipient.x25519Pub sender.x25519Priv,
        loadStorageKey P sender.x25519Pub target.x25519Priv])
    (hsender : sender.Genuine P) (hrecipient : recipient.Genuine P)
    (htarget : target.Genuine P)
    (hcontact : loadPeerData P peers (sender.id P) = .ok sender.publicPart)
    (hkeys : loadStorageKey P recipient.x25519Pub sender.x25519Priv ≠
      loadStorageKey P sender.x25519Pub target.x25519Priv)
    (kind : IssuedKind) (issued : Int64) (env : BlobEnv)
    (hfresh : blobIsFresh issued env.now = true)
    (ephSecret : KeyType) (nonce : Nonce) (msg : ClientToServer)
    (hissued : issuedMessage P messages blobs recipient.publicPart sender
      issued ephSecret nonce kind = .ok msg)
    (hash : KeyType) (blob opened : Bytes)
    (hblob : msg.payload = .sendBlob hash blob)
    (hopened : decryptBlob P blob recipient.x25519Priv = .ok opened)
    (ephSecret' : KeyType) (nonce' : Nonce) :
    chatDbOf (processBlob P messages blobs peers target.x25519Priv env
        (encryptBlob P target.x25519Pub opened ephSecret' nonce')).peers
        (sender.id P) = chatDbOf peers (sender.id P) ↔
      kind ≠ .purge ∨ chatDbOf peers (sender.id P) = none := by
  obtain ⟨payload, hpayload, hbytes⟩ :=
    decryptBlob_of_issued P hdh haead hrecipient hissued hblob hopened
  unfold processBlob
  rw [openBlob_encryptBlob hdh haead hround htarget hbytes]
  simp only
  cases kind with
  | offline text storedNonce =>
      rw [handleBlob_offline_of_other_recipient hsig hsender hauth hcontact
        hkeys hfresh hpayload]
      simp
  | purge =>
      simp only [issuedPayload, Except.ok.injEq] at hpayload
      subst payload
      rw [handleBlob_purge_of_issued hsig hsender hcontact hfresh,
        chatDbOf_purgePeerChat_self]
      simp [eq_comm]

/-! ## A re-wrapped purge

The sender has issued a purge for one contact; another contact, who holds a
conversation with the sender, receives it. -/

theorem sample_storageKeys_ne :
    loadStorageKey Primitives.transparent (sampleKeys 5).x25519Pub
        (sampleKeys 1).x25519Priv ≠
      loadStorageKey Primitives.transparent (sampleKeys 1).x25519Pub
        (sampleKeys 3).x25519Priv := by
  decide

theorem sample_issued
    {kind : IssuedKind} {payload : BlobPayload}
    (hpayload : issuedPayload Primitives.transparent transparentMessages
      (sampleKeys 5).publicPart (sampleKeys 1) 990 kind = .ok payload) :
    ∃ msg hash blob,
      issuedMessage Primitives.transparent transparentMessages
          transparentBlobs (sampleKeys 5).publicPart (sampleKeys 1) 990
          (Vector.replicate 32 4) (Vector.replicate 12 5) kind = .ok msg ∧
        msg.payload = .sendBlob hash blob ∧
        decryptBlob Primitives.transparent blob (sampleKeys 5).x25519Priv =
          .ok (transparentBlobs.bytesOf payload) := by
  have hissued := issuedMessage_of_payload Primitives.transparent hpayload
    (transparentBlobs_roundTrip.toVec_eq payload) (Vector.replicate 32 4)
    (Vector.replicate 12 5)
  have hopened := decryptBlob_encryptBlob Primitives.transparent
    transparent_dhCommutes transparent_aeadCorrect (sampleKeys 5).x25519Priv
    (transparentBlobs.bytesOf payload) (Vector.replicate 32 4)
    (Vector.replicate 12 5)
  exact ⟨_, _, _, hissued, rfl, hopened⟩

theorem rewrapped_offline_chat_unchanged :
    ∃ msg hash blob opened,
      issuedMessage Primitives.transparent transparentMessages
          transparentBlobs (sampleKeys 5).publicPart (sampleKeys 1) 990
          (Vector.replicate 32 4) (Vector.replicate 12 5)
          (.offline "hi" (Vector.replicate 12 7)) = .ok msg ∧
        msg.payload = .sendBlob hash blob ∧
        decryptBlob Primitives.transparent blob (sampleKeys 5).x25519Priv =
          .ok opened ∧
        chatDbOf (processBlob Primitives.transparent transparentMessages
            transparentBlobs (samplePeers (sampleKeys 1))
            (sampleKeys 3).x25519Priv sampleEnv
            (encryptBlob Primitives.transparent (sampleKeys 3).x25519Pub
              opened (Vector.replicate 32 8) (Vector.replicate 12 6))).peers
            ((sampleKeys 1).id Primitives.transparent) =
          chatDbOf (samplePeers (sampleKeys 1))
            ((sampleKeys 1).id Primitives.transparent) := by
  obtain ⟨payload, hpayload⟩ : ∃ payload,
      issuedPayload Primitives.transparent transparentMessages
        (sampleKeys 5).publicPart (sampleKeys 1) 990
        (.offline "hi" (Vector.replicate 12 7)) = .ok payload := ⟨_, rfl⟩
  obtain ⟨msg, hash, blob, hissued, hblob, hopened⟩ := sample_issued hpayload
  refine ⟨msg, hash, blob, _, hissued, hblob, hopened, ?_⟩
  exact (rewrapped_blob_chat_unchanged_iff Primitives.transparent
    transparentMessages transparentBlobs transparent_signatureCorrect
    transparent_dhCommutes transparent_aeadCorrect
    transparentBlobs_roundTrip (sampleKeys 1) (sampleKeys 5) (sampleKeys 3)
    (samplePeers (sampleKeys 1)) (transparent_aeadAuthenticAmong _)
    (sampleKeys_genuine 1)
    (sampleKeys_genuine 5) (sampleKeys_genuine 3)
    (samplePeers_contact (sampleKeys 1)) sample_storageKeys_ne
    (.offline "hi" (Vector.replicate 12 7)) 990 sampleEnv (by decide)
    (Vector.replicate 32 4) (Vector.replicate 12 5) msg hissued hash blob _
    hblob hopened (Vector.replicate 32 8) (Vector.replicate 12 6)).mpr
      (Or.inl (by simp))

/-- The purge issued for the contact `5` wipes the conversation which the
contact `3` holds with the sender. -/
theorem rewrapped_purge_wipes_other_contact :
    ∃ msg hash blob opened,
      issuedMessage Primitives.transparent transparentMessages
          transparentBlobs (sampleKeys 5).publicPart (sampleKeys 1) 990
          (Vector.replicate 32 4) (Vector.replicate 12 5) .purge = .ok msg ∧
        msg.payload = .sendBlob hash blob ∧
        decryptBlob Primitives.transparent blob (sampleKeys 5).x25519Priv =
          .ok opened ∧
        (sampleKeys 5).publicPart ≠ (sampleKeys 3).publicPart ∧
        loadStorageKey Primitives.transparent (sampleKeys 5).x25519Pub
            (sampleKeys 1).x25519Priv ≠
          loadStorageKey Primitives.transparent (sampleKeys 1).x25519Pub
            (sampleKeys 3).x25519Priv ∧
        blobIsFresh 990 sampleEnv.now = true ∧
        loadPeerData Primitives.transparent (samplePeers (sampleKeys 1))
          ((sampleKeys 1).id Primitives.transparent) =
            .ok (sampleKeys 1).publicPart ∧
        chatDbOf (processBlob Primitives.transparent transparentMessages
            transparentBlobs (samplePeers (sampleKeys 1))
            (sampleKeys 3).x25519Priv sampleEnv
            (encryptBlob Primitives.transparent (sampleKeys 3).x25519Pub
              opened (Vector.replicate 32 8) (Vector.replicate 12 6))).peers
            ((sampleKeys 1).id Primitives.transparent) ≠
          chatDbOf (samplePeers (sampleKeys 1))
            ((sampleKeys 1).id Primitives.transparent) := by
  have hfresh : blobIsFresh 990 sampleEnv.now = true := by decide
  let payload := purgePayload Primitives.transparent (sampleKeys 1).x25519Pub
    (sampleKeys 1).ed25519Signing 990
  have hbytes := transparentBlobs_roundTrip.toVec_eq payload
  have hpayload : issuedPayload Primitives.transparent transparentMessages
      (sampleKeys 5).publicPart (sampleKeys 1) 990 .purge = .ok payload := rfl
  obtain ⟨msg, hash, blob, hissued, hblob, hopened⟩ := sample_issued hpayload
  refine ⟨msg, hash, blob, _, hissued, hblob, hopened, by decide,
    sample_storageKeys_ne, hfresh, samplePeers_contact (sampleKeys 1), ?_⟩
  unfold processBlob
  rw [openBlob_encryptBlob transparent_dhCommutes transparent_aeadCorrect
    transparentBlobs_roundTrip (sampleKeys_genuine 3) hbytes]
  simp only
  rw [handleBlob_purge_of_issued transparent_signatureCorrect
    (sampleKeys_genuine 1) (samplePeers_contact (sampleKeys 1)) hfresh,
    chatDbOf_purgePeerChat_self, samplePeers_chatDb]
  simp

end SechatClient
