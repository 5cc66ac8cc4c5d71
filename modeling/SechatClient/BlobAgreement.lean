import SechatClient.BlobChanges

/-!
# Blob producers and their consumer

A blob built by `generate_offline_message` or `generate_purge_message` at one
identity and handled by `process_blob` at the other.  The two sides derive
the envelope key and the storage key from different inputs; both agree by
commutativity of the key exchange.
-/

namespace SechatClient

open ByteStrings OrderedStore

section Agreement

variable {P : Primitives} {messages : Codec Message}
  {blobs : Codec BlobPayload} {sender target : Keys} {peers : PeersDir}
  {issued : Int64} {env : BlobEnv}

theorem generateOfflineMessage_succeeds
    (hround : messages.RoundTrip) (hblobs : blobs.RoundTrip)
    (hsender : sender.Genuine P) (recipient : PeerPublic) (issued : Int64)
    (text : String) (storedNonce : Nonce) (ephSecret : KeyType)
    (nonce : Nonce) :
    ∃ cipher, encryptMessageStored P messages ⟨.you, text, issued⟩
          (loadStorageKey P recipient.publicKey sender.x25519Priv)
          storedNonce = .ok cipher ∧
      generateOfflineMessage P messages blobs recipient sender.x25519Pub
          sender.x25519Priv sender.ed25519Signing text storedNonce ephSecret
          nonce issued =
        .ok (.new (.sendBlob (recipient.hash P)
          (encryptBlob P recipient.publicKey
            (blobs.bytesOf (.offlineMessage (sender.id P) issued cipher
              (P.sign sender.ed25519Signing
                (offlineBytesToSign cipher issued)).toList))
            ephSecret nonce)) none issued) := by
  obtain ⟨cipher, hcipher⟩ := encryptMessageStored_succeeds P
    (loadStorageKey P recipient.publicKey sender.x25519Priv) hround
    ⟨.you, text, issued⟩ storedNonce
  have hid := identityHash_of_genuine hsender
  refine ⟨cipher, hcipher, ?_⟩
  simp only [generateOfflineMessage, offlinePayload, hcipher, hblobs.toVec_eq,
    hid]
  rfl

theorem generatePurgeMessage_succeeds
    (hblobs : blobs.RoundTrip) (hsender : sender.Genuine P)
    (recipient : PeerPublic) (issued : Int64) (ephSecret : KeyType)
    (nonce : Nonce) :
    generatePurgeMessage P blobs recipient sender.x25519Pub
        sender.ed25519Signing ephSecret nonce issued =
      .ok (.new (.sendBlob (recipient.hash P)
        (encryptBlob P recipient.publicKey
          (blobs.bytesOf (.purge (sender.id P)
            (P.sign sender.ed25519Signing (purgeBytesToSign issued)).toList
            issued)) ephSecret nonce)) none issued) := by
  have hid := identityHash_of_genuine hsender
  simp only [generatePurgeMessage, purgePayload, hblobs.toVec_eq, hid]
  rfl

theorem blobEffect_of_offline
    (hsig : P.SignatureCorrect) (hdh : P.DhCommutes) (haead : P.AeadCorrect)
    (hround : messages.RoundTrip) (hblobs : blobs.RoundTrip)
    (hsender : sender.Genuine P) (htarget : target.Genuine P)
    (hcontact : loadPeerData P peers (sender.id P) = .ok sender.publicPart)
    {now : Int64} (hfresh : blobIsFresh issued now = true)
    {text : String} {storedNonce : Nonce} {cipher : Bytes}
    (hcipher : encryptMessageStored P messages ⟨.you, text, issued⟩
      (loadStorageKey P target.x25519Pub sender.x25519Priv) storedNonce =
        .ok cipher)
    (ephSecret : KeyType) (nonce : Nonce) :
    blobEffect P messages blobs peers target.x25519Priv now
        (encryptBlob P target.x25519Pub
          (blobs.bytesOf (.offlineMessage (sender.id P) issued cipher
            (P.sign sender.ed25519Signing
              (offlineBytesToSign cipher issued)).toList))
          ephSecret nonce) =
      .store (sender.id P)
        (loadStorageKey P sender.x25519Pub target.x25519Priv)
        ⟨.peer, text, issued⟩ := by
  have hopen := openBlob_encryptBlob hdh haead hblobs htarget
    (hblobs.toVec_eq (.offlineMessage (sender.id P) issued cipher
      (P.sign sender.ed25519Signing
        (offlineBytesToSign cipher issued)).toList)) ephSecret nonce
  have hcheck := checkOffline_of_recipient hsig hdh haead hround hsender
    htarget hcontact hfresh storedNonce hcipher
  unfold blobEffect
  rw [hopen]
  simp only [hcheck]

theorem blobEffect_of_purge
    (messages : Codec Message) (hsig : P.SignatureCorrect)
    (hdh : P.DhCommutes) (haead : P.AeadCorrect) (hblobs : blobs.RoundTrip)
    (hsender : sender.Genuine P) (htarget : target.Genuine P)
    (hcontact : loadPeerData P peers (sender.id P) = .ok sender.publicPart)
    {now : Int64} (hfresh : blobIsFresh issued now = true)
    (ephSecret : KeyType) (nonce : Nonce) :
    blobEffect P messages blobs peers target.x25519Priv now
        (encryptBlob P target.x25519Pub
          (blobs.bytesOf (.purge (sender.id P)
            (P.sign sender.ed25519Signing (purgeBytesToSign issued)).toList
            issued)) ephSecret nonce) =
      .wipe (sender.id P) := by
  have hopen := openBlob_encryptBlob hdh haead hblobs htarget
    (hblobs.toVec_eq (.purge (sender.id P)
      (P.sign sender.ed25519Signing (purgeBytesToSign issued)).toList
      issued)) ephSecret nonce
  have hcheck := checkPurge_of_issued hsig hsender hcontact hfresh
  unfold blobEffect
  rw [hopen]
  simp only [hcheck]

/-- The next key can be computed and lies behind the last one. -/
def ChatDb.Appendable (db : ChatDb) : Prop :=
  ∀ entry, db.last = some entry →
    entry.1.length = 8 ∧ ofBeBytes entry.1 + 1 ≠ 0

theorem ChatDb.Appendable.findCounter
    {db : ChatDb} (happend : db.Appendable) :
    ∃ counter, findCounter db = .ok counter := by
  unfold SechatClient.findCounter
  cases hlast : db.last with
  | none => exact ⟨0, rfl⟩
  | some entry => simp [(happend entry hlast).1]

/-- A stored effect on a database that is free and appendable. -/
theorem store_effect_appends
    (haead : P.AeadCorrect) (hround : messages.RoundTrip)
    {privkey storageKey id : KeyType} {blob : Bytes} {msg : Message}
    (heffect : blobEffect P messages blobs peers privkey env.now blob =
      .store id storageKey msg)
    (hfree : env.locked = false)
    (happend : (chatRecords peers id).Appendable) :
    let after := chatRecords (processBlob P messages blobs peers privkey env
      blob).peers id
    (∃ key data, after.entries =
          (chatRecords peers id).entries ++ [(key, data)] ∧
        decodeRecord P messages storageKey data = some msg) ∧
      (loadPeerChatMessages P messages storageKey after).1 =
        (loadPeerChatMessages P messages storageKey
          (chatRecords peers id)).1 ++ [msg] := by
  intro after
  obtain ⟨counter, hcounter⟩ := happend.findCounter
  obtain ⟨data, hdata⟩ := encryptMessageStored_succeeds P storageKey hround
    msg env.nonce
  have hroom : (chatRecords peers id).HasRoom := by
    intro entry hlast
    exact (happend entry hlast).2
  have habove := findCounter_above hroom hcounter
  have hdecode := decodeRecord_encryptMessageStored haead hround hdata
  have hafter : after =
      (chatRecords peers id).insert (toBeBytes counter) data := by
    have hrecord : insertedRecord P messages env (chatRecords peers id)
        storageKey msg = some (toBeBytes counter, data) := by
      simp [insertedRecord, hfree, hdata, hcounter]
    simp only [after]
    rw [processBlob_peers, heffect]
    simp only
    rw [chatRecords_storeInChat_self, hrecord]
  rw [hafter]
  constructor
  · exact ⟨toBeBytes counter, data,
      Tree.insert_entries_of_forall_lt data habove, hdecode⟩
  · rw [loadPeerChatMessages_messages, loadPeerChatMessages_messages,
      chatLog_insert_of_above habove, hdecode]
    rfl

/-- An offline message arrives as one more message of the conversation, and a
purge empties it and nothing else. -/
theorem issued_blobs_reach_the_log
    (hsig : P.SignatureCorrect) (hdh : P.DhCommutes) (haead : P.AeadCorrect)
    (hround : messages.RoundTrip) (hblobs : blobs.RoundTrip)
    (sender target : Keys) (hsender : sender.Genuine P)
    (htarget : target.Genuine P) (peers : PeersDir)
    (hcontact : loadPeerData P peers (sender.id P) = .ok sender.publicPart)
    (issued : Int64) (env : BlobEnv)
    (hfresh : blobIsFresh issued env.now = true)
    (ephSecret : KeyType) (nonce : Nonce) :
    (∀ text storedNonce, env.locked = false →
      (chatRecords peers (sender.id P)).Appendable →
      ∃ msg blob,
        generateOfflineMessage P messages blobs target.publicPart
            sender.x25519Pub sender.x25519Priv sender.ed25519Signing text
            storedNonce ephSecret nonce issued = .ok msg ∧
          msg.payload = .sendBlob (target.id P) blob ∧
          let after := chatRecords (processBlob P messages blobs peers
            target.x25519Priv env blob).peers (sender.id P)
          let storageKey := loadStorageKey P sender.x25519Pub
            target.x25519Priv
          (∃ key data, after.entries =
                (chatRecords peers (sender.id P)).entries ++ [(key, data)] ∧
              decodeRecord P messages storageKey data =
                some ⟨.peer, text, issued⟩) ∧
            (loadPeerChatMessages P messages storageKey after).1 =
              (loadPeerChatMessages P messages storageKey
                (chatRecords peers (sender.id P))).1 ++
                [⟨.peer, text, issued⟩]) ∧
      ∃ msg blob,
        generatePurgeMessage P blobs target.publicPart sender.x25519Pub
            sender.ed25519Signing ephSecret nonce issued = .ok msg ∧
          msg.payload = .sendBlob (target.id P) blob ∧
          let after := (processBlob P messages blobs peers
            target.x25519Priv env blob).peers
          (chatRecords after (sender.id P)).entries = [] ∧
            SamePubs peers after ∧
            ∀ other, other ≠ sender.id P →
              chatRecords after other = chatRecords peers other := by
  constructor
  · intro text storedNonce hfree happend
    obtain ⟨cipher, hcipher, hgenerated⟩ := generateOfflineMessage_succeeds
      hround hblobs hsender target.publicPart issued text storedNonce
      ephSecret nonce
    have heffect := blobEffect_of_offline hsig hdh haead hround hblobs
      hsender htarget hcontact hfresh hcipher ephSecret nonce
    exact ⟨_, _, hgenerated, rfl,
      store_effect_appends haead hround heffect hfree happend⟩
  · have hgenerated := generatePurgeMessage_succeeds hblobs hsender
      target.publicPart issued ephSecret nonce
    have heffect := blobEffect_of_purge messages hsig hdh haead hblobs
      hsender htarget hcontact hfresh ephSecret nonce
    refine ⟨_, _, hgenerated, rfl, ?_⟩
    rw [Keys.publicPart, processBlob_peers, heffect]
    refine ⟨?_, samePubs_purgePeerChat peers _, ?_⟩
    · rw [chatRecords_purgePeerChat_self]
      rfl
    · intro other hne
      exact chatRecords_purgePeerChat_ne peers hne

end Agreement

/-! ## A sample message -/

theorem sample_blobs_reach_the_log :
    ∃ msg blob,
      generateOfflineMessage .transparent transparentMessages
          transparentBlobs (sampleKeys 3).publicPart (sampleKeys 1).x25519Pub
          (sampleKeys 1).x25519Priv (sampleKeys 1).ed25519Signing "hi"
          (Vector.replicate 12 7) (Vector.replicate 32 8)
          (Vector.replicate 12 6) 990 = .ok msg ∧
        msg.payload = .sendBlob ((sampleKeys 3).id .transparent) blob ∧
        (loadPeerChatMessages .transparent transparentMessages
          (loadStorageKey .transparent (sampleKeys 1).x25519Pub
            (sampleKeys 3).x25519Priv)
          (chatRecords (processBlob .transparent transparentMessages
            transparentBlobs (samplePeers (sampleKeys 1))
            (sampleKeys 3).x25519Priv sampleEnv blob).peers
            ((sampleKeys 1).id .transparent))).1 =
          [⟨.peer, "hi", 990⟩] := by
  have happend : (chatRecords (samplePeers (sampleKeys 1))
      ((sampleKeys 1).id .transparent)).Appendable := by
    rw [samplePeers_records]
    intro entry hlast
    cases hlast
    decide
  obtain ⟨msg, blob, hgenerated, hblob, _, hload⟩ :=
    (issued_blobs_reach_the_log transparent_signatureCorrect
      transparent_dhCommutes transparent_aeadCorrect
      transparentMessages_roundTrip transparentBlobs_roundTrip (sampleKeys 1)
      (sampleKeys 3) (sampleKeys_genuine 1) (sampleKeys_genuine 3)
      (samplePeers (sampleKeys 1)) (samplePeers_contact (sampleKeys 1)) 990
      sampleEnv (by decide) (Vector.replicate 32 8)
      (Vector.replicate 12 6)).1 "hi" (Vector.replicate 12 7) rfl happend
  refine ⟨msg, blob, hgenerated, hblob, ?_⟩
  rw [hload, samplePeers_records]
  rfl

/-- The sample blob is what `generate_offline_message` builds. -/
theorem sampleBlob_generated :
    ∃ msg, generateOfflineMessage .transparent transparentMessages
        transparentBlobs (sampleKeys 3).publicPart (sampleKeys 1).x25519Pub
        (sampleKeys 1).x25519Priv (sampleKeys 1).ed25519Signing "hi"
        (Vector.replicate 12 7) (Vector.replicate 32 8)
        (Vector.replicate 12 6) 990 = .ok msg ∧
      msg.payload = .sendBlob ((sampleKeys 3).id .transparent) sampleBlob := by
  obtain ⟨cipher, hcipher, hgenerated⟩ := generateOfflineMessage_succeeds
    transparentMessages_roundTrip transparentBlobs_roundTrip
    (sampleKeys_genuine 1) (sampleKeys 3).publicPart 990 "hi"
    (Vector.replicate 12 7) (Vector.replicate 32 8) (Vector.replicate 12 6)
  rw [Keys.publicPart] at hcipher
  have hsame : cipher = sampleCipher := by
    unfold sampleCipher
    rw [hcipher]
    rfl
  subst hsame
  exact ⟨_, hgenerated, rfl⟩

def SampleBlobAppended (peers : PeersDir) (env : BlobEnv) : Prop :=
  ∃ record,
    (chatRecords (processBlob .transparent transparentMessages
      transparentBlobs peers (sampleKeys 3).x25519Priv env sampleBlob).peers
      ((sampleKeys 1).id .transparent)).entries =
      (chatRecords peers ((sampleKeys 1).id .transparent)).entries ++ [record]

theorem sampleBlob_not_appended_of_error
    {peers : PeersDir} {env : BlobEnv}
    (hcontact : loadPeerData .transparent peers
      ((sampleKeys 1).id .transparent) = .ok (sampleKeys 1).publicPart)
    (hnow : env.now = 1000)
    (hrecord : ∀ storageKey msg, insertedRecord .transparent
      transparentMessages env (chatRecords peers
        ((sampleKeys 1).id .transparent)) storageKey msg = none) :
    ¬ SampleBlobAppended peers env := by
  rintro ⟨record, hentries⟩
  rw [processBlob_peers, hnow, sampleBlob_effect hcontact] at hentries
  simp only at hentries
  rw [chatRecords_storeInChat_self, hrecord] at hentries
  simp at hentries

/-- Three stores in which the message of a contact is not appended: the
record counter is exhausted, the database is open elsewhere, and the last
key is not a counter. -/
theorem sampleBlob_not_appended :
    (∃ msg, generateOfflineMessage .transparent transparentMessages
          transparentBlobs (sampleKeys 3).publicPart (sampleKeys 1).x25519Pub
          (sampleKeys 1).x25519Priv (sampleKeys 1).ed25519Signing "hi"
          (Vector.replicate 12 7) (Vector.replicate 32 8)
          (Vector.replicate 12 6) 990 = .ok msg ∧
        msg.payload =
          .sendBlob ((sampleKeys 3).id .transparent) sampleBlob) ∧
      (∀ db, loadPeerData .transparent (samplePeersWith (sampleKeys 1) db)
        ((sampleKeys 1).id .transparent) = .ok (sampleKeys 1).publicPart) ∧
      blobIsFresh 990 sampleEnv.now = true ∧
      ¬ SampleBlobAppended (samplePeersWith (sampleKeys 1) exhaustedDb)
        sampleEnv ∧
      ¬ SampleBlobAppended (samplePeersWith (sampleKeys 1) Tree.empty)
        { sampleEnv with locked := true } ∧
      ¬ SampleBlobAppended (samplePeersWith (sampleKeys 1)
        (Tree.empty.insert [1] [42])) sampleEnv := by
  refine ⟨sampleBlob_generated, samplePeersWith_contact (sampleKeys 1),
    by decide, ?_, ?_, ?_⟩
  · have hcounter : findCounter (chatRecords (samplePeersWith (sampleKeys 1)
        exhaustedDb) ((sampleKeys 1).id .transparent)) = .ok 0 := by
      rw [samplePeersWith_records]
      exact exhaustedDb_findCounter
    unfold SampleBlobAppended
    rw [sampleBlob_records (samplePeersWith_contact (sampleKeys 1)
      exhaustedDb) hcounter, samplePeersWith_records]
    exact exhausted_insert_not_appended sampleRecord
  · apply sampleBlob_not_appended_of_error
      (samplePeersWith_contact (sampleKeys 1) Tree.empty) rfl
    intro storageKey msg
    rfl
  · apply sampleBlob_not_appended_of_error
      (samplePeersWith_contact (sampleKeys 1) _) rfl
    intro storageKey msg
    have hcounter : findCounter (Tree.empty.insert [1] [42]) =
        .error .corruptedFile := rfl
    rw [samplePeersWith_records]
    simp [insertedRecord, hcounter]

end SechatClient
