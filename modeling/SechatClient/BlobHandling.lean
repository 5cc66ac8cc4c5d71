import SechatClient.PeerStore
import SechatClient.ServerMessages

/-!
# Handling of offline blobs

`process_blob` opens the envelope and `handle_blob` checks the payload and
changes the chat store.  The checks come before any change and are separate
definitions here.  The result records the store, and either an error or the
event which `handle_blob` sends last.
-/

namespace SechatClient

open ByteStrings OrderedStore

/-- What one call reads from outside: the clock, whether another handle on
the sender's database is open, and the nonce drawn for the stored record. -/
structure BlobEnv where
  now : Int64
  locked : Bool
  nonce : Nonce

structure BlobResult where
  peers : PeersDir
  outcome : Except ClientErrors (Option ServerEvent)

def BlobResult.event (result : BlobResult) : Option ServerEvent :=
  match result.outcome with
  | .ok event => event
  | .error _ => none

def offlineBytesToVerify (ciphertext : Bytes) (timestamp : Int64) : Bytes :=
  utf8 "offline" ++ (ciphertext ++ i64ToLeBytes timestamp)

def purgeBytesToVerify (timestamp : Int64) : Bytes :=
  utf8 "purge" ++ i64ToLeBytes timestamp

theorem offlineBytesToVerify_eq (ciphertext : Bytes) (timestamp : Int64) :
    offlineBytesToVerify ciphertext timestamp =
      offlineBytesToSign ciphertext timestamp := rfl

theorem purgeBytesToVerify_eq (timestamp : Int64) :
    purgeBytesToVerify timestamp = purgeBytesToSign timestamp := rfl

/-- The age check of both payload kinds; the 64-bit arithmetic wraps. -/
def blobIsFresh (timestamp now : Int64) : Bool :=
  decide ((now - timestamp).abs ≤ 86400 * 30)

variable (P : Primitives)

/-- The checks of the `OfflineMessage` branch, up to the message to store
and its key. -/
def checkOffline (messages : Codec Message) (peers : PeersDir)
    (myPriv : KeyType) (now : Int64) (senderPubHash : KeyType)
    (timestamp : Int64) (ciphertext signature : Bytes) :
    Except ClientErrors (KeyType × Message) :=
  if blobIsFresh timestamp now then
    match loadPeerData P peers senderPubHash with
    | .error e => .error (.peerLoadFailed e.display)
    | .ok peerData =>
        if verifySlice P peerData.verifying
            (offlineBytesToVerify ciphertext timestamp) signature then
          let storageKey := loadStorageKey P peerData.publicKey myPriv
          match decryptMessageStored P ciphertext storageKey with
          | .error _ => .error .decryptionFailed
          | .ok plaintext =>
              match messages.fromSlice plaintext with
              | .error _ => .error .invalidMessageFormat
              | .ok senderMsg =>
                  .ok (storageKey, ⟨.peer, senderMsg.text, timestamp⟩)
        else
          .error .invalidSignature
  else
    .error .replayDetected

def checkPurge (peers : PeersDir) (now : Int64) (senderPubHash : KeyType)
    (signature : Bytes) (timestamp : Int64) : Except ClientErrors Unit :=
  if blobIsFresh timestamp now then
    match loadPeerData P peers senderPubHash with
    | .error _ => .error .unknownPeer
    | .ok peerData =>
        if verifySlice P peerData.verifying (purgeBytesToVerify timestamp)
            signature then
          .ok ()
        else
          .error .invalidSignature
  else
    .error .replayDetected

/-- Open the database and insert.  A failure after the open leaves the
directories which the open created. -/
def storeInChat (messages : Codec Message) (env : BlobEnv) (peers : PeersDir)
    (id storageKey : KeyType) (msg : Message) :
    PeersDir × Except CryptoErrors Unit :=
  match loadPeerChatFile env.locked peers id with
  | .error e => (peers, .error e)
  | .ok (opened, db) =>
      match insertMessageStored P messages msg storageKey env.nonce db with
      | .error e => (opened, .error e)
      | .ok stored => (storeChatDb opened id stored, .ok ())

def handleBlob (messages : Codec Message) (peers : PeersDir)
    (myPriv : KeyType) (env : BlobEnv) : BlobPayload → BlobResult
  | .offlineMessage senderPubHash timestamp ciphertext signature =>
      match checkOffline P messages peers myPriv env.now senderPubHash
          timestamp ciphertext signature with
      | .error e => ⟨peers, .error e⟩
      | .ok (storageKey, msg) =>
          match storeInChat P messages env peers senderPubHash storageKey
              msg with
          | (after, .error e) => ⟨after, .error (.chatStorageFailed e.display)⟩
          | (after, .ok ()) => ⟨after, .ok (some (.blobStored senderPubHash))⟩
  | .purge senderPubHash signature timestamp =>
      match checkPurge P peers env.now senderPubHash signature timestamp with
      | .error e => ⟨peers, .error e⟩
      | .ok () => ⟨purgePeerChat peers senderPubHash, .ok none⟩

/-- `handle_blob` where the last operation on the files fails and changes
nothing: sled's insert, or `remove_dir_all` with the given error. -/
def handleBlobFailing (messages : Codec Message) (peers : PeersDir)
    (myPriv : KeyType) (env : BlobEnv) (reason : String) :
    BlobPayload → BlobResult
  | .offlineMessage senderPubHash timestamp ciphertext signature =>
      match checkOffline P messages peers myPriv env.now senderPubHash
          timestamp ciphertext signature with
      | .error e => ⟨peers, .error e⟩
      | .ok (storageKey, msg) =>
          match loadPeerChatFile env.locked peers senderPubHash with
          | .error e => ⟨peers, .error (.chatStorageFailed e.display)⟩
          | .ok (opened, db) =>
              match insertMessageStored P messages msg storageKey env.nonce
                  db with
              | .error e => ⟨opened, .error (.chatStorageFailed e.display)⟩
              | .ok _ =>
                  ⟨opened, .error
                    (.chatStorageFailed CryptoErrors.corruptedFile.display)⟩
  | .purge senderPubHash signature timestamp =>
      match checkPurge P peers env.now senderPubHash signature timestamp with
      | .error e => ⟨peers, .error e⟩
      | .ok () =>
          -- nothing is removed where there is no `chat.db`
          match chatDbOf peers senderPubHash with
          | none => ⟨peers, .ok none⟩
          | some _ =>
              ⟨peers, .error
                (.chatStorageFailed (CryptoErrors.other reason).display)⟩

def openBlob (blobs : Codec BlobPayload) (privkey : KeyType) (blob : Bytes) :
    Except ClientErrors BlobPayload :=
  match decryptBlob P blob privkey with
  | .error _ => .error .decryptionFailed
  | .ok decrypted =>
      match blobs.fromSlice decrypted with
      | .error e => .error (.deserializationFailed e)
      | .ok payload => .ok payload

def processBlob (messages : Codec Message) (blobs : Codec BlobPayload)
    (peers : PeersDir) (privkey : KeyType) (env : BlobEnv) (blob : Bytes) :
    BlobResult :=
  match openBlob P blobs privkey blob with
  | .error e => ⟨peers, .error e⟩
  | .ok payload => handleBlob P messages peers privkey env payload

def processBlobFailing (messages : Codec Message) (blobs : Codec BlobPayload)
    (peers : PeersDir) (privkey : KeyType) (env : BlobEnv) (reason : String)
    (blob : Bytes) : BlobResult :=
  match openBlob P blobs privkey blob with
  | .error e => ⟨peers, .error e⟩
  | .ok payload =>
      handleBlobFailing P messages peers privkey env reason payload

end SechatClient
