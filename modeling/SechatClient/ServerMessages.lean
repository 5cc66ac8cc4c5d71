import SechatClient.CryptoCore

/-!
# Messages between client and relay server

The data types of the `serverclient` crate and the functions which build the
client's messages.  Clock readings and fresh randomness are arguments.
-/

namespace SechatClient

open ByteStrings

inductive ClientErrors where
  | connectionFailed (reason : String)
  | connectionClosed
  | connectionTimeout
  | writeFailed (reason : String)
  | readFailed (reason : String)
  | serializationFailed (reason : String)
  | deserializationFailed (reason : String)
  | invalidMessageFormat
  | authFailed (reason : String)
  | authTimeout
  | unexpectedHandshakeMessage
  | invalidSignature
  | invalidTimestamp
  | replayDetected
  | unknownPeer
  | invalidPublicKey
  | decryptionFailed
  | encryptionFailed
  | keyDerivationFailed
  | peerLoadFailed (reason : String)
  | peerSaveFailed (reason : String)
  | chatStorageFailed (reason : String)
  | channelClosed
  | serverError (reason : String)
  deriving DecidableEq, Repr

def ClientErrors.display : ClientErrors → String
  | .connectionFailed s => "connection failed: " ++ s
  | .connectionClosed => "connection closed"
  | .connectionTimeout => "connection timeout"
  | .writeFailed s => "write failed: " ++ s
  | .readFailed s => "read failed: " ++ s
  | .serializationFailed s => "serialization failed: " ++ s
  | .deserializationFailed s => "deserialization failed: " ++ s
  | .invalidMessageFormat => "invalid message format"
  | .authFailed s => "auth failed: " ++ s
  | .authTimeout => "auth timeout"
  | .unexpectedHandshakeMessage => "unexpected handshake message"
  | .invalidSignature => "invalid signature"
  | .invalidTimestamp => "invalid timestamp"
  | .replayDetected => "replay attack detected"
  | .unknownPeer => "unknown peer"
  | .invalidPublicKey => "invalid public key"
  | .decryptionFailed => "decryption failed"
  | .encryptionFailed => "encryption failed"
  | .keyDerivationFailed => "key derivation failed"
  | .peerLoadFailed s => "peer load failed: " ++ s
  | .peerSaveFailed s => "peer save failed: " ++ s
  | .chatStorageFailed s => "chat storage failed: " ++ s
  | .channelClosed => "internal channel closed"
  | .serverError s => "server reported error: " ++ s

inductive RequestDeniedReason where
  | peerDeclined
  | timeout
  deriving DecidableEq, Repr

inductive ClientMessage where
  | auth (pubKey verif : KeyType) (signature : Bytes)
  | announce (token : KeyType) (ipPort : String)
  | unannounce (token : KeyType)
  | sendBlob (recipientHash : KeyType) (blob : Bytes)
  | purge (hashPubkey : KeyType)
  | ackBlob (blobId : String)
  | lookupPeer (token : KeyType)
  | requestHolePunch (token : KeyType)
  | requestDenied (token : KeyType)
  | requestAccepted (token : KeyType)
  | relayData (recipientHash : KeyType) (payload : Bytes)
  deriving DecidableEq

inductive ServerMessage where
  | authOk (observedAddress : String)
  | authFailed (reason : String)
  | pendingBlob (blobId : String) (blob : Bytes) (timestamp : Int64)
  | peerOnline (hash : KeyType) (ipPort : String)
  | peerOffline (hash : KeyType)
  | punchHole (token peerHash : KeyType) (ipPort : String)
      (punchtimestamp : Int64)
  | error (reason : String)
  | pendingBlobsEnd
  | requestHolePunch (pubKey token : KeyType)
  | requestDenied (token pubKey : KeyType) (reason : RequestDeniedReason)
  | relayData (senderHash : KeyType) (payload : Bytes)
  deriving DecidableEq

inductive ServerEvent where
  | authenticated (observedAddress : String)
  | peerOnline (hash : KeyType) (ipPort : String)
  | peerOffline (hash : KeyType)
  | punchHole (token peerHash : KeyType) (ipPort : String)
      (punchtimestamp : Int64)
  | holePunchDenied (peer : KeyType) (reason : String)
  | blobStored (senderHash : KeyType)
  | relayData (senderHash : KeyType) (payload : Bytes)
  | disconnected
  deriving DecidableEq

structure ClientToServer where
  payload : ClientMessage
  timestamp : Int64
  deriving DecidableEq

/-- `ClientToServer::new`: the given timestamp, else the clock. -/
def ClientToServer.new (payload : ClientMessage) (timestamp : Option Int64)
    (now : Int64) : ClientToServer :=
  ⟨payload, timestamp.getD now⟩

inductive BlobPayload where
  | offlineMessage (senderPubHash : KeyType) (timestamp : Int64)
      (ciphertext signature : Bytes)
  | purge (senderPubHash : KeyType) (signature : Bytes) (timestamp : Int64)
  deriving DecidableEq

/-! ## Signed byte strings -/

def authDataToSign (pubKey verif : KeyType) (timestamp : Int64) : Bytes :=
  pubKey.toList ++ (verif.toList ++ i64ToLeBytes timestamp)

def offlineBytesToSign (ciphertext : Bytes) (timestamp : Int64) : Bytes :=
  utf8 "offline" ++ (ciphertext ++ i64ToLeBytes timestamp)

def purgeBytesToSign (timestamp : Int64) : Bytes :=
  utf8 "purge" ++ i64ToLeBytes timestamp

/-! ## Generators -/

variable (P : Primitives)

def generateAuthenticateMessage (pubKey verif signing : KeyType)
    (timestamp now : Int64) : ClientToServer :=
  .new (.auth pubKey verif
    (signChallenge P signing (authDataToSign pubKey verif timestamp)).toList)
    (some timestamp) now

def generateAnnounceMessage (privkey peerPub : KeyType) (timestamp : Int64)
    (ipPort : String) : ClientMessage :=
  .announce (presenceToken P privkey peerPub timestamp) ipPort

def generateUnannounceMessage (privkey peerPub : KeyType)
    (timestamp : Int64) : ClientMessage :=
  .unannounce (presenceToken P privkey peerPub timestamp)

def generatePeerHash (peer : PeerPublic) : KeyType :=
  identityHash P peer.publicKey peer.verifying

def generateBlob (recipient : PeerPublic) (message : Bytes)
    (ephSecret : KeyType) (nonce : Nonce) : ClientMessage :=
  .sendBlob (generatePeerHash P recipient)
    (encryptBlob P recipient.publicKey message ephSecret nonce)

def generateAckBlob (blobId : String) : ClientMessage := .ackBlob blobId

def generateP2pRequest (peerPub privkey : KeyType) (now : Int64) :
    ClientMessage :=
  .requestHolePunch (presenceToken P privkey peerPub now)

/-- The payload issued by `generate_purge_message`.  It names its sender but
not its recipient. -/
def purgePayload (myPub signing : KeyType) (now : Int64) : BlobPayload :=
  .purge (identityHash P myPub (P.verifyingKey signing))
    (signChallenge P signing (purgeBytesToSign now)).toList now

def generatePurgeMessage (blobs : Codec BlobPayload) (recipient : PeerPublic)
    (myPub signing ephSecret : KeyType) (nonce : Nonce) (now : Int64) :
    Except ClientErrors ClientToServer :=
  match blobs.toVec (purgePayload P myPub signing now) with
  | .error e => .error (.serializationFailed e)
  | .ok bytes =>
      .ok (.new (generateBlob P recipient bytes ephSecret nonce) none now)

def offlinePayload (messages : Codec Message) (recipient : PeerPublic)
    (myPub myPriv signing : KeyType) (text : String) (storedNonce : Nonce)
    (now : Int64) : Except ClientErrors BlobPayload :=
  match encryptMessageStored P messages ⟨.you, text, now⟩
      (loadStorageKey P recipient.publicKey myPriv) storedNonce with
  | .error _ => .error .encryptionFailed
  | .ok cipher =>
      .ok (.offlineMessage (identityHash P myPub (P.verifyingKey signing)) now
        cipher (signChallenge P signing (offlineBytesToSign cipher now)).toList)

def generateOfflineMessage (messages : Codec Message)
    (blobs : Codec BlobPayload) (recipient : PeerPublic)
    (myPub myPriv signing : KeyType) (text : String)
    (storedNonce : Nonce) (ephSecret : KeyType) (nonce : Nonce)
    (now : Int64) : Except ClientErrors ClientToServer :=
  match offlinePayload P messages recipient myPub myPriv signing text
      storedNonce now with
  | .error e => .error e
  | .ok payload =>
      match blobs.toVec payload with
      | .error e => .error (.serializationFailed e)
      | .ok bytes =>
          .ok (.new (generateBlob P recipient bytes ephSecret nonce) none now)

def transparentBlobs : Codec BlobPayload :=
  Codec.ofFields
    (fun
      | .offlineMessage hash timestamp ciphertext signature =>
          [[0], hash.toList, i64ToLeBytes timestamp, ciphertext, signature]
      | .purge hash signature timestamp =>
          [[1], hash.toList, signature, i64ToLeBytes timestamp])
    (fun
      | [_, hash, timestamp, ciphertext, signature] =>
          some (.offlineMessage (arrayOfBytes 32 hash)
            (i64OfLeBytes timestamp) ciphertext signature)
      | [_, hash, signature, timestamp] =>
          some (.purge (arrayOfBytes 32 hash) signature
            (i64OfLeBytes timestamp))
      | _ => none)

theorem transparentBlobs_roundTrip : transparentBlobs.RoundTrip := by
  apply Codec.ofFields_roundTrip
  intro payload
  cases payload <;> simp

def ClientMessage.transparentFields : ClientMessage → List Bytes
  | .auth pubKey verif signature =>
      [[0], pubKey.toList, verif.toList, signature]
  | .announce token ipPort => [[1], token.toList, utf8 ipPort]
  | .unannounce token => [[2], token.toList]
  | .sendBlob recipientHash blob => [[3], recipientHash.toList, blob]
  | .purge hashPubkey => [[4], hashPubkey.toList]
  | .ackBlob blobId => [[5], utf8 blobId]
  | .lookupPeer token => [[6], token.toList]
  | .requestHolePunch token => [[7], token.toList]
  | .requestDenied token => [[8], token.toList]
  | .requestAccepted token => [[9], token.toList]
  | .relayData recipientHash payload => [[10], recipientHash.toList, payload]

def ClientMessage.ofTransparentFields : List Bytes → Option ClientMessage
  | [[0], pubKey, verif, signature] =>
      some (.auth (arrayOfBytes 32 pubKey) (arrayOfBytes 32 verif) signature)
  | [[1], token, ipPort] =>
      (fromUtf8 ipPort).map (.announce (arrayOfBytes 32 token))
  | [[2], token] => some (.unannounce (arrayOfBytes 32 token))
  | [[3], recipientHash, blob] =>
      some (.sendBlob (arrayOfBytes 32 recipientHash) blob)
  | [[4], hashPubkey] => some (.purge (arrayOfBytes 32 hashPubkey))
  | [[5], blobId] => (fromUtf8 blobId).map .ackBlob
  | [[6], token] => some (.lookupPeer (arrayOfBytes 32 token))
  | [[7], token] => some (.requestHolePunch (arrayOfBytes 32 token))
  | [[8], token] => some (.requestDenied (arrayOfBytes 32 token))
  | [[9], token] => some (.requestAccepted (arrayOfBytes 32 token))
  | [[10], recipientHash, payload] =>
      some (.relayData (arrayOfBytes 32 recipientHash) payload)
  | _ => none

def transparentWire : Codec ClientToServer :=
  Codec.ofFields
    (fun msg => i64ToLeBytes msg.timestamp :: msg.payload.transparentFields)
    (fun
      | timestamp :: payload =>
          (ClientMessage.ofTransparentFields payload).map fun decoded =>
            ⟨decoded, i64OfLeBytes timestamp⟩
      | _ => none)

theorem transparentWire_roundTrip : transparentWire.RoundTrip := by
  apply Codec.ofFields_roundTrip
  rintro ⟨payload, timestamp⟩
  cases payload <;>
    simp [ClientMessage.transparentFields, ClientMessage.ofTransparentFields]

end SechatClient
