import SechatClient.Primitives

/-!
# The pure part of the `crypto` crate

Key derivation, the chat cipher with its counter nonces, the storage cipher
and the blob envelope.  Randomness which the source draws from the operating
system (nonces, ephemeral secrets) is an argument.  File access is in
`PeerStore`.
-/

namespace SechatClient

open ByteStrings

inductive CryptoErrors where
  | cryptographicError
  | notADirectory (path : String)
  | permissionDenied
  | badPermission
  | notFound (name : String)
  | other (ioError : String)
  | corruptedFile
  deriving DecidableEq, Repr

def CryptoErrors.display : CryptoErrors → String
  | .cryptographicError => "Cryptographic error"
  | .notADirectory s => "Not a directory: " ++ s
  | .permissionDenied => "Permission denied"
  | .badPermission => "Bad file permission"
  | .notFound s => "Not found: " ++ s
  | .other e => "IO error: " ++ e
  | .corruptedFile => "Corrupted file"

/-- `Nonce::from_slice`, which panics on any other length. -/
def nonceFromSlice (bytes : Bytes) : Option Nonce :=
  if bytes.length = 12 then some (arrayOfBytes 12 bytes) else none

/-- `<KeyType>::try_from` on a slice. -/
def keyTryFrom (bytes : Bytes) : Except CryptoErrors KeyType :=
  if bytes.length = 32 then .ok (arrayOfBytes 32 bytes)
  else .error .corruptedFile

inductive Author where
  | you
  | peer
  deriving DecidableEq, Repr

structure Message where
  author : Author
  text : String
  timestamp : Int64
  deriving DecidableEq

structure PeerPublic where
  publicKey : KeyType
  verifying : KeyType
  deriving DecidableEq

structure Keys where
  x25519Priv : KeyType
  x25519Pub : KeyType
  ed25519Signing : KeyType
  ed25519Verifying : KeyType

variable (P : Primitives)

def identityHash (x25519Pub verifying : KeyType) : KeyType :=
  P.sha256 (x25519Pub.toList ++ verifying.toList)

def PeerPublic.hash (peer : PeerPublic) : KeyType :=
  identityHash P peer.publicKey peer.verifying

def Keys.publicPart (keys : Keys) : PeerPublic :=
  ⟨keys.x25519Pub, keys.ed25519Verifying⟩

def Keys.id (keys : Keys) : KeyType := keys.publicPart.hash P

structure Keys.Genuine (keys : Keys) : Prop where
  x25519 : keys.x25519Pub = P.x25519Public keys.x25519Priv
  ed25519 : keys.ed25519Verifying = P.verifyingKey keys.ed25519Signing

/-! ## Signatures -/

def signChallenge (signing : KeyType) (bytes : Bytes) : Vector UInt8 64 :=
  P.sign signing bytes

/-- `Signature::from_slice` followed by `verify_challenge`: a signature of
another length than 64 bytes is rejected before any check. -/
def verifySlice (verifying : KeyType) (bits signature : Bytes) : Bool :=
  if signature.length = 64 then
    P.verify verifying bits (arrayOfBytes 64 signature)
  else
    false

theorem verifySlice_toList
    (verifying : KeyType) (bits : Bytes) (signature : Vector UInt8 64) :
    verifySlice P verifying bits signature.toList =
      P.verify verifying bits signature := by
  simp [verifySlice]

/-! ## The chat cipher -/

/-- The message counter, little-endian, XORed into bytes 4..12 of the base. -/
def nonceForMessage (base : Nonce) (counter : UInt64) : Nonce :=
  Vector.ofFn fun i =>
    if 4 ≤ i.val then
      base[i] ^^^ (toLeBytes counter).getD (i.val - 4) 0
    else
      base[i]

def messageKey (sessionkey : KeyType) : KeyType :=
  P.hkdf sessionkey.toList (utf8 "message") 32

def baseNonce (sessionkey : KeyType) : Nonce :=
  P.hkdf sessionkey.toList (utf8 "nonce") 12

/-- The message key and the nonce under which one message is sealed. -/
def chatCipherInputs (sessionkey : KeyType) (counter : UInt64) :
    KeyType × Nonce :=
  (messageKey P sessionkey, nonceForMessage (baseNonce P sessionkey) counter)

def encryptMessageForChat (message : String) (sessionkey : KeyType)
    (counter : UInt64) : Bytes :=
  P.aeadEncrypt (chatCipherInputs P sessionkey counter).1
    (chatCipherInputs P sessionkey counter).2 (utf8 message)

def decryptMessageFromChat (message : Bytes) (sessionkey : KeyType)
    (counter : UInt64) : Except CryptoErrors String :=
  match P.aeadDecrypt (chatCipherInputs P sessionkey counter).1
      (chatCipherInputs P sessionkey counter).2 message with
  | none => .error .cryptographicError
  | some decrypted =>
      match fromUtf8 decrypted with
      | none => .error .corruptedFile
      | some text => .ok text

theorem decryptMessageFromChat_encrypt
    (haead : P.AeadCorrect) (message : String) (sessionkey : KeyType)
    (counter : UInt64) :
    decryptMessageFromChat P
        (encryptMessageForChat P message sessionkey counter)
        sessionkey counter = .ok message := by
  unfold decryptMessageFromChat encryptMessageForChat
  rw [haead]
  simp

/-! ## Derived keys -/

def loadStorageKey (peerPub privkey : KeyType) : KeyType :=
  P.hkdf (P.diffieHellman privkey peerPub).toList (utf8 "storage") 32

theorem loadStorageKey_comm
    (hdh : P.DhCommutes) (left right : KeyType) :
    loadStorageKey P (P.x25519Public left) right =
      loadStorageKey P (P.x25519Public right) left := by
  unfold loadStorageKey
  rw [hdh right left]

def deriveSessionKey (ephemeralPriv peerEphemeralPub : KeyType) : KeyType :=
  P.hkdf (P.diffieHellman ephemeralPriv peerEphemeralPub).toList
    (utf8 "session") 32

theorem deriveSessionKey_comm
    (hdh : P.DhCommutes) (left right : KeyType) :
    deriveSessionKey P left (P.x25519Public right) =
      deriveSessionKey P right (P.x25519Public left) := by
  unfold deriveSessionKey
  rw [hdh left right]

def deriveDirectionalKey (sessionKey : KeyType) (label : Bytes) : KeyType :=
  P.hkdf sessionKey.toList label 32

/-- The presence token of the 15-second window which holds the timestamp. -/
def presenceToken (privkey peerPub : KeyType) (timestamp : Int64) : KeyType :=
  let presenceKey :=
    P.hkdf (P.diffieHellman privkey peerPub).toList (utf8 "presence") 32
  P.hmacSha256 presenceKey (i64ToLeBytes ((timestamp / 15) * 15))

/-! ## The storage cipher -/

def encryptMessageStored (codec : Codec Message) (msg : Message)
    (storagekey : KeyType) (nonce : Nonce) : Except CryptoErrors Bytes :=
  match codec.toVec msg with
  | .error _ => .error .cryptographicError
  | .ok bytes =>
      .ok (nonce.toList ++ P.aeadEncrypt storagekey nonce bytes)

def decryptMessageStored (data : Bytes) (storagekey : KeyType) :
    Except CryptoErrors Bytes :=
  if data.length < 12 then
    .error .corruptedFile
  else
    match P.aeadDecrypt storagekey (arrayOfBytes 12 (data.take 12))
        (data.drop 12) with
    | none => .error .cryptographicError
    | some plainbytes => .ok plainbytes

theorem decryptMessageStored_append
    (storagekey : KeyType) (nonce : Nonce) (ciphertext : Bytes) :
    decryptMessageStored P (nonce.toList ++ ciphertext) storagekey =
      match P.aeadDecrypt storagekey nonce ciphertext with
      | none => .error .cryptographicError
      | some plainbytes => .ok plainbytes := by
  have hlength : ¬ (nonce.toList ++ ciphertext).length < 12 := by simp
  have htake : (nonce.toList ++ ciphertext).take 12 = nonce.toList :=
    List.take_left' (by simp)
  have hdrop : (nonce.toList ++ ciphertext).drop 12 = ciphertext :=
    List.drop_left' (by simp)
  unfold decryptMessageStored
  rw [if_neg hlength, htake, hdrop, arrayOfBytes_toList]

/-! ## The blob envelope -/

def blobKey (shared : KeyType) : KeyType :=
  P.hkdf shared.toList (utf8 "blob") 32

/-- Layout: ephemeral public key, nonce, ciphertext. -/
def encryptBlob (recipientPub : KeyType) (plaintext : Bytes)
    (ephSecret : KeyType) (nonce : Nonce) : Bytes :=
  (P.x25519Public ephSecret).toList ++
    (nonce.toList ++
      P.aeadEncrypt (blobKey P (P.diffieHellman ephSecret recipientPub))
        nonce plaintext)

def decryptBlob (blob : Bytes) (privkey : KeyType) :
    Except CryptoErrors Bytes :=
  if blob.length < 44 then
    .error .corruptedFile
  else
    let ephPub : KeyType := arrayOfBytes 32 (blob.take 32)
    let nonce : Nonce := arrayOfBytes 12 ((blob.drop 32).take 12)
    match P.aeadDecrypt (blobKey P (P.diffieHellman privkey ephPub)) nonce
        (blob.drop 44) with
    | none => .error .cryptographicError
    | some decrypted => .ok decrypted

theorem decryptBlob_encryptBlob
    (hdh : P.DhCommutes) (haead : P.AeadCorrect)
    (privkey : KeyType) (plaintext : Bytes) (ephSecret : KeyType)
    (nonce : Nonce) :
    decryptBlob P
        (encryptBlob P (P.x25519Public privkey) plaintext ephSecret nonce)
        privkey = .ok plaintext := by
  let body := P.aeadEncrypt
    (blobKey P (P.diffieHellman ephSecret (P.x25519Public privkey)))
    nonce plaintext
  have hblob :
      encryptBlob P (P.x25519Public privkey) plaintext ephSecret nonce =
        (P.x25519Public ephSecret).toList ++ (nonce.toList ++ body) := rfl
  have hlength :
      ¬ ((P.x25519Public ephSecret).toList ++
        (nonce.toList ++ body)).length < 44 := by
    simp only [List.length_append, Vector.length_toList]
    omega
  have hdrop :
      ((P.x25519Public ephSecret).toList ++ (nonce.toList ++ body)).drop 44 =
        body := by
    rw [← List.append_assoc, List.drop_left' (by simp)]
  rw [hblob]
  unfold decryptBlob
  rw [if_neg hlength, List.take_left' (by simp), List.drop_left' (by simp),
    List.take_left' (by simp), hdrop]
  simp only [arrayOfBytes_toList]
  rw [hdh privkey ephSecret, haead]

/-! ## Sample values of the transparent instance -/

def transparentMessages : Codec Message :=
  Codec.ofFields
    (fun msg =>
      [if msg.author = .you then [0] else [1], utf8 msg.text,
        i64ToLeBytes msg.timestamp])
    (fun
      | [author, text, timestamp] =>
          (fromUtf8 text).map fun decoded =>
            ⟨if author = [0] then .you else .peer, decoded,
              i64OfLeBytes timestamp⟩
      | _ => none)

theorem transparentMessages_roundTrip : transparentMessages.RoundTrip := by
  apply Codec.ofFields_roundTrip
  rintro ⟨author, text, timestamp⟩
  cases author <;> simp

def sampleKeys (seed : UInt8) : Keys where
  x25519Priv := Vector.replicate 32 seed
  x25519Pub := Vector.replicate 32 seed
  ed25519Signing := Vector.replicate 32 (seed + 100)
  ed25519Verifying := Vector.replicate 32 (seed + 100)

theorem sampleKeys_genuine (seed : UInt8) :
    (sampleKeys seed).Genuine Primitives.transparent := ⟨rfl, rfl⟩

end SechatClient
