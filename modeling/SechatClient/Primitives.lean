import SechatClient.ByteStrings

/-!
# Third-party primitives

The cryptographic crates and the MessagePack serialiser are not part of the
repository.  They enter the model as parameters: `Primitives` collects the
functions which `crypto` calls, `Codec` one serialised type.  What the client
relies on is stated as separate propositions, so that each result names the
ones it uses.
-/

namespace SechatClient

open ByteStrings

/-- `[u8; 32]`, the source's `KeyType`: keys, identity hashes and tokens. -/
abbrev KeyType := Vector UInt8 32

abbrev Nonce := Vector UInt8 12

/-- The fixed-size array read from the front of a slice that is long enough. -/
def arrayOfBytes (len : ℕ) (bytes : Bytes) : Vector UInt8 len :=
  Vector.ofFn fun i => bytes.getD i.val 0

@[simp] theorem arrayOfBytes_toList {len : ℕ} (array : Vector UInt8 len) :
    arrayOfBytes len array.toList = array := by
  apply Vector.ext
  intro i hi
  simp [arrayOfBytes]

theorem toList_arrayOfBytes {len : ℕ} {bytes : Bytes}
    (hlength : bytes.length = len) :
    (arrayOfBytes len bytes).toList = bytes := by
  subst hlength
  apply List.ext_getElem
  · simp
  · intro i hleft hright
    simp [arrayOfBytes]

/-- The functions of the third-party cryptographic crates.  HKDF is total:
expanding to the 12 or 32 bytes the client asks for is infallible. -/
structure Primitives where
  /-- `PublicKey::from(&StaticSecret)` -/
  x25519Public : KeyType → KeyType
  diffieHellman : KeyType → KeyType → KeyType
  /-- `SigningKey::verifying_key` -/
  verifyingKey : KeyType → KeyType
  /-- whether `VerifyingKey::from_bytes` accepts the bytes -/
  isVerifyingKey : KeyType → Bool
  sign : KeyType → Bytes → Vector UInt8 64
  verify : KeyType → Bytes → Vector UInt8 64 → Bool
  sha256 : Bytes → KeyType
  /-- `Hkdf::<Sha256>::new(None, ikm).expand(info, ..)` -/
  hkdf : Bytes → Bytes → (len : ℕ) → Vector UInt8 len
  hmacSha256 : KeyType → Bytes → KeyType
  /-- `ChaCha20Poly1305::encrypt`, with the tag appended -/
  aeadEncrypt : KeyType → Nonce → Bytes → Bytes
  aeadDecrypt : KeyType → Nonce → Bytes → Option Bytes

namespace Primitives

variable (P : Primitives)

def SignatureCorrect : Prop :=
  ∀ signing message,
    P.verify (P.verifyingKey signing) message (P.sign signing message) = true

def DhCommutes : Prop :=
  ∀ left right,
    P.diffieHellman left (P.x25519Public right) =
      P.diffieHellman right (P.x25519Public left)

def AeadCorrect : Prop :=
  ∀ key nonce plaintext,
    P.aeadDecrypt key nonce (P.aeadEncrypt key nonce plaintext) =
      some plaintext

/-- The tag takes 16 bytes. -/
def AeadOverhead : Prop :=
  (∀ key nonce plaintext,
    (P.aeadEncrypt key nonce plaintext).length = plaintext.length + 16) ∧
  ∀ key nonce ciphertext plaintext,
    P.aeadDecrypt key nonce ciphertext = some plaintext →
      ciphertext.length = plaintext.length + 16

/-- What is encrypted under one of the keys opens under none of the others. -/
def AeadAuthenticAmong (keys : List KeyType) : Prop :=
  ∀ key ∈ keys, ∀ other ∈ keys, key ≠ other →
    ∀ nonce nonce' plaintext,
      P.aeadDecrypt other nonce' (P.aeadEncrypt key nonce plaintext) = none

end Primitives

/-- `rmp_serde::to_vec` and `rmp_serde::from_slice` at one type; an error
is its message. -/
structure Codec (α : Type) where
  toVec : α → Except String Bytes
  fromSlice : Bytes → Except String α

/-- Every value serialises, and reading it back gives the value. -/
def Codec.RoundTrip {α : Type} (codec : Codec α) : Prop :=
  ∀ value, ∃ bytes,
    codec.toVec value = .ok bytes ∧ codec.fromSlice bytes = .ok value

theorem Codec.RoundTrip.fromSlice_toVec
    {α : Type} {codec : Codec α} (hround : codec.RoundTrip)
    {value : α} {bytes : Bytes} (hbytes : codec.toVec value = .ok bytes) :
    codec.fromSlice bytes = .ok value := by
  obtain ⟨other, hvec, hslice⟩ := hround value
  rw [hbytes] at hvec
  cases hvec
  exact hslice

def Codec.bytesOf {α : Type} (codec : Codec α) (value : α) : Bytes :=
  (codec.toVec value).toOption.getD []

theorem Codec.RoundTrip.toVec_eq
    {α : Type} {codec : Codec α} (hround : codec.RoundTrip) (value : α) :
    codec.toVec value = .ok (codec.bytesOf value) := by
  obtain ⟨bytes, hvec, _⟩ := hround value
  simp [Codec.bytesOf, hvec, Except.toOption]

/-- A serialised value that was cut off does not read as a value. -/
def Codec.RejectsTruncated {α : Type} (codec : Codec α) : Prop :=
  ∀ value bytes len, codec.toVec value = .ok bytes → len < bytes.length →
    (codec.fromSlice (bytes.take len)).toOption = none

/-! ## A transparent instance

A symbolic stand-in for the crates on which every assumption above holds: a
ciphertext carries its key and nonce in the clear, a signature is the
verifying key with a digest of the message. -/

def transparentDigest (bytes : Bytes) : KeyType :=
  Vector.ofFn fun i =>
    bytes.getD i.val 0 + 3 * bytes.getD (i.val + 32) 0 +
      7 * bytes.getD (i.val + 64) 0 + UInt8.ofNat bytes.length

def transparentSign (key : KeyType) (message : Bytes) : Vector UInt8 64 :=
  key ++ transparentDigest message

def transparentEncrypt (key : KeyType) (nonce : Nonce) (plaintext : Bytes) :
    Bytes :=
  key.toList ++ (nonce.toList ++ plaintext)

def transparentDecrypt (key : KeyType) (nonce : Nonce) (ciphertext : Bytes) :
    Option Bytes :=
  if ciphertext.take 44 = key.toList ++ nonce.toList then
    some (ciphertext.drop 44)
  else
    none

def Primitives.transparent : Primitives where
  x25519Public := id
  diffieHellman := fun secret point => Vector.ofFn fun i => secret[i] + point[i]
  verifyingKey := id
  isVerifyingKey := fun _ => true
  sign := transparentSign
  verify := fun key message signature => signature = transparentSign key message
  sha256 := transparentDigest
  hkdf := fun ikm info len =>
    Vector.ofFn fun i =>
      ikm.getD i.val 0 + info.getD (i.val % info.length) 0
  hmacSha256 := fun key message => transparentDigest (key.toList ++ message)
  aeadEncrypt := transparentEncrypt
  aeadDecrypt := transparentDecrypt

theorem transparent_signatureCorrect :
    Primitives.transparent.SignatureCorrect := by
  intro signing message
  simp [Primitives.transparent]

theorem transparent_dhCommutes : Primitives.transparent.DhCommutes := by
  intro left right
  apply Vector.ext
  intro i hi
  simp [Primitives.transparent, UInt8.add_comm]

theorem transparent_take_header
    (key : KeyType) (nonce : Nonce) (plaintext : Bytes) :
    (transparentEncrypt key nonce plaintext).take 44 =
      key.toList ++ nonce.toList := by
  unfold transparentEncrypt
  rw [← List.append_assoc, List.take_left' (by simp)]

theorem transparent_aeadCorrect : Primitives.transparent.AeadCorrect := by
  intro key nonce plaintext
  have hdrop : (transparentEncrypt key nonce plaintext).drop 44 =
      plaintext := by
    unfold transparentEncrypt
    rw [← List.append_assoc, List.drop_left' (by simp)]
  change transparentDecrypt key nonce (transparentEncrypt key nonce plaintext) =
    some plaintext
  unfold transparentDecrypt
  rw [if_pos (transparent_take_header key nonce plaintext), hdrop]

theorem transparent_aeadAuthenticAmong (keys : List KeyType) :
    Primitives.transparent.AeadAuthenticAmong keys := by
  intro key _ other _ hne nonce nonce' plaintext
  change transparentDecrypt other nonce'
    (transparentEncrypt key nonce plaintext) = none
  unfold transparentDecrypt
  rw [transparent_take_header, if_neg]
  intro heq
  have hkeys := (List.append_inj heq (by simp)).1
  exact hne (Vector.toList_inj.mp hkeys)

/-! ## An instance with tags of 16 bytes

Where lengths matter, the ciphertext is the plaintext followed by half of the
key. -/

def taggedEncrypt (key : KeyType) (_ : Nonce) (plaintext : Bytes) : Bytes :=
  plaintext ++ key.toList.take 16

def taggedDecrypt (key : KeyType) (_ : Nonce) (ciphertext : Bytes) :
    Option Bytes :=
  if key.toList.take 16 <:+ ciphertext then
    some (ciphertext.take (ciphertext.length - 16))
  else
    none

def Primitives.tagged : Primitives :=
  { Primitives.transparent with
    aeadEncrypt := taggedEncrypt
    aeadDecrypt := taggedDecrypt }

theorem tag_length (key : KeyType) : (key.toList.take 16).length = 16 := by
  simp

theorem tagged_aeadCorrect : Primitives.tagged.AeadCorrect := by
  intro key nonce plaintext
  change taggedDecrypt key nonce (plaintext ++ key.toList.take 16) =
    some plaintext
  unfold taggedDecrypt
  rw [if_pos (List.suffix_append _ _), List.length_append, tag_length,
    Nat.add_sub_cancel, List.take_left]

theorem tagged_aeadOverhead : Primitives.tagged.AeadOverhead := by
  constructor
  · intro key nonce plaintext
    change (plaintext ++ key.toList.take 16).length = plaintext.length + 16
    rw [List.length_append, tag_length]
  · intro key nonce ciphertext plaintext hopen
    change taggedDecrypt key nonce ciphertext = some plaintext at hopen
    unfold taggedDecrypt at hopen
    split at hopen
    next htag =>
      cases hopen
      have hlong := htag.length_le
      rw [tag_length] at hlong
      rw [List.length_take]
      omega
    next => contradiction

theorem tagged_aeadAuthenticAmong
    {keys : List KeyType}
    (htags : ∀ key ∈ keys, ∀ other ∈ keys, key ≠ other →
      key.toList.take 16 ≠ other.toList.take 16) :
    Primitives.tagged.AeadAuthenticAmong keys := by
  intro key hkey other hother hne nonce nonce' plaintext
  change taggedDecrypt other nonce' (plaintext ++ key.toList.take 16) = none
  apply if_neg
  intro hsuffix
  have hlength : (other.toList.take 16).length =
      (key.toList.take 16).length := by
    rw [tag_length, tag_length]
  have hsame := List.suffix_of_suffix_length_le hsuffix
    (List.suffix_append plaintext _) hlength.le
  exact htags key hkey other hother hne (hsame.eq_of_length hlength).symm

/-- Fields with every byte tagged by 1 and every end tagged by 0. -/
def packFields : List Bytes → Bytes
  | [] => []
  | field :: rest =>
      field.flatMap (fun byte => [1, byte]) ++ 0 :: packFields rest

theorem packFields_length (fields : List Bytes) :
    (packFields fields).length =
      (fields.map fun field => 2 * field.length + 1).sum := by
  induction fields with
  | nil => rfl
  | cons field rest ih =>
      have hflat : (field.flatMap fun byte => [1, byte]).length =
          2 * field.length := by
        rw [List.length_flatMap]
        simp [mul_comm]
      simp only [packFields, List.length_append, List.length_cons, hflat, ih,
        List.map_cons, List.sum_cons]
      omega

def unpackFields : Bytes → Option (List Bytes)
  | [] => some []
  | [tag] => if tag = 0 then some [[]] else none
  | tag :: byte :: rest =>
      if tag = 0 then
        (unpackFields (byte :: rest)).map fun fields => [] :: fields
      else
        match unpackFields rest with
        | some (field :: fields) => some ((byte :: field) :: fields)
        | _ => none

theorem unpackFields_zero_cons (rest : Bytes) :
    unpackFields (0 :: rest) =
      (unpackFields rest).map fun fields => [] :: fields := by
  cases rest with
  | nil => simp [unpackFields]
  | cons byte rest => simp [unpackFields]

theorem unpackFields_packFields (fields : List Bytes) :
    unpackFields (packFields fields) = some fields := by
  induction fields with
  | nil => simp [packFields, unpackFields]
  | cons field rest ih =>
      induction field with
      | nil => simp [packFields, unpackFields_zero_cons, ih]
      | cons byte field ihField =>
          simp only [packFields] at ihField
          simp [packFields, unpackFields, ihField]

/-- What a cut off packing reads as lacks some of the last fields. -/
theorem unpackFields_take
    {fields got : List Bytes} {len : ℕ}
    (hlen : len < (packFields fields).length)
    (hgot : unpackFields ((packFields fields).take len) = some got) :
    ∃ rest, rest ≠ [] ∧ fields = got ++ rest := by
  induction fields generalizing len got with
  | nil => simp [packFields] at hlen
  | cons field fields ih =>
      induction field generalizing len got with
      | nil =>
          cases len with
          | zero =>
              simp only [List.take_zero, unpackFields] at hgot
              cases hgot
              exact ⟨_, List.cons_ne_nil _ _, rfl⟩
          | succ len =>
              simp only [packFields, List.flatMap_nil, List.nil_append,
                List.take_succ_cons, unpackFields_zero_cons] at hgot
              obtain ⟨tail, htail, rfl⟩ := Option.map_eq_some_iff.mp hgot
              obtain ⟨rest, hne, rfl⟩ := ih (by simpa [packFields] using hlen)
                htail
              exact ⟨rest, hne, rfl⟩
      | cons byte field ihField =>
          match len with
          | 0 =>
              simp only [List.take_zero, unpackFields] at hgot
              cases hgot
              exact ⟨_, List.cons_ne_nil _ _, rfl⟩
          | 1 => simp [packFields, unpackFields] at hgot
          | len + 2 =>
              have hpack : packFields ((byte :: field) :: fields) =
                  1 :: byte :: packFields (field :: fields) := by
                simp [packFields]
              rw [hpack] at hlen hgot
              have htag : (1 : UInt8) ≠ 0 := by decide
              simp only [List.take_succ_cons, unpackFields, if_neg htag] at hgot
              split at hgot
              next head tail hread =>
                cases hgot
                obtain ⟨rest, hne, heq⟩ := ihField (by simpa using hlen) hread
                cases heq
                exact ⟨rest, hne, rfl⟩
              next => contradiction

/-- A serialiser which writes the fields of a value one after another.  It
stands for MessagePack where a result is evaluated at a concrete input. -/
def Codec.ofFields {α : Type} (toFields : α → List Bytes)
    (ofFields : List Bytes → Option α) : Codec α where
  toVec := fun value => .ok (packFields (toFields value))
  fromSlice := fun bytes =>
    match (unpackFields bytes).bind ofFields with
    | none => .error "invalid fields"
    | some value => .ok value

theorem Codec.ofFields_roundTrip
    {α : Type} {toFields : α → List Bytes} {ofFields : List Bytes → Option α}
    (hfields : ∀ value, ofFields (toFields value) = some value) :
    (Codec.ofFields toFields ofFields).RoundTrip := by
  intro value
  refine ⟨packFields (toFields value), rfl, ?_⟩
  simp [Codec.ofFields, unpackFields_packFields, hfields]

theorem Codec.ofFields_rejectsTruncated
    {α : Type} {toFields : α → List Bytes} {ofFields : List Bytes → Option α}
    (hfields : ∀ value got rest, rest ≠ [] → toFields value = got ++ rest →
      ofFields got = none) :
    (Codec.ofFields toFields ofFields).RejectsTruncated := by
  intro value bytes len hbytes hlen
  cases hbytes
  have hnone : (unpackFields ((packFields (toFields value)).take len)).bind
      ofFields = none := by
    cases hgot : unpackFields ((packFields (toFields value)).take len) with
    | none => rfl
    | some got =>
        obtain ⟨rest, hne, heq⟩ := unpackFields_take hlen hgot
        exact hfields value got rest hne heq
  simp [Codec.ofFields, hnone, Except.toOption]

end SechatClient
