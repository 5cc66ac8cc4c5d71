import SechatClient.CryptoCore
import SechatClient.InterruptedWrites

/-!
# The identity files

`encrypt_keyfile` writes `identity.key` (salt, nonce and the two private keys
encrypted under the password) and then `identity.pub`; `read_keyfile` and
`decrypt_keyfile` read them back by literal offsets.  Whether an identity
exists is judged by `identity.key` alone, while unlocking reads both files.
-/

namespace SechatClient

open ByteStrings InterruptedWrites

/-- `hash_password_into` of the `argon2` crate, on password and salt. -/
abbrev Argon2 := Bytes → Bytes → Except String KeyType

/-- What is on disk: the two directories and the two files. -/
structure IdentityDir where
  sechatDir : Bool
  peersDir : Bool
  identityKey : Option Bytes
  identityPub : Option Bytes

inductive IoError where
  | permissionDenied
  | other (message : String)

/-- A file to its reader: an error of opening or reading it, or all of its
bytes. -/
abbrev FileView := Except IoError Bytes

def noSuchFile : IoError := .other "No such file or directory (os error 2)"

def viewFile : Option Bytes → FileView
  | none => .error noSuchFile
  | some content => .ok content

structure FileData where
  salt : Bytes
  nonce : Bytes
  ciphertext : Bytes
  pubkey : Bytes

/-! ## Writing -/

section Writing

variable (P : Primitives) (argon2 : Argon2)

/-- The bytes of `identity.key`. -/
def keyfileBytes (passwdplain : String) (x25519Priv ed25519Signing : KeyType)
    (salt : KeyType) (nonce : Nonce) : Except String Bytes :=
  match argon2 (utf8 passwdplain) salt.toList with
  | .error e => .error ("Argon2 error: " ++ e)
  | .ok derivedFilekey =>
      .ok (salt.toList ++ (nonce.toList ++
        P.aeadEncrypt derivedFilekey nonce
          (x25519Priv.toList ++ ed25519Signing.toList)))

def appendKey (bytes : Bytes) (disk : IdentityDir) : IdentityDir :=
  { disk with identityKey := disk.identityKey.map (· ++ bytes) }

def appendPub (bytes : Bytes) (disk : IdentityDir) : IdentityDir :=
  { disk with identityPub := disk.identityPub.map (· ++ bytes) }

/-- The steps 0 to 7 of `encrypt_keyfile` on the file system: two directories,
then open, write and flush for each file. -/
def keyfileScript (writeable pubBytes : Bytes) : List (Action IdentityDir) :=
  [.whole fun disk => { disk with sechatDir := true },
    .whole fun disk => { disk with peersDir := true },
    .whole fun disk => { disk with identityKey := some [] },
    .writeAll appendKey writeable,
    .flush,
    .whole fun disk => { disk with identityPub := some [] },
    .writeAll appendPub pubBytes,
    .flush]

def encryptKeyfile (passwdplain : String)
    (x25519Priv x25519Pub ed25519Signing : KeyType) (salt : KeyType)
    (nonce : Nonce) (fault : Option (Fault String)) (disk : IdentityDir) :
    IdentityDir × Except String Unit :=
  match keyfileBytes P argon2 passwdplain x25519Priv ed25519Signing salt
      nonce with
  | .error e => (disk, .error e)
  | .ok writeable =>
      perform
        (keyfileScript writeable
          (x25519Pub.toList ++ (P.verifyingKey ed25519Signing).toList))
        fault disk

/-- The keys of two private keys. -/
def keysOf (x25519Priv ed25519Signing : KeyType) : Keys where
  x25519Priv := x25519Priv
  x25519Pub := P.x25519Public x25519Priv
  ed25519Signing := ed25519Signing
  ed25519Verifying := P.verifyingKey ed25519Signing

/-- `create_identity` with the private keys it generates. -/
def createIdentity (password : String)
    (x25519Priv ed25519Signing : KeyType) (salt : KeyType) (nonce : Nonce)
    (fault : Option (Fault String)) (disk : IdentityDir) :
    IdentityDir × Except String Keys :=
  let written := encryptKeyfile P argon2 password x25519Priv
    (P.x25519Public x25519Priv) ed25519Signing salt nonce fault disk
  match written.2 with
  | .error e => (written.1, .error ("failed to write identity: " ++ e))
  | .ok () => (written.1, .ok (keysOf P x25519Priv ed25519Signing))

end Writing

/-! ## Reading -/

section Reading

def readFileToBuffer (file : FileView) (sizeinbytes : ℕ) :
    Except CryptoErrors Bytes :=
  match file with
  | .error .permissionDenied => .error .permissionDenied
  | .error (.other e) => .error (.other e)
  | .ok content =>
      if content.length < sizeinbytes then .error .corruptedFile
      else .ok (content.take sizeinbytes)

/-- `none` is a panic. -/
def readKeyfile (identityKey identityPub : FileView) :
    Option (Except CryptoErrors FileData) :=
  match readFileToBuffer identityKey 124 with
  | .error e => some (.error e)
  | .ok privkeybuf => do
      let salt ← slice privkeybuf 0 32
      let nonce ← slice privkeybuf 32 44
      let ciphertext ← slice privkeybuf 44 124
      match readFileToBuffer identityPub 64 with
      | .error e => some (.error e)
      | .ok pubkeybuf => some (.ok ⟨salt, nonce, ciphertext, pubkeybuf⟩)

variable (P : Primitives) (argon2 : Argon2)

def decryptKeyfile (password : String) (fileData : FileData) :
    Option (Except CryptoErrors Keys) :=
  match argon2 (utf8 password) fileData.salt with
  | .error _ => some (.error .cryptographicError)
  | .ok derivedFilekey => do
      let nonce ← nonceFromSlice fileData.nonce
      match P.aeadDecrypt derivedFilekey nonce fileData.ciphertext with
      | none => some (.error .permissionDenied)
      | some plaintext =>
          match keyTryFrom (← slice plaintext 0 32) with
          | .error e => some (.error e)
          | .ok x25519Priv =>
              match keyTryFrom (← slice plaintext 32 64) with
              | .error e => some (.error e)
              | .ok ed25519Signing =>
                  some (.ok (keysOf P x25519Priv ed25519Signing))

/-- The read/decrypt path on the two files. -/
def openKeyfile (password : String) (identityKey identityPub : FileView) :
    Option (Except CryptoErrors Keys) :=
  match readKeyfile identityKey identityPub with
  | none => none
  | some (.error e) => some (.error e)
  | some (.ok fileData) => decryptKeyfile P argon2 password fileData

def identityExists (disk : IdentityDir) : Bool := disk.identityKey.isSome

def unlock (password : String) (disk : IdentityDir) :
    Option (Except String Keys) :=
  match readKeyfile (viewFile disk.identityKey) (viewFile disk.identityPub) with
  | none => none
  | some (.error _) => some (.error "failed to read identity file")
  | some (.ok fileData) =>
      match decryptKeyfile P argon2 password fileData with
      | none => none
      | some (.error _) => some (.error "wrong password")
      | some (.ok keys) => some (.ok keys)

end Reading

/-! ## What the readers make of any content -/

section AnyContent

variable {P : Primitives} {argon2 : Argon2} {content : Bytes}
  {password : String} {fileData : FileData} {derivedFilekey : KeyType}

theorem readFileToBuffer_of_le
    {size : ℕ} (hsize : size ≤ content.length) :
    readFileToBuffer (.ok content) size = .ok (content.take size) :=
  if_neg (Nat.not_lt.mpr hsize)

theorem readFileToBuffer_of_lt
    {size : ℕ} (hsize : content.length < size) :
    readFileToBuffer (.ok content) size = .error .corruptedFile :=
  if_pos hsize

/-- The parts of a key file that is long enough. -/
def keyfileParts (content pubkeybuf : Bytes) : FileData where
  salt := content.take 32
  nonce := (content.drop 32).take 12
  ciphertext := (content.drop 44).take 80
  pubkey := pubkeybuf

theorem readKeyfile_of_le
    (hlong : 124 ≤ content.length) (identityPub : FileView) :
    readKeyfile (.ok content) identityPub =
      some ((readFileToBuffer identityPub 64).map (keyfileParts content)) := by
  have hlength : (content.take 124).length = 124 := by
    rw [List.length_take]
    omega
  have hsalt : slice (content.take 124) 0 32 = some (content.take 32) := by
    rw [slice_of_le (by omega) (by omega), List.drop_zero, List.take_take]
    rfl
  have hnonce : slice (content.take 124) 32 44 =
      some ((content.drop 32).take 12) := by
    rw [slice_of_le (by omega) (by omega), List.drop_take, List.take_take]
    rfl
  have hciphertext : slice (content.take 124) 44 124 =
      some ((content.drop 44).take 80) := by
    rw [slice_of_le (by omega) (by omega), List.drop_take, List.take_take]
    rfl
  simp only [readKeyfile, readFileToBuffer_of_le hlong, hsalt, hnonce,
    hciphertext, Option.bind_eq_bind, Option.bind_some]
  cases readFileToBuffer identityPub 64 <;> rfl

theorem nonceFromSlice_of_length
    {bytes : Bytes} (hlength : bytes.length = 12) :
    nonceFromSlice bytes = some (arrayOfBytes 12 bytes) := if_pos hlength

theorem keyTryFrom_of_length
    {bytes : Bytes} (hlength : bytes.length = 32) :
    keyTryFrom bytes = .ok (arrayOfBytes 32 bytes) := if_pos hlength

theorem decryptKeyfile_rejected
    (hnonce : fileData.nonce.length = 12)
    (hkey : argon2 (utf8 password) fileData.salt = .ok derivedFilekey)
    (hdecrypt : P.aeadDecrypt derivedFilekey (arrayOfBytes 12 fileData.nonce)
      fileData.ciphertext = none) :
    decryptKeyfile P argon2 password fileData =
      some (.error .permissionDenied) := by
  simp [decryptKeyfile, hkey, nonceFromSlice_of_length hnonce, hdecrypt]

theorem decryptKeyfile_opened
    (hnonce : fileData.nonce.length = 12)
    (hkey : argon2 (utf8 password) fileData.salt = .ok derivedFilekey)
    {plaintext : Bytes} (hlength : plaintext.length = 64)
    (hdecrypt : P.aeadDecrypt derivedFilekey (arrayOfBytes 12 fileData.nonce)
      fileData.ciphertext = some plaintext) :
    decryptKeyfile P argon2 password fileData =
      some (.ok (keysOf P (arrayOfBytes 32 (plaintext.take 32))
        (arrayOfBytes 32 (plaintext.drop 32)))) := by
  have hpriv : slice plaintext 0 32 = some (plaintext.take 32) := by
    rw [slice_of_le (by omega) (by omega)]
    rfl
  have hsigning : slice plaintext 32 64 = some (plaintext.drop 32) := by
    rw [← hlength, slice_to_end (by omega)]
  have htake : (plaintext.take 32).length = 32 := by
    rw [List.length_take]
    omega
  have hdrop : (plaintext.drop 32).length = 32 := by
    rw [List.length_drop]
    omega
  simp [decryptKeyfile, hkey, nonceFromSlice_of_length hnonce, hdecrypt,
    hpriv, hsigning, keyTryFrom_of_length htake, keyTryFrom_of_length hdrop]

/-- The tag length makes the two slices of the plaintext safe. -/
theorem decryptKeyfile_returns
    (hoverhead : P.AeadOverhead) (password : String)
    (hnonce : fileData.nonce.length = 12)
    (hciphertext : fileData.ciphertext.length = 80) :
    ∃ result, decryptKeyfile P argon2 password fileData = some result := by
  cases hkey : argon2 (utf8 password) fileData.salt with
  | error e => exact ⟨.error .cryptographicError, by simp [decryptKeyfile, hkey]⟩
  | ok derivedFilekey =>
      cases hdecrypt : P.aeadDecrypt derivedFilekey
          (arrayOfBytes 12 fileData.nonce) fileData.ciphertext with
      | none => exact ⟨_, decryptKeyfile_rejected hnonce hkey hdecrypt⟩
      | some plaintext =>
          have htag := hoverhead.2 _ _ _ _ hdecrypt
          exact ⟨_, decryptKeyfile_opened hnonce hkey (by omega) hdecrypt⟩

theorem readKeyfile_error_of_lt
    (hshort : content.length < 124) (identityPub : FileView) :
    readKeyfile (.ok content) identityPub =
      some (.error .corruptedFile) := by
  simp [readKeyfile, readFileToBuffer_of_lt hshort]

theorem openKeyfile_returns
    (hoverhead : P.AeadOverhead) (password : String)
    (identityKey identityPub : FileView) :
    ∃ result, openKeyfile P argon2 password identityKey identityPub =
      some result := by
  match identityKey with
  | .error .permissionDenied =>
      exact ⟨.error .permissionDenied, rfl⟩
  | .error (.other e) => exact ⟨.error (.other e), rfl⟩
  | .ok content =>
      by_cases hlong : 124 ≤ content.length
      · simp only [openKeyfile, readKeyfile_of_le hlong]
        cases readFileToBuffer identityPub 64 with
        | error e => exact ⟨.error e, rfl⟩
        | ok pubkeybuf =>
            apply decryptKeyfile_returns hoverhead password
            · simp only [keyfileParts, List.length_take, List.length_drop]
              omega
            · simp only [keyfileParts, List.length_take, List.length_drop]
              omega
      · have hshort : content.length < 124 := Nat.lt_of_not_le hlong
        simp only [openKeyfile, readKeyfile_error_of_lt hshort]
        exact ⟨_, rfl⟩

end AnyContent

/-! ## Reading back what was written -/

section ReadBack

variable {P : Primitives} {argon2 : Argon2} {passwdplain : String}
  {x25519Priv x25519Pub ed25519Signing salt derivedFilekey : KeyType}
  {nonce : Nonce}

def storedCiphertext (P : Primitives) (derivedFilekey : KeyType)
    (nonce : Nonce) (x25519Priv ed25519Signing : KeyType) : Bytes :=
  P.aeadEncrypt derivedFilekey nonce
    (x25519Priv.toList ++ ed25519Signing.toList)

def storedKeyfile (P : Primitives) (derivedFilekey salt : KeyType)
    (nonce : Nonce) (x25519Priv ed25519Signing : KeyType) : Bytes :=
  salt.toList ++ (nonce.toList ++
    storedCiphertext P derivedFilekey nonce x25519Priv ed25519Signing)

theorem storedCiphertext_length
    (hoverhead : P.AeadOverhead) (derivedFilekey : KeyType) (nonce : Nonce)
    (x25519Priv ed25519Signing : KeyType) :
    (storedCiphertext P derivedFilekey nonce x25519Priv
      ed25519Signing).length = 80 := by
  unfold storedCiphertext
  rw [hoverhead.1]
  simp

theorem keyfileBytes_eq
    (hkey : argon2 (utf8 passwdplain) salt.toList = .ok derivedFilekey) :
    keyfileBytes P argon2 passwdplain x25519Priv ed25519Signing salt nonce =
      .ok (storedKeyfile P derivedFilekey salt nonce x25519Priv
        ed25519Signing) := by
  simp [keyfileBytes, hkey, storedKeyfile, storedCiphertext]

theorem storedKeyfile_length
    (hoverhead : P.AeadOverhead) (derivedFilekey salt : KeyType)
    (nonce : Nonce) (x25519Priv ed25519Signing : KeyType) :
    (storedKeyfile P derivedFilekey salt nonce x25519Priv
      ed25519Signing).length = 124 := by
  simp [storedKeyfile, storedCiphertext_length hoverhead]

theorem keyfileParts_append
    {ciphertext : Bytes} (hlength : ciphertext.length = 80)
    (pubkeybuf : Bytes) :
    keyfileParts (salt.toList ++ (nonce.toList ++ ciphertext)) pubkeybuf =
      ⟨salt.toList, nonce.toList, ciphertext, pubkeybuf⟩ := by
  have hsalt : (salt.toList ++ (nonce.toList ++ ciphertext)).take 32 =
      salt.toList := List.take_left' (by simp)
  have hrest : (salt.toList ++ (nonce.toList ++ ciphertext)).drop 32 =
      nonce.toList ++ ciphertext := List.drop_left' (by simp)
  have hnonce : (nonce.toList ++ ciphertext).take 12 = nonce.toList :=
    List.take_left' (by simp)
  have hciphertext : (salt.toList ++ (nonce.toList ++ ciphertext)).drop 44 =
      ciphertext := by
    rw [← List.append_assoc, List.drop_left' (by simp)]
  unfold keyfileParts
  rw [hsalt, hrest, hnonce, hciphertext, List.take_of_length_le (by omega)]

theorem readKeyfile_written
    {ciphertext : Bytes} (hlength : ciphertext.length = 80)
    (identityPub : FileView) :
    readKeyfile (.ok (salt.toList ++ (nonce.toList ++ ciphertext)))
        identityPub =
      some ((readFileToBuffer identityPub 64).map fun pubkeybuf =>
        ⟨salt.toList, nonce.toList, ciphertext, pubkeybuf⟩) := by
  have hlong : 124 ≤
      (salt.toList ++ (nonce.toList ++ ciphertext)).length := by
    simp [hlength]
  rw [readKeyfile_of_le hlong]
  cases readFileToBuffer identityPub 64 with
  | error e => rfl
  | ok pubkeybuf =>
      rw [Except.map, Except.map, keyfileParts_append hlength]

theorem decryptKeyfile_written
    (haead : P.AeadCorrect)
    (hkey : argon2 (utf8 passwdplain) salt.toList = .ok derivedFilekey)
    (pubkeybuf : Bytes) :
    decryptKeyfile P argon2 passwdplain
        ⟨salt.toList, nonce.toList, storedCiphertext P derivedFilekey nonce
          x25519Priv ed25519Signing, pubkeybuf⟩ =
      some (.ok (keysOf P x25519Priv ed25519Signing)) := by
  have hlength : (x25519Priv.toList ++ ed25519Signing.toList).length = 64 := by
    simp
  have hdecrypt : P.aeadDecrypt derivedFilekey
      (arrayOfBytes 12 nonce.toList) (storedCiphertext P derivedFilekey nonce
        x25519Priv ed25519Signing) =
      some (x25519Priv.toList ++ ed25519Signing.toList) := by
    rw [arrayOfBytes_toList]
    exact haead _ _ _
  let fileData : FileData := ⟨salt.toList, nonce.toList,
    storedCiphertext P derivedFilekey nonce x25519Priv ed25519Signing,
    pubkeybuf⟩
  have hnonce : fileData.nonce.length = 12 := nonce.length_toList
  have hopened := decryptKeyfile_opened hnonce hkey hlength hdecrypt
  rwa [List.take_left' (by simp), List.drop_left' (by simp),
    arrayOfBytes_toList, arrayOfBytes_toList] at hopened

theorem decryptKeyfile_other_password
    {other : String} {otherFilekey : KeyType}
    (hother : argon2 (utf8 other) salt.toList = .ok otherFilekey)
    (hne : otherFilekey ≠ derivedFilekey)
    (hauth : P.AeadAuthenticAmong [derivedFilekey, otherFilekey])
    (pubkeybuf : Bytes) :
    decryptKeyfile P argon2 other
        ⟨salt.toList, nonce.toList, storedCiphertext P derivedFilekey nonce
          x25519Priv ed25519Signing, pubkeybuf⟩ =
      some (.error .permissionDenied) :=
  decryptKeyfile_rejected (by simp) hother
    (hauth derivedFilekey (by simp) otherFilekey (by simp) hne.symm _ _ _)

theorem perform_keyfileScript (writeable pubBytes : Bytes)
    (disk : IdentityDir) :
    perform (keyfileScript writeable pubBytes) (none : Option (Fault String))
        disk =
      (⟨true, true, some writeable, some pubBytes⟩, .ok ()) := rfl

theorem encryptKeyfile_eq
    (hkey : argon2 (utf8 passwdplain) salt.toList = .ok derivedFilekey)
    (fault : Option (Fault String)) (disk : IdentityDir) :
    encryptKeyfile P argon2 passwdplain x25519Priv x25519Pub ed25519Signing
        salt nonce fault disk =
      perform
        (keyfileScript
          (storedKeyfile P derivedFilekey salt nonce x25519Priv
            ed25519Signing)
          (x25519Pub.toList ++ (P.verifyingKey ed25519Signing).toList))
        fault disk := by
  simp only [encryptKeyfile, keyfileBytes_eq hkey]

end ReadBack

/-- The files written by `encrypt_keyfile` open under their password and give
back the private keys with the public keys that belong to them, under a
password with another file key they are refused, and whatever the two files
hold, reading them never slices out of range. -/
theorem identity_file_round_trips_and_rejects
    (P : Primitives) (argon2 : Argon2) (haead : P.AeadCorrect)
    (hoverhead : P.AeadOverhead) :
    (∀ (password : String) (x25519Priv x25519Pub ed25519Signing : KeyType)
      (salt : KeyType) (nonce : Nonce) (disk : IdentityDir)
      (derivedFilekey : KeyType),
      argon2 (utf8 password) salt.toList = .ok derivedFilekey →
      ∃ written, encryptKeyfile P argon2 password x25519Priv x25519Pub
          ed25519Signing salt nonce none disk = (written, .ok ()) ∧
        openKeyfile P argon2 password (viewFile written.identityKey)
            (viewFile written.identityPub) =
          some (.ok
            { x25519Priv := x25519Priv
              x25519Pub := P.x25519Public x25519Priv
              ed25519Signing := ed25519Signing
              ed25519Verifying := P.verifyingKey ed25519Signing }) ∧
        ∀ (other : String) (otherFilekey : KeyType),
          argon2 (utf8 other) salt.toList = .ok otherFilekey →
          otherFilekey ≠ derivedFilekey →
          P.AeadAuthenticAmong [derivedFilekey, otherFilekey] →
          openKeyfile P argon2 other (viewFile written.identityKey)
              (viewFile written.identityPub) =
            some (.error .permissionDenied)) ∧
    (∀ (password : String) (identityKey identityPub : FileView),
      ∃ result, openKeyfile P argon2 password identityKey identityPub =
        some result) := by
  refine ⟨?_, openKeyfile_returns hoverhead⟩
  intro password x25519Priv x25519Pub ed25519Signing salt nonce disk
    derivedFilekey hkey
  have hlength := storedCiphertext_length hoverhead derivedFilekey nonce
    x25519Priv ed25519Signing
  have hpub : 64 ≤
      (x25519Pub.toList ++ (P.verifyingKey ed25519Signing).toList).length := by
    simp
  rw [encryptKeyfile_eq hkey, perform_keyfileScript]
  refine ⟨_, rfl, ?_, ?_⟩
  · simp only [openKeyfile, viewFile, storedKeyfile,
      readKeyfile_written hlength, readFileToBuffer_of_le hpub, Except.map]
    exact decryptKeyfile_written haead hkey _
  · intro other otherFilekey hother hne hauth
    simp only [openKeyfile, viewFile, storedKeyfile,
      readKeyfile_written hlength, readFileToBuffer_of_le hpub, Except.map]
    exact decryptKeyfile_other_password hother hne hauth _

/-- A stand-in for Argon2 under which different passwords give different file
keys. -/
def transparentArgon2 : Argon2 := fun password salt =>
  .ok (arrayOfBytes 32 (password ++ salt))

def emptyIdentityDir : IdentityDir := ⟨false, false, none, none⟩

def sampleFilekey (password : String) : KeyType :=
  arrayOfBytes 32 (utf8 password ++ (Vector.replicate 32 7).toList)

theorem sampleFilekeys_authentic :
    Primitives.tagged.AeadAuthenticAmong
      [sampleFilekey "correct", sampleFilekey "wrong"] := by
  have htags : (sampleFilekey "correct").toList.take 16 ≠
      (sampleFilekey "wrong").toList.take 16 := by
    decide
  apply tagged_aeadAuthenticAmong
  intro key hkey other hother hne
  simp only [List.mem_cons, List.not_mem_nil, or_false] at hkey hother
  rcases hkey with rfl | rfl
  · rcases hother with rfl | rfl
    · contradiction
    · exact htags
  · rcases hother with rfl | rfl
    · exact htags.symm
    · contradiction

theorem sample_identity_file_opens :
    ∃ written, encryptKeyfile .tagged transparentArgon2 "correct"
        (sampleKeys 1).x25519Priv (sampleKeys 1).x25519Pub
        (sampleKeys 1).ed25519Signing (Vector.replicate 32 7)
        (Vector.replicate 12 5) none emptyIdentityDir = (written, .ok ()) ∧
      openKeyfile .tagged transparentArgon2 "correct"
          (viewFile written.identityKey) (viewFile written.identityPub) =
        some (.ok (sampleKeys 1)) ∧
      openKeyfile .tagged transparentArgon2 "wrong"
          (viewFile written.identityKey) (viewFile written.identityPub) =
        some (.error .permissionDenied) := by
  obtain ⟨written, hwritten, hopens, hrejects⟩ :=
    (identity_file_round_trips_and_rejects .tagged transparentArgon2
      tagged_aeadCorrect tagged_aeadOverhead).1 "correct"
      (sampleKeys 1).x25519Priv (sampleKeys 1).x25519Pub
      (sampleKeys 1).ed25519Signing (Vector.replicate 32 7)
      (Vector.replicate 12 5) emptyIdentityDir (sampleFilekey "correct") rfl
  exact ⟨written, hwritten, hopens, hrejects "wrong" (sampleFilekey "wrong")
    rfl (by decide) sampleFilekeys_authentic⟩

/-! ## Interrupted creation -/

/-- The creation breaks off before `identity.key` is opened, or after all of
its 124 bytes are written and with 64 bytes in `identity.pub`: the new ones,
or older ones while the file has not been opened. -/
def LeavesUsable (disk : IdentityDir) : Option (Fault String) → Prop
  | none => True
  | some fault =>
      fault.step ≤ 2 ∨
        (fault.step = 3 → 124 ≤ fault.part) ∧
        (fault.step ≤ 5 → 64 ≤ (disk.identityPub.getD []).length) ∧
        (fault.step = 6 → 64 ≤ fault.part)

section Interrupted

variable {P : Primitives} {argon2 : Argon2} {password : String}
  {x25519Priv ed25519Signing salt derivedFilekey : KeyType} {nonce : Nonce}

theorem unlock_written
    (haead : P.AeadCorrect) (hoverhead : P.AeadOverhead)
    (hkey : argon2 (utf8 password) salt.toList = .ok derivedFilekey)
    (sechatDir peersDir : Bool) {pub : Bytes} (hpub : 64 ≤ pub.length) :
    unlock P argon2 password ⟨sechatDir, peersDir,
        some (storedKeyfile P derivedFilekey salt nonce x25519Priv
          ed25519Signing), some pub⟩ =
      some (.ok (keysOf P x25519Priv ed25519Signing)) := by
  have hlength := storedCiphertext_length hoverhead derivedFilekey nonce
    x25519Priv ed25519Signing
  simp only [unlock, viewFile, storedKeyfile, readKeyfile_written hlength,
    readFileToBuffer_of_le hpub, Except.map,
    decryptKeyfile_written haead hkey]

theorem unlock_short_key
    (sechatDir peersDir : Bool) {content : Bytes}
    (hshort : content.length < 124) (identityPub : Option Bytes) :
    unlock P argon2 password
        ⟨sechatDir, peersDir, some content, identityPub⟩ =
      some (.error "failed to read identity file") := by
  simp only [unlock, viewFile, readKeyfile_error_of_lt hshort]

theorem readFileToBuffer_viewFile_short
    {file : Option Bytes} {size : ℕ} (hshort : (file.getD []).length < size) :
    ∃ e, readFileToBuffer (viewFile file) size = .error e := by
  cases file with
  | none => exact ⟨_, rfl⟩
  | some content => exact ⟨_, readFileToBuffer_of_lt hshort⟩

theorem unlock_short_pub
    (sechatDir peersDir : Bool) {content : Bytes}
    (hlong : 124 ≤ content.length) {identityPub : Option Bytes}
    (hshort : (identityPub.getD []).length < 64) :
    unlock P argon2 password
        ⟨sechatDir, peersDir, some content, identityPub⟩ =
      some (.error "failed to read identity file") := by
  obtain ⟨e, he⟩ := readFileToBuffer_viewFile_short hshort
  simp only [unlock, viewFile] at he ⊢
  rw [readKeyfile_of_le hlong, he]
  rfl

variable (x25519Priv ed25519Signing nonce) in
/-- Unlocking takes all of `identity.key` and 64 bytes of `identity.pub`. -/
theorem unlock_part_iff
    (haead : P.AeadCorrect) (hoverhead : P.AeadOverhead)
    (hkey : argon2 (utf8 password) salt.toList = .ok derivedFilekey)
    (sechatDir peersDir : Bool) (part : ℕ) (identityPub : Option Bytes) :
    unlock P argon2 password ⟨sechatDir, peersDir,
        some ((storedKeyfile P derivedFilekey salt nonce x25519Priv
          ed25519Signing).take part), identityPub⟩ =
      some (.ok (keysOf P x25519Priv ed25519Signing)) ↔
    124 ≤ part ∧ 64 ≤ (identityPub.getD []).length := by
  have hlength := storedKeyfile_length hoverhead derivedFilekey salt nonce
    x25519Priv ed25519Signing
  by_cases hpart : 124 ≤ part
  · rw [List.take_of_length_le (by omega)]
    by_cases hpub : 64 ≤ (identityPub.getD []).length
    · cases identityPub with
      | none => simp at hpub
      | some pub =>
          simp only [hpart, hpub, and_self, iff_true]
          exact unlock_written haead hoverhead hkey sechatDir peersDir hpub
    · rw [unlock_short_pub sechatDir peersDir hlength.ge
        (Nat.lt_of_not_le hpub)]
      simp [hpub]
  · have hshort : ((storedKeyfile P derivedFilekey salt nonce x25519Priv
        ed25519Signing).take part).length < 124 := by
      rw [List.length_take]
      omega
    rw [unlock_short_key sechatDir peersDir hshort]
    simp [hpart]

variable (x25519Priv ed25519Signing nonce) in
theorem unlock_iff
    (haead : P.AeadCorrect) (hoverhead : P.AeadOverhead)
    (hkey : argon2 (utf8 password) salt.toList = .ok derivedFilekey)
    (sechatDir peersDir : Bool) (identityPub : Option Bytes) :
    unlock P argon2 password ⟨sechatDir, peersDir,
        some (storedKeyfile P derivedFilekey salt nonce x25519Priv
          ed25519Signing), identityPub⟩ =
      some (.ok (keysOf P x25519Priv ed25519Signing)) ↔
    64 ≤ (identityPub.getD []).length := by
  have hall := unlock_part_iff x25519Priv ed25519Signing nonce haead
    hoverhead hkey sechatDir peersDir 124 identityPub
  rw [List.take_of_length_le (storedKeyfile_length hoverhead _ _ _ _ _).le]
    at hall
  simpa using hall

/-- Once `identity.key` is there, all depends on the unlocking. -/
theorem exists_false_or_iff
    {disk : IdentityDir} {content : Bytes}
    (hcontent : disk.identityKey = some content) {unlocks : Prop} :
    identityExists disk = false ∨ unlocks ↔ unlocks := by
  simp [identityExists, hcontent]

/-- What each interruption of the script leaves. -/
theorem perform_keyfileScript_iff
    (haead : P.AeadCorrect) (hoverhead : P.AeadOverhead)
    (hkey : argon2 (utf8 password) salt.toList = .ok derivedFilekey)
    {writeable pubBytes : Bytes}
    (hwriteable : writeable = storedKeyfile P derivedFilekey salt nonce
      x25519Priv ed25519Signing)
    (hpub : pubBytes.length = 64) (fault : Option (Fault String))
    {disk : IdentityDir} (hfresh : identityExists disk = false) :
    (identityExists
        (perform (keyfileScript writeable pubBytes) fault disk).1 = false ∨
      unlock P argon2 password
          (perform (keyfileScript writeable pubBytes) fault disk).1 =
        some (.ok (keysOf P x25519Priv ed25519Signing))) ↔
    LeavesUsable disk fault := by
  -- with all of `identity.key` written, `identity.pub` decides
  have hwritten : ∀ left identityPub,
      left = ⟨true, true, some writeable, identityPub⟩ →
      (identityExists left = false ∨ unlock P argon2 password left =
          some (.ok (keysOf P x25519Priv ed25519Signing)) ↔
        64 ≤ (identityPub.getD []).length) := by
    rintro left identityPub rfl
    rw [exists_false_or_iff rfl, hwriteable]
    exact unlock_iff x25519Priv ed25519Signing nonce haead hoverhead hkey
      true true identityPub
  match fault with
  | none =>
      rw [perform_keyfileScript, hwritten _ _ rfl]
      simp [LeavesUsable, hpub]
  | some ⟨0, part, error⟩ =>
      exact iff_of_true (Or.inl hfresh) (Or.inl (by simp))
  | some ⟨1, part, error⟩ =>
      exact iff_of_true (Or.inl hfresh) (Or.inl (by simp))
  | some ⟨2, part, error⟩ =>
      exact iff_of_true (Or.inl hfresh) (Or.inl (by simp))
  | some ⟨3, part, error⟩ =>
      have hleft : (perform (keyfileScript writeable pubBytes)
          (some ⟨3, part, error⟩) disk).1 =
            ⟨true, true, some (writeable.take part), disk.identityPub⟩ := rfl
      rw [hleft, exists_false_or_iff rfl, hwriteable,
        unlock_part_iff x25519Priv ed25519Signing nonce haead hoverhead hkey]
      simp [LeavesUsable]
  | some ⟨4, part, error⟩ =>
      refine (hwritten _ disk.identityPub rfl).trans ?_
      simp [LeavesUsable]
  | some ⟨5, part, error⟩ =>
      refine (hwritten _ disk.identityPub rfl).trans ?_
      simp [LeavesUsable]
  | some ⟨6, part, error⟩ =>
      refine (hwritten _ (some (pubBytes.take part)) rfl).trans ?_
      simp [LeavesUsable, hpub]
  | some ⟨7, part, error⟩ =>
      refine (hwritten _ (some pubBytes) rfl).trans ?_
      simp [LeavesUsable, hpub]
  | some ⟨step + 8, part, error⟩ =>
      refine (hwritten _ (some pubBytes) rfl).trans ?_
      simp [LeavesUsable, hpub]

theorem createIdentity_fst
    (fault : Option (Fault String)) (disk : IdentityDir) :
    (createIdentity P argon2 password x25519Priv ed25519Signing salt nonce
        fault disk).1 =
      (encryptKeyfile P argon2 password x25519Priv
        (P.x25519Public x25519Priv) ed25519Signing salt nonce fault
        disk).1 := by
  simp only [createIdentity]
  split <;> rfl

end Interrupted

/-- Wherever `create_identity` breaks off, it leaves no identity or one that
unlocks to the keys generated, exactly if the password could not be hashed,
or `identity.key` was not yet opened, or both files are left long enough. -/
theorem identity_creation_failure_atomic_iff
    (P : Primitives) (argon2 : Argon2) (haead : P.AeadCorrect)
    (hoverhead : P.AeadOverhead) (password : String)
    (x25519Priv ed25519Signing salt : KeyType) (nonce : Nonce)
    (fault : Option (Fault String)) (disk : IdentityDir)
    (hfresh : identityExists disk = false) :
    (identityExists (createIdentity P argon2 password x25519Priv
          ed25519Signing salt nonce fault disk).1 = false ∨
      unlock P argon2 password (createIdentity P argon2 password x25519Priv
          ed25519Signing salt nonce fault disk).1 =
        some (.ok
          { x25519Priv := x25519Priv
            x25519Pub := P.x25519Public x25519Priv
            ed25519Signing := ed25519Signing
            ed25519Verifying := P.verifyingKey ed25519Signing })) ↔
    (∃ e, argon2 (utf8 password) salt.toList = .error e) ∨
      LeavesUsable disk fault := by
  rw [createIdentity_fst]
  change (_ ∨ unlock P argon2 password _ =
    some (.ok (keysOf P x25519Priv ed25519Signing))) ↔ _
  cases hkey : argon2 (utf8 password) salt.toList with
  | error e =>
      have hleft : (encryptKeyfile P argon2 password x25519Priv
          (P.x25519Public x25519Priv) ed25519Signing salt nonce fault
          disk).1 = disk := by
        simp [encryptKeyfile, keyfileBytes, hkey]
      rw [hleft]
      exact iff_of_true (Or.inl hfresh) (Or.inl ⟨e, rfl⟩)
  | ok derivedFilekey =>
      rw [encryptKeyfile_eq hkey, perform_keyfileScript_iff haead hoverhead
        hkey rfl (by simp) fault hfresh]
      simp

def sampleCreation (fault : Option (Fault String)) (disk : IdentityDir) :
    IdentityDir × Except String Keys :=
  createIdentity .tagged transparentArgon2 "correct" (Vector.replicate 32 1)
    (Vector.replicate 32 101) (Vector.replicate 32 7) (Vector.replicate 12 5)
    fault disk

def diskFull : Fault String := ⟨5, 0, "No space left on device (os error 28)"⟩

/-- The directory keeps the `identity.pub` of an earlier identity. -/
def stalePubDir : IdentityDir := ⟨true, true, none, some (List.replicate 64 9)⟩

/-- The old `identity.pub` cannot be opened: the creation fails after all of
`identity.key` is written, and the new identity unlocks. -/
theorem sample_creation_usable :
    (sampleCreation (some diskFull) stalePubDir).2.toOption.isNone = true ∧
      unlock .tagged transparentArgon2 "correct"
          (sampleCreation (some diskFull) stalePubDir).1 =
        some (.ok
          { x25519Priv := Vector.replicate 32 1
            x25519Pub := Vector.replicate 32 1
            ed25519Signing := Vector.replicate 32 101
            ed25519Verifying := Vector.replicate 32 101 }) := by
  have husable : LeavesUsable stalePubDir (some diskFull) := by
    simp [LeavesUsable, diskFull, stalePubDir]
  have hexists : identityExists
      (sampleCreation (some diskFull) stalePubDir).1 = true := rfl
  rcases (identity_creation_failure_atomic_iff .tagged transparentArgon2
    tagged_aeadCorrect tagged_aeadOverhead "correct" _ _ _ _ (some diskFull)
    stalePubDir rfl).mpr (Or.inr husable) with habsent | hunlocks
  · exact absurd (habsent.symm.trans hexists) (by decide)
  · exact ⟨rfl, hunlocks⟩

/-- `identity.pub` could not be created: there is an identity now, and no
password unlocks it. -/
theorem missing_pub_locks_out :
    identityExists emptyIdentityDir = false ∧
      (sampleCreation (some diskFull) emptyIdentityDir).2.toOption.isNone =
        true ∧
      identityExists (sampleCreation (some diskFull) emptyIdentityDir).1 =
        true ∧
      unlock .tagged transparentArgon2 "correct"
          (sampleCreation (some diskFull) emptyIdentityDir).1 =
        some (.error "failed to read identity file") := by
  have hleft : (sampleCreation (some diskFull) emptyIdentityDir).1 =
      ⟨true, true, some (storedKeyfile .tagged (sampleFilekey "correct")
        (Vector.replicate 32 7) (Vector.replicate 12 5)
        (Vector.replicate 32 1) (Vector.replicate 32 101)), none⟩ := rfl
  rw [hleft]
  refine ⟨rfl, rfl, rfl, unlock_short_pub _ _ ?_ (by decide)⟩
  rw [storedKeyfile_length tagged_aeadOverhead]

end SechatClient
