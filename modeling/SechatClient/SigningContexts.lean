import SechatClient.BlobHandling
import SechatClient.Datagrams

/-!
# Signing contexts

A client signs with one Ed25519 key in five contexts: the server login, the
STUN ping, peer frames, offline messages and purges.  This file compares the
byte strings of any two of them.  Only the two blob strings carry a tag.
-/

namespace SechatClient

open ByteStrings

inductive SigningContext where
  | auth
  | stun
  | frame
  | offline
  | purge
  deriving DecidableEq, Repr

/-- Everything that varies in a context besides the identity. -/
inductive SigningInput where
  | auth (timestamp : Int64)
  | stun (timestamp : Int64)
  | frame (timestamp : Int64) (payload : P2PMessage)
  | offline (ciphertext : Bytes) (timestamp : Int64)
  | purge (timestamp : Int64)

def SigningInput.context : SigningInput → SigningContext
  | .auth _ => .auth
  | .stun _ => .stun
  | .frame _ _ => .frame
  | .offline _ _ => .offline
  | .purge _ => .purge

def SigningInput.signedBytes (pubKey verif : KeyType) : SigningInput → Bytes
  | .auth timestamp => authDataToSign pubKey verif timestamp
  | .stun timestamp => stunDataToSign pubKey verif timestamp
  | .frame timestamp payload => PeerMessage.dataToSign pubKey timestamp payload
  | .offline ciphertext timestamp => offlineBytesToSign ciphertext timestamp
  | .purge timestamp => purgeBytesToSign timestamp

/-- The byte string which a client checks for the identity.  Logins and STUN
pings are checked by the server. -/
def SigningInput.verifiedBytes (pubKey : KeyType) :
    SigningInput → Option Bytes
  | .auth _ => none
  | .stun _ => none
  | .frame timestamp payload =>
      some (PeerMessage.dataToVerify pubKey timestamp payload)
  | .offline ciphertext timestamp =>
      some (offlineBytesToVerify ciphertext timestamp)
  | .purge timestamp => some (purgeBytesToVerify timestamp)

/-- No string signed in one of the two contexts is signed or checked in the
other, whatever the inputs. -/
def Separated (pubKey verif : KeyType) (first second : SigningContext) :
    Prop :=
  ∀ x y : SigningInput, x.context = first → y.context = second →
    x.signedBytes pubKey verif ≠ y.signedBytes pubKey verif ∧
    some (x.signedBytes pubKey verif) ≠ y.verifiedBytes pubKey ∧
    some (y.signedBytes pubKey verif) ≠ x.verifiedBytes pubKey

/-! ## Reduction to the signed strings -/

theorem SigningInput.verifiedBytes_eq_some
    {pubKey : KeyType} {input : SigningInput} {bytes : Bytes}
    (hbytes : input.verifiedBytes pubKey = some bytes) (verif : KeyType) :
    input.signedBytes pubKey verif = bytes := by
  cases input with
  | auth timestamp => simp [verifiedBytes] at hbytes
  | stun timestamp => simp [verifiedBytes] at hbytes
  | frame timestamp payload =>
      simp only [verifiedBytes, Option.some.injEq] at hbytes
      rw [← hbytes, PeerMessage.dataToVerify_eq]
      rfl
  | offline ciphertext timestamp =>
      simpa [verifiedBytes, signedBytes, offlineBytesToVerify_eq] using hbytes
  | purge timestamp =>
      simpa [verifiedBytes, signedBytes, purgeBytesToVerify_eq] using hbytes

theorem separated_iff_signedBytes
    (pubKey verif : KeyType) (first second : SigningContext) :
    Separated pubKey verif first second ↔
      ∀ x y : SigningInput, x.context = first → y.context = second →
        x.signedBytes pubKey verif ≠ y.signedBytes pubKey verif := by
  constructor
  · intro hsep x y hx hy
    exact (hsep x y hx hy).1
  · intro hsigned x y hx hy
    have hne := hsigned x y hx hy
    refine ⟨hne, ?_, ?_⟩
    · intro hverified
      exact hne (SigningInput.verifiedBytes_eq_some hverified.symm verif).symm
    · intro hverified
      exact hne (SigningInput.verifiedBytes_eq_some hverified.symm verif)

theorem Separated.symm
    {pubKey verif : KeyType} {first second : SigningContext}
    (hsep : Separated pubKey verif first second) :
    Separated pubKey verif second first := by
  intro x y hx hy
  obtain ⟨hsigned, hleft, hright⟩ := hsep y x hy hx
  exact ⟨hsigned.symm, hright, hleft⟩

theorem separated_comm
    (pubKey verif : KeyType) (first second : SigningContext) :
    Separated pubKey verif first second ↔
      Separated pubKey verif second first :=
  ⟨Separated.symm, Separated.symm⟩

/-! ## Lengths and tags -/

theorem purgeBytesToSign_length (timestamp : Int64) :
    (purgeBytesToSign timestamp).length = 13 := by
  have htag : (utf8 "purge").length = 5 := by decide
  simp [purgeBytesToSign, htag]

theorem offline_tag_length : (utf8 "offline").length = 7 := by decide

theorem SigningInput.length_gt_of_ne_purge
    (pubKey verif : KeyType) {input : SigningInput}
    (hcontext : input.context ≠ .purge) :
    13 < (input.signedBytes pubKey verif).length := by
  cases input with
  | auth timestamp => simp [signedBytes, authDataToSign]
  | stun timestamp => simp [signedBytes, stunDataToSign]
  | frame timestamp payload =>
      simp only [signedBytes, PeerMessage.dataToSign, List.length_append,
        Vector.length_toList]
      omega
  | offline ciphertext timestamp =>
      simp only [signedBytes, offlineBytesToSign, List.length_append,
        offline_tag_length, i64ToLeBytes_length]
      omega
  | purge timestamp => simp [context] at hcontext

theorem separated_purge
    (pubKey verif : KeyType) {first : SigningContext}
    (hfirst : first ≠ .purge) : Separated pubKey verif first .purge := by
  rw [separated_iff_signedBytes]
  intro x y hx hy heq
  have hcontext : x.context ≠ .purge := by
    rw [hx]
    exact hfirst
  have hlong := SigningInput.length_gt_of_ne_purge pubKey verif hcontext
  cases y with
  | purge timestamp =>
      rw [heq] at hlong
      simp only [SigningInput.signedBytes, purgeBytesToSign_length] at hlong
      omega
  | auth timestamp => simp [SigningInput.context] at hy
  | stun timestamp => simp [SigningInput.context] at hy
  | frame timestamp payload => simp [SigningInput.context] at hy
  | offline ciphertext timestamp => simp [SigningInput.context] at hy

theorem SigningInput.pubKey_prefix_of_untagged
    (pubKey verif : KeyType) {input : SigningInput}
    (hoffline : input.context ≠ .offline) (hpurge : input.context ≠ .purge) :
    pubKey.toList <+: input.signedBytes pubKey verif := by
  cases input with
  | auth timestamp => exact List.prefix_append _ _
  | stun timestamp => exact List.prefix_append _ _
  | frame timestamp payload => exact List.prefix_append _ _
  | offline ciphertext timestamp => simp [context] at hoffline
  | purge timestamp => simp [context] at hpurge

theorem separated_offline_of_no_tag
    (pubKey verif : KeyType) {first : SigningContext}
    (hoffline : first ≠ .offline)
    (hpurge : first ≠ .purge)
    (htag : ¬ utf8 "offline" <+: pubKey.toList) :
    Separated pubKey verif first .offline := by
  rw [separated_iff_signedBytes]
  intro x y hx hy heq
  rw [← hx] at hoffline hpurge
  have hkey :=
    SigningInput.pubKey_prefix_of_untagged pubKey verif hoffline hpurge
  cases y with
  | offline ciphertext timestamp =>
      rw [heq] at hkey
      apply htag
      refine List.prefix_of_prefix_length_le (List.prefix_append _ _) hkey ?_
      simp [offline_tag_length]
  | auth timestamp => simp [SigningInput.context] at hy
  | stun timestamp => simp [SigningInput.context] at hy
  | frame timestamp payload => simp [SigningInput.context] at hy
  | purge timestamp => simp [SigningInput.context] at hy

/-! ## Clashes -/

theorem not_separated_of_clash
    {pubKey verif : KeyType} (x y : SigningInput)
    (heq : x.signedBytes pubKey verif = y.signedBytes pubKey verif) :
    ¬ Separated pubKey verif x.context y.context := by
  intro hsep
  exact (hsep x y rfl rfl).1 heq

theorem auth_stun_clash (pubKey verif : KeyType) (timestamp : Int64) :
    (SigningInput.auth timestamp).signedBytes pubKey verif =
      (SigningInput.stun timestamp).signedBytes pubKey verif := rfl

/-- The frame whose timestamp and ephemeral key are cut out of the login
string behind the public key. -/
def frameOfAuth (verif : KeyType) (timestamp : Int64) : SigningInput :=
  .frame (i64OfLeBytes (verif.toList.take 8))
    (.init (arrayOfBytes 32 (verif.toList.drop 8 ++ i64ToLeBytes timestamp)))

theorem auth_frame_clash (pubKey verif : KeyType) (timestamp : Int64) :
    (SigningInput.auth timestamp).signedBytes pubKey verif =
      (frameOfAuth verif timestamp).signedBytes pubKey verif := by
  have hstamp : (verif.toList.take 8).length = 8 := by simp
  have hkey : (verif.toList.drop 8 ++ i64ToLeBytes timestamp).length = 32 := by
    simp
  simp only [frameOfAuth, SigningInput.signedBytes, authDataToSign,
    PeerMessage.dataToSign, P2PMessage.signedPayload,
    i64ToLeBytes_i64OfLeBytes hstamp, toList_arrayOfBytes hkey]
  rw [← List.append_assoc (verif.toList.take 8), List.take_append_drop]

section Tagged

variable {pubKey : KeyType} {rest : Bytes}
  (htag : utf8 "offline" ++ rest = pubKey.toList)

include htag in
theorem auth_offline_clash (verif : KeyType) (timestamp : Int64) :
    (SigningInput.auth timestamp).signedBytes pubKey verif =
      (SigningInput.offline (rest ++ verif.toList) timestamp).signedBytes
        pubKey verif := by
  simp only [SigningInput.signedBytes, authDataToSign, offlineBytesToSign]
  rw [← htag]
  simp only [List.append_assoc]

include htag in
theorem frame_offline_clash (verif : KeyType) (timestamp : Int64) :
    (SigningInput.frame timestamp (.syncRequest timestamp)).signedBytes
        pubKey verif =
      (SigningInput.offline (rest ++ i64ToLeBytes timestamp)
        timestamp).signedBytes pubKey verif := by
  simp only [SigningInput.signedBytes, PeerMessage.dataToSign,
    P2PMessage.signedPayload, offlineBytesToSign]
  rw [← htag]
  simp only [List.append_assoc]

end Tagged

/-! ## The exact separation -/

def SigningContext.Untagged (context : SigningContext) : Prop :=
  context ≠ .offline ∧ context ≠ .purge

theorem not_separated_of_untagged
    (pubKey verif : KeyType) {first second : SigningContext}
    (hne : first ≠ second) (hfirst : first.Untagged)
    (hsecond : second.Untagged) :
    ¬ Separated pubKey verif first second := by
  -- `stun` signs the login string, so each clash is one of the login's.
  have hstun := auth_stun_clash pubKey verif 0
  have hframe := auth_frame_clash pubKey verif 0
  cases first with
  | auth =>
      cases second with
      | auth => exact absurd rfl hne
      | stun => exact not_separated_of_clash (.auth 0) (.stun 0) hstun
      | frame =>
          exact not_separated_of_clash (.auth 0) (frameOfAuth verif 0) hframe
      | offline => exact absurd rfl hsecond.1
      | purge => exact absurd rfl hsecond.2
  | stun =>
      cases second with
      | auth => exact not_separated_of_clash (.stun 0) (.auth 0) hstun.symm
      | stun => exact absurd rfl hne
      | frame =>
          exact not_separated_of_clash (.stun 0) (frameOfAuth verif 0)
            (hstun.symm.trans hframe)
      | offline => exact absurd rfl hsecond.1
      | purge => exact absurd rfl hsecond.2
  | frame =>
      cases second with
      | auth =>
          exact not_separated_of_clash (frameOfAuth verif 0) (.auth 0)
            hframe.symm
      | stun =>
          exact not_separated_of_clash (frameOfAuth verif 0) (.stun 0)
            (hframe.symm.trans hstun)
      | frame => exact absurd rfl hne
      | offline => exact absurd rfl hsecond.1
      | purge => exact absurd rfl hsecond.2
  | offline => exact absurd rfl hfirst.1
  | purge => exact absurd rfl hfirst.2

theorem not_separated_offline_of_tag
    {pubKey : KeyType} (verif : KeyType) {first : SigningContext}
    (hfirst : first.Untagged) (htag : utf8 "offline" <+: pubKey.toList) :
    ¬ Separated pubKey verif first .offline := by
  obtain ⟨rest, hrest⟩ := htag
  have hauth := auth_offline_clash hrest verif 0
  cases first with
  | auth => exact not_separated_of_clash (.auth 0) (.offline _ 0) hauth
  | stun => exact not_separated_of_clash (.stun 0) (.offline _ 0) hauth
  | frame =>
      exact not_separated_of_clash (.frame 0 (.syncRequest 0)) (.offline _ 0)
        (frame_offline_clash hrest verif 0)
  | offline => exact absurd rfl hfirst.1
  | purge => exact absurd rfl hfirst.2

theorem separated_offline_iff
    (pubKey verif : KeyType) {first : SigningContext}
    (hfirst : first.Untagged) :
    Separated pubKey verif first .offline ↔
      ¬ utf8 "offline" <+: pubKey.toList :=
  ⟨fun hsep htag => not_separated_offline_of_tag verif hfirst htag hsep,
    separated_offline_of_no_tag pubKey verif hfirst.1 hfirst.2⟩

/-- Two different contexts are kept apart exactly when one of them is the
purge, or one is the offline message and the public key does not happen to
start with its tag. -/
theorem signing_contexts_separated_iff
    (pubKey verif : KeyType) (first second : SigningContext)
    (hne : first ≠ second) :
    Separated pubKey verif first second ↔
      (first = .purge ∨ second = .purge) ∨
        ((first = .offline ∨ second = .offline) ∧
          ¬ utf8 "offline" <+: pubKey.toList) := by
  by_cases hfirstPurge : first = .purge
  · subst first
    have hsep := (separated_purge pubKey verif hne.symm).symm
    simp [hsep]
  by_cases hsecondPurge : second = .purge
  · subst second
    simp [separated_purge pubKey verif hne]
  by_cases hsecond : second = .offline
  · subst second
    rw [separated_offline_iff pubKey verif ⟨hne, hfirstPurge⟩]
    simp [hfirstPurge]
  by_cases hfirst : first = .offline
  · subst first
    rw [separated_comm,
      separated_offline_iff pubKey verif ⟨hsecond, hsecondPurge⟩]
    simp [hsecondPurge]
  · have hclash := not_separated_of_untagged pubKey verif hne
      ⟨hfirst, hfirstPurge⟩ ⟨hsecond, hsecondPurge⟩
    simp [hclash, hfirst, hfirstPurge, hsecond, hsecondPurge]

theorem offline_frame_separated_for_zero_key :
    Separated (Vector.replicate 32 0) (Vector.replicate 32 0)
      .frame .offline :=
  (signing_contexts_separated_iff (Vector.replicate 32 0)
    (Vector.replicate 32 0) .frame .offline (by decide)).mpr
      (Or.inr ⟨Or.inr rfl, by decide⟩)

/-- A login signature is the signature of a STUN ping sent in the clear in
the same second. -/
theorem stun_ping_signature_is_login :
    (stunPing Primitives.transparent (Vector.replicate 32 1)
        (Vector.replicate 32 2) 1000).signature =
      (signChallenge Primitives.transparent (Vector.replicate 32 2)
        (authDataToSign (Vector.replicate 32 1)
          (Primitives.transparent.verifyingKey (Vector.replicate 32 2))
          1000)).toList ∧
    ¬ (∀ (pubKey verif : KeyType) (first second : SigningContext),
        first ≠ second → Separated pubKey verif first second) := by
  refine ⟨rfl, ?_⟩
  intro hall
  exact not_separated_of_clash (.auth 1000) (.stun 1000)
    (auth_stun_clash (Vector.replicate 32 1) (Vector.replicate 32 2) 1000)
    (hall _ _ .auth .stun (by decide))

end SechatClient
