import SechatClient.CryptoCore

/-!
# Signed peer frames

The frames of the `p2p` crate: the payload variants, the byte string which
`PeerMessage::new` signs, the one which `PeerMessage::verify` checks, and the
freshness window.  The two encodings are written out twice in the source and
here.  The second half determines which payloads the signature binds.
-/

namespace SechatClient

open ByteStrings

inductive P2PMessage where
  | init (ephermal : KeyType)
  | chatMessage (counter : Int64) (messageBytes : Bytes)
  | heartBeat
  | syncRequest (lastTimestamp : Int64)
  | syncResponse (messages : Bytes)
  | endOfConversation
  deriving DecidableEq

structure PeerMessage where
  timestamp : Int64
  payload : P2PMessage
  sender : KeyType
  signature : Bytes
  deriving DecidableEq

/-- The payload bytes signed by `PeerMessage::new`. -/
def P2PMessage.signedPayload : P2PMessage → Bytes
  | .init ephermal => ephermal.toList
  | .chatMessage counter messageBytes => i64ToLeBytes counter ++ messageBytes
  | .endOfConversation => utf8 "EndOfConversation"
  | .heartBeat => utf8 "Heartbeat"
  | .syncRequest lastTimestamp => i64ToLeBytes lastTimestamp
  | .syncResponse messages => messages

/-- The payload bytes rebuilt by `PeerMessage::verify`. -/
def P2PMessage.checkedPayload : P2PMessage → Bytes
  | .init ephermal => ephermal.toList
  | .chatMessage counter messageBytes => i64ToLeBytes counter ++ messageBytes
  | .endOfConversation => utf8 "EndOfConversation"
  | .heartBeat => utf8 "Heartbeat"
  | .syncRequest lastTimestamp => i64ToLeBytes lastTimestamp
  | .syncResponse messages => messages

def PeerMessage.dataToSign (sender : KeyType) (timestamp : Int64)
    (payload : P2PMessage) : Bytes :=
  sender.toList ++ (i64ToLeBytes timestamp ++ payload.signedPayload)

def PeerMessage.dataToVerify (sender : KeyType) (timestamp : Int64)
    (payload : P2PMessage) : Bytes :=
  sender.toList ++ (i64ToLeBytes timestamp ++ payload.checkedPayload)

variable (P : Primitives)

def PeerMessage.new (payload : P2PMessage) (sender signing : KeyType)
    (now : Int64) : PeerMessage where
  timestamp := now
  payload := payload
  sender := sender
  signature :=
    (signChallenge P signing (PeerMessage.dataToSign sender now payload)).toList

def PeerMessage.verify (msg : PeerMessage)
    (expectedX25519 expectedVerifying : KeyType) : Bool :=
  if msg.sender = expectedX25519 then
    verifySlice P expectedVerifying
      (PeerMessage.dataToVerify msg.sender msg.timestamp msg.payload)
      msg.signature
  else
    false

def maxFrameAgeSecs : Int64 := 120

/-- The 64-bit subtraction and absolute value wrap, as in a release build. -/
def frameIsFresh (frameTs now : Int64) : Bool :=
  decide ((now - frameTs).abs ≤ maxFrameAgeSecs)

def frame (codec : Codec PeerMessage) (payload : P2PMessage)
    (myPub signing : KeyType) (now : Int64) : Option Bytes :=
  (codec.toVec (PeerMessage.new P payload myPub signing now)).toOption

theorem frame_eq_some
    {codec : Codec PeerMessage} {payload : P2PMessage}
    {myPub signing : KeyType} {now : Int64} {bytes : Bytes}
    (hbytes : frame P codec payload myPub signing now = some bytes) :
    codec.toVec (PeerMessage.new P payload myPub signing now) = .ok bytes := by
  unfold frame at hbytes
  cases hvec : codec.toVec (PeerMessage.new P payload myPub signing now) with
  | error _ => simp [hvec, Except.toOption] at hbytes
  | ok other =>
      rw [hvec] at hbytes
      cases hbytes
      rfl

theorem frame_fromSlice
    {codec : Codec PeerMessage} (hround : codec.RoundTrip)
    {payload : P2PMessage} {myPub signing : KeyType} {now : Int64}
    {bytes : Bytes}
    (hbytes : frame P codec payload myPub signing now = some bytes) :
    codec.fromSlice bytes =
      .ok (PeerMessage.new P payload myPub signing now) :=
  hround.fromSlice_toVec (frame_eq_some P hbytes)

/-! ## The two encodings agree -/

theorem P2PMessage.checkedPayload_eq (payload : P2PMessage) :
    payload.checkedPayload = payload.signedPayload := by
  cases payload <;> rfl

theorem PeerMessage.dataToVerify_eq
    (sender : KeyType) (timestamp : Int64) (payload : P2PMessage) :
    PeerMessage.dataToVerify sender timestamp payload =
      PeerMessage.dataToSign sender timestamp payload := by
  unfold PeerMessage.dataToVerify PeerMessage.dataToSign
  rw [P2PMessage.checkedPayload_eq]

theorem PeerMessage.dataToSign_eq_dataToVerify_iff
    (sender : KeyType) (timestamp : Int64) (p q : P2PMessage) :
    PeerMessage.dataToSign sender timestamp p =
        PeerMessage.dataToVerify sender timestamp q ↔
      p.signedPayload = q.signedPayload := by
  rw [PeerMessage.dataToVerify_eq]
  unfold PeerMessage.dataToSign
  rw [List.append_cancel_left_eq, List.append_cancel_left_eq]

/-- A frame built for one payload is accepted with any payload of the same
signed bytes in its place. -/
theorem PeerMessage.verify_replace_payload
    (hsig : P.SignatureCorrect) (sender signing : KeyType) (now : Int64)
    {p q : P2PMessage} (hbytes : p.signedPayload = q.signedPayload) :
    ({ PeerMessage.new P p sender signing now with payload := q }).verify P
      sender (P.verifyingKey signing) = true := by
  have hdata : PeerMessage.dataToVerify sender now q =
      PeerMessage.dataToSign sender now p :=
    ((PeerMessage.dataToSign_eq_dataToVerify_iff sender now p q).mpr
      hbytes).symm
  simp only [PeerMessage.verify, PeerMessage.new, if_true, hdata,
    signChallenge, verifySlice_toList]
  exact hsig signing _

theorem PeerMessage.verify_new
    (hsig : P.SignatureCorrect) (payload : P2PMessage)
    (sender signing : KeyType) (now : Int64) :
    (PeerMessage.new P payload sender signing now).verify P sender
      (P.verifyingKey signing) = true :=
  PeerMessage.verify_replace_payload P hsig sender signing now rfl

/-! ## What the signature binds -/

theorem P2PMessage.signedPayload_syncResponse_of_short
    {messages : Bytes} (hshort : messages.length < 8) {q : P2PMessage}
    (hbytes : messages = q.signedPayload) :
    q = .syncResponse messages := by
  have hlength := congrArg List.length hbytes
  cases q with
  | init ephermal =>
      simp only [signedPayload, Vector.length_toList] at hlength
      omega
  | chatMessage counter messageBytes =>
      simp only [signedPayload, List.length_append,
        i64ToLeBytes_length] at hlength
      omega
  | heartBeat =>
      have hnine : (utf8 "Heartbeat").length = 9 := by decide
      simp only [signedPayload, hnine] at hlength
      omega
  | syncRequest lastTimestamp =>
      simp only [signedPayload, i64ToLeBytes_length] at hlength
      omega
  | syncResponse other => rw [hbytes, signedPayload]
  | endOfConversation =>
      have hseventeen : (utf8 "EndOfConversation").length = 17 := by decide
      simp only [signedPayload, hseventeen] at hlength
      omega

/-- Any eight bytes read as a counter, so a long enough response is also the
signed form of a chat message. -/
theorem P2PMessage.signedPayload_chat_of_long
    {messages : Bytes} (hlong : 8 ≤ messages.length) :
    (P2PMessage.chatMessage (i64OfLeBytes (messages.take 8))
      (messages.drop 8)).signedPayload = messages := by
  have htake : (messages.take 8).length = 8 := by
    rw [List.length_take]
    omega
  simp only [signedPayload, i64ToLeBytes_i64OfLeBytes htake,
    List.take_append_drop]

/-- The signed bytes determine the payload only for a `SyncResponse` shorter
than the eight bytes of a counter: every other payload has the signed bytes
of a `SyncResponse`, and a longer `SyncResponse` those of a chat message. -/
theorem signed_payload_bound_iff
    (sender : KeyType) (timestamp : Int64) (p : P2PMessage) :
    (∀ q, PeerMessage.dataToSign sender timestamp p =
        PeerMessage.dataToVerify sender timestamp q → p = q) ↔
      ∃ messages, p = .syncResponse messages ∧ messages.length < 8 := by
  simp only [PeerMessage.dataToSign_eq_dataToVerify_iff]
  constructor
  · intro hbound
    have hp : p = .syncResponse p.signedPayload :=
      hbound (.syncResponse p.signedPayload) rfl
    refine ⟨p.signedPayload, hp, ?_⟩
    by_contra hlong
    have hchat := P2PMessage.signedPayload_chat_of_long (not_lt.mp hlong)
    have heq := hbound _ hchat.symm
    rw [hp] at heq
    contradiction
  · rintro ⟨messages, rfl, hshort⟩ q hbytes
    exact (P2PMessage.signedPayload_syncResponse_of_short hshort hbytes).symm

def confusedChat : P2PMessage := .chatMessage 1 (List.replicate 24 7)

def confusedInit : P2PMessage :=
  .init (arrayOfBytes 32 (i64ToLeBytes 1 ++ List.replicate 24 7))

theorem confused_signedPayload :
    confusedChat.signedPayload = confusedInit.signedPayload := by
  unfold confusedChat confusedInit
  simp only [P2PMessage.signedPayload]
  rw [toList_arrayOfBytes (by simp)]

/-- The chat frame's signature is accepted on an `Init` with the counter and
the ciphertext as ephemeral key. -/
theorem chat_frame_accepted_as_init :
    ¬ (∀ (sender : KeyType) (timestamp : Int64) (p q : P2PMessage),
        PeerMessage.dataToSign sender timestamp p =
          PeerMessage.dataToVerify sender timestamp q → p = q) ∧
      ({ PeerMessage.new Primitives.transparent confusedChat
          (Vector.replicate 32 1) (Vector.replicate 32 2) 1000 with
          payload := confusedInit }).verify Primitives.transparent
        (Vector.replicate 32 1) (Vector.replicate 32 2) = true := by
  constructor
  · intro hbinds
    have hdata := (PeerMessage.dataToSign_eq_dataToVerify_iff
      (Vector.replicate 32 1) 1000 confusedChat confusedInit).mpr
        confused_signedPayload
    have heq := hbinds _ _ _ _ hdata
    simp [confusedChat, confusedInit] at heq
  · exact PeerMessage.verify_replace_payload Primitives.transparent
      transparent_signatureCorrect _ _ _ confused_signedPayload

/-! ## A transparent frame codec -/

def P2PMessage.transparentFields : P2PMessage → List Bytes
  | .init ephermal => [[0], ephermal.toList]
  | .chatMessage counter messageBytes =>
      [[1], i64ToLeBytes counter, messageBytes]
  | .heartBeat => [[2]]
  | .syncRequest lastTimestamp => [[3], i64ToLeBytes lastTimestamp]
  | .syncResponse messages => [[4], messages]
  | .endOfConversation => [[5]]

def P2PMessage.ofTransparentFields : List Bytes → Option P2PMessage
  | [[0], ephermal] => some (.init (arrayOfBytes 32 ephermal))
  | [[1], counter, messageBytes] =>
      some (.chatMessage (i64OfLeBytes counter) messageBytes)
  | [[2]] => some .heartBeat
  | [[3], lastTimestamp] => some (.syncRequest (i64OfLeBytes lastTimestamp))
  | [[4], messages] => some (.syncResponse messages)
  | [[5]] => some .endOfConversation
  | _ => none

def transparentFrames : Codec PeerMessage :=
  Codec.ofFields
    (fun msg =>
      i64ToLeBytes msg.timestamp :: msg.sender.toList :: msg.signature ::
        msg.payload.transparentFields)
    (fun
      | timestamp :: sender :: signature :: payload =>
          (P2PMessage.ofTransparentFields payload).map fun decoded =>
            ⟨i64OfLeBytes timestamp, decoded, arrayOfBytes 32 sender, signature⟩
      | _ => none)

theorem transparentFrames_roundTrip : transparentFrames.RoundTrip := by
  apply Codec.ofFields_roundTrip
  rintro ⟨timestamp, payload, sender, signature⟩
  cases payload <;>
    simp [P2PMessage.transparentFields, P2PMessage.ofTransparentFields]

theorem P2PMessage.ofTransparentFields_cut
    (payload : P2PMessage) {got rest : List Bytes} (hne : rest ≠ [])
    (hfields : payload.transparentFields = got ++ rest) :
    P2PMessage.ofTransparentFields got = none := by
  obtain ⟨last, rest, rfl⟩ := List.exists_cons_of_ne_nil hne
  match got with
  | [] => rfl
  | [first] =>
      cases payload <;> cases hfields <;> rfl
  | [first, second] =>
      cases payload <;> cases hfields
      rfl
  | first :: second :: third :: more =>
      cases payload <;> simp [P2PMessage.transparentFields] at hfields

theorem transparentFrames_rejectsTruncated :
    transparentFrames.RejectsTruncated := by
  apply Codec.ofFields_rejectsTruncated
  intro msg got rest hne hfields
  match got with
  | [] => rfl
  | [_] => rfl
  | [_, _] => rfl
  | timestamp :: sender :: signature :: payload =>
      have hpayload : msg.payload.transparentFields = payload ++ rest := by
        simpa using congrArg (List.drop 3) hfields
      simp [P2PMessage.ofTransparentFields_cut msg.payload hne hpayload]

end SechatClient
