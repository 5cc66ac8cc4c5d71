import SechatClient.NonceUse
import SechatClient.RelayConversation

/-!
# Frames of an earlier session

A frame names no session.  What keeps the frames of one session out of the
next is the receive key for chat messages, and the freshness window for the
rest.  A chat frame of an earlier session does not decrypt; `Init`, heartbeat
and sync frames do nothing in a running session.  An `End` is bound to its
session by nothing, so one that is still fresh closes the next session.
-/

namespace SechatClient

open ByteStrings

section Produced

variable (P : Primitives)

/-- The payloads which a peer signs during a session with this send key: any
of the variants, a chat message with a text encrypted under the key. -/
inductive SessionPayload (sendKey : KeyType) : P2PMessage → Prop
  | init (ephermal : KeyType) : SessionPayload sendKey (.init ephermal)
  | chat (counter : Int64) (text : String) :
      SessionPayload sendKey (.chatMessage counter
        (encryptMessageForChat P text sendKey counter.toUInt64))
  | heartBeat : SessionPayload sendKey .heartBeat
  | syncRequest (lastTimestamp : Int64) :
      SessionPayload sendKey (.syncRequest lastTimestamp)
  | syncResponse (messages : Bytes) :
      SessionPayload sendKey (.syncResponse messages)
  | ended : SessionPayload sendKey .endOfConversation

/-- A delivery behind the deliveries `before` of a session emits nothing,
keeps the counter and does not close the session. -/
def NoEffectAfter (frames : Codec PeerMessage) (receiver : Receiver)
    (before : List Delivery) (delivery : Delivery) : Prop :=
  (recvLoop P frames receiver .initial (before ++ [delivery])).state =
      (recvLoop P frames receiver .initial before).state ∧
    (recvLoop P frames receiver .initial (before ++ [delivery])).stopped =
      false

end Produced

/-! ## Keys of two sessions -/

section Keys

variable {P : Primitives}

/-- The message keys of two sessions differ, whichever directions they are
for. -/
theorem messageKey_ne_of_sessionKey_ne
    {first second : KeyType} (hne : first ≠ second)
    (hkdf : HkdfSeparates P
      (sessionHkdfInputs P first ++ sessionHkdfInputs P second))
    {label other : Bytes} (hlabel : label = utf8 "a2b" ∨ label = utf8 "b2a")
    (hother : other = utf8 "a2b" ∨ other = utf8 "b2a") :
    messageKey P (deriveDirectionalKey P first label) ≠
      messageKey P (deriveDirectionalKey P second other) := by
  have hlists : first.toList ≠ second.toList := fun heq =>
    hne (Vector.toList_inj.mp heq)
  have hdirections : deriveDirectionalKey P first label ≠
      deriveDirectionalKey P second other := by
    refine hkdf (first.toList, label) ?_ (second.toList, other) ?_ ?_
    · rcases hlabel with rfl | rfl <;> simp [sessionHkdfInputs]
    · rcases hother with rfl | rfl <;> simp [sessionHkdfInputs]
    · intro heq
      exact hlists (congrArg Prod.fst heq)
  refine hkdf ((deriveDirectionalKey P first label).toList, utf8 "message") ?_
    ((deriveDirectionalKey P second other).toList, utf8 "message") ?_ ?_
  · rcases hlabel with rfl | rfl <;> simp [sessionHkdfInputs]
  · rcases hother with rfl | rfl <;> simp [sessionHkdfInputs]
  · intro heq
    exact hdirections (Vector.toList_inj.mp (congrArg Prod.fst heq))

theorem sessionKeys_labels (sessionKey : KeyType) (amFirst : Bool) :
    (∃ label, (label = utf8 "a2b" ∨ label = utf8 "b2a") ∧
        (sessionKeys P sessionKey amFirst).1 =
          deriveDirectionalKey P sessionKey label) ∧
      ∃ label, (label = utf8 "a2b" ∨ label = utf8 "b2a") ∧
        (sessionKeys P sessionKey amFirst).2 =
          deriveDirectionalKey P sessionKey label := by
  cases amFirst with
  | true => exact ⟨⟨_, Or.inl rfl, rfl⟩, ⟨_, Or.inr rfl, rfl⟩⟩
  | false => exact ⟨⟨_, Or.inr rfl, rfl⟩, ⟨_, Or.inl rfl, rfl⟩⟩

/-- The message keys of the two directions of a session. -/
def sessionMessageKeys (P : Primitives) (sessionKey : KeyType) :
    List KeyType :=
  [messageKey P (deriveDirectionalKey P sessionKey (utf8 "a2b")),
    messageKey P (deriveDirectionalKey P sessionKey (utf8 "b2a"))]

theorem mem_sessionMessageKeys
    (sessionKey : KeyType) {label : Bytes}
    (hlabel : label = utf8 "a2b" ∨ label = utf8 "b2a") :
    messageKey P (deriveDirectionalKey P sessionKey label) ∈
      sessionMessageKeys P sessionKey := by
  rcases hlabel with rfl | rfl <;> simp [sessionMessageKeys]

/-- What the peer encrypted in one session does not decrypt in another. -/
theorem decrypt_of_other_session
    {first second : KeyType}
    (hauth : P.AeadAuthenticAmong
      (sessionMessageKeys P first ++ sessionMessageKeys P second))
    (hne : first ≠ second)
    (hkdf : HkdfSeparates P
      (sessionHkdfInputs P first ++ sessionHkdfInputs P second))
    (keys : Side → Keys) (kind : TransportKind) (side : Side)
    (text : String) (sealedAt openedAt : UInt64) :
    decryptMessageFromChat P
        (encryptMessageForChat P text
          (sessionSender P keys kind first side.other).sendKey sealedAt)
        (sessionReceiver P keys second side).recvKey openedAt =
      .error .cryptographicError := by
  obtain ⟨⟨label, hlabel, hsend⟩, _⟩ := sessionKeys_labels (P := P) first
    (amIFirst (keys side.other).x25519Pub (keys side.other.other).x25519Pub)
  obtain ⟨_, other, hother, hrecv⟩ := sessionKeys_labels (P := P) second
    (amIFirst (keys side).x25519Pub (keys side.other).x25519Pub)
  have hclosed := hauth _
    (List.mem_append_left _ (mem_sessionMessageKeys first hlabel)) _
    (List.mem_append_right _ (mem_sessionMessageKeys second hother))
    (messageKey_ne_of_sessionKey_ne hne hkdf hlabel hother)
  rw [← hsend, ← hrecv] at hclosed
  unfold decryptMessageFromChat encryptMessageForChat chatCipherInputs
  simp only [sessionSender, sessionReceiver, hclosed]

end Keys

/-! ## One frame of the earlier session -/

section Frame

variable {P : Primitives} {frames : Codec PeerMessage} {keys : Side → Keys}
  {first second : KeyType} {side : Side} {kind : TransportKind}
  {payload : P2PMessage} {timestamp : Int64} {bytes : Bytes}

variable (second) in
theorem genuineFrame_of_peer
    (hsig : P.SignatureCorrect) (hround : frames.RoundTrip)
    (hgenuine : (keys side.other).Genuine P)
    (hbytes : frame P frames payload (keys side.other).x25519Pub
      (keys side.other).ed25519Signing timestamp = some bytes)
    (now : Int64) (evtOpen : Bool) :
    genuineFrame P frames (sessionReceiver P keys second side)
        ⟨bytes, now, evtOpen⟩ =
      if frameIsFresh timestamp now = true then
        some (PeerMessage.new P payload (keys side.other).x25519Pub
          (keys side.other).ed25519Signing timestamp)
      else none := by
  have hslice := frame_fromSlice P hround hbytes
  have hverify := PeerMessage.verify_new P hsig payload
    (keys side.other).x25519Pub (keys side.other).ed25519Signing timestamp
  have hstamp : (PeerMessage.new P payload (keys side.other).x25519Pub
      (keys side.other).ed25519Signing timestamp).timestamp = timestamp := rfl
  rw [← hgenuine.ed25519] at hverify
  simp only [genuineFrame, hslice, sessionReceiver, hverify, hstamp, true_and]

/-- A frame of the earlier session opens to no text of the later one. -/
theorem openedChat_of_earlier
    (hsig : P.SignatureCorrect) (hround : frames.RoundTrip)
    (hauth : P.AeadAuthenticAmong
      (sessionMessageKeys P first ++ sessionMessageKeys P second))
    (hgenuine : (keys side.other).Genuine P) (hne : first ≠ second)
    (hkdf : HkdfSeparates P
      (sessionHkdfInputs P first ++ sessionHkdfInputs P second))
    (hpayload : SessionPayload P
      (sessionSender P keys kind first side.other).sendKey payload)
    (hbytes : frame P frames payload (keys side.other).x25519Pub
      (keys side.other).ed25519Signing timestamp = some bytes)
    (now : Int64) (evtOpen : Bool) :
    openedChat P frames (sessionReceiver P keys second side)
      ⟨bytes, now, evtOpen⟩ = none := by
  have hframe := genuineFrame_of_peer second hsig hround hgenuine hbytes now
    evtOpen
  unfold openedChat
  rw [hframe]
  by_cases hfresh : frameIsFresh timestamp now = true
  · rw [if_pos hfresh]
    cases hpayload with
    | chat counter text =>
        have hclosed := decrypt_of_other_session hauth hne hkdf keys kind
          side text counter.toUInt64 counter.toUInt64
        simp only [PeerMessage.new, hclosed]
    | init ephermal => rfl
    | heartBeat => rfl
    | syncRequest lastTimestamp => rfl
    | syncResponse messages => rfl
    | ended => rfl
  · rw [if_neg hfresh]

theorem isFreshEnd_of_peer_iff
    (hsig : P.SignatureCorrect) (hround : frames.RoundTrip)
    (hgenuine : (keys side.other).Genuine P)
    (hbytes : frame P frames payload (keys side.other).x25519Pub
      (keys side.other).ed25519Signing timestamp = some bytes)
    (now : Int64) (evtOpen : Bool) :
    IsFreshEnd P frames (sessionReceiver P keys second side)
        ⟨bytes, now, evtOpen⟩ ↔
      payload = .endOfConversation ∧ frameIsFresh timestamp now = true := by
  unfold IsFreshEnd
  rw [genuineFrame_of_peer second hsig hround hgenuine hbytes now evtOpen]
  constructor
  · rintro ⟨pm, hsome, hend⟩
    split at hsome
    next hfresh =>
      cases hsome
      exact ⟨hend, hfresh⟩
    next => contradiction
  · rintro ⟨hend, hfresh⟩
    rw [if_pos hfresh]
    exact ⟨_, rfl, hend⟩

variable {receiver : Receiver} {delivery : Delivery}

theorem handleInboundFrame_of_freshEnd
    (hend : IsFreshEnd P frames receiver delivery) (state : RecvState) :
    handleInboundFrame P frames receiver state delivery = (state, false) := by
  rcases handleInboundFrame_cases P frames receiver state delivery with
    ⟨chat, hopen, _⟩ | ⟨_, ⟨_, hresult⟩ | ⟨hnot, _⟩⟩
  · obtain ⟨pm, hgenuine, hpayload⟩ := hend
    have hnone := openedChat_of_genuineFrame hgenuine (by rw [hpayload]; rfl)
    rw [hopen] at hnone
    contradiction
  · exact hresult
  · exact absurd hend hnot

theorem handleInboundFrame_of_idle
    (hclosed : openedChat P frames receiver delivery = none)
    (hend : ¬ IsFreshEnd P frames receiver delivery) (state : RecvState) :
    handleInboundFrame P frames receiver state delivery = (state, true) := by
  rcases handleInboundFrame_cases P frames receiver state delivery with
    ⟨chat, hopen, _⟩ | ⟨_, ⟨hfresh, _⟩ | ⟨_, hresult⟩⟩
  · rw [hclosed] at hopen
    contradiction
  · exact absurd hfresh hend
  · exact hresult

theorem noEffectAfter_iff_of_unopened
    (hclosed : openedChat P frames receiver delivery = none)
    {before : List Delivery}
    (hlive : (recvLoop P frames receiver .initial before).stopped = false) :
    NoEffectAfter P frames receiver before delivery ↔
      ¬ IsFreshEnd P frames receiver delivery := by
  rw [NoEffectAfter, recvLoop_append hlive]
  by_cases hend : IsFreshEnd P frames receiver delivery
  · simp [handleInboundFrame_of_freshEnd hend, hend]
  · simp [handleInboundFrame_of_idle hclosed hend, hend]

end Frame

/-- A frame which the peer made in one session, delivered behind any
deliveries of another session that is still running, has no effect there
unless it is an `End` within the freshness window. -/
theorem earlier_frame_no_effect_iff
    {P : Primitives} (hsig : P.SignatureCorrect)
    {frames : Codec PeerMessage} (hround : frames.RoundTrip)
    {keys : Side → Keys} {side : Side}
    (hgenuine : (keys side.other).Genuine P)
    {first second : KeyType}
    (hauth : P.AeadAuthenticAmong
      (sessionMessageKeys P first ++ sessionMessageKeys P second))
    (hne : first ≠ second)
    (hkdf : HkdfSeparates P
      (sessionHkdfInputs P first ++ sessionHkdfInputs P second))
    {kind : TransportKind} {payload : P2PMessage}
    (hpayload : SessionPayload P
      (sessionSender P keys kind first side.other).sendKey payload)
    {timestamp : Int64} {bytes : Bytes}
    (hbytes : frame P frames payload (keys side.other).x25519Pub
      (keys side.other).ed25519Signing timestamp = some bytes)
    {before : List Delivery}
    (hlive : (recvLoop P frames (sessionReceiver P keys second side) .initial
      before).stopped = false)
    (now : Int64) (evtOpen : Bool) :
    NoEffectAfter P frames (sessionReceiver P keys second side) before
        ⟨bytes, now, evtOpen⟩ ↔
      ¬ (payload = .endOfConversation ∧
        frameIsFresh timestamp now = true) := by
  have hclosed := openedChat_of_earlier hsig hround hauth hgenuine hne hkdf
    hpayload hbytes now evtOpen
  rw [noEffectAfter_iff_of_unopened hclosed hlive,
    isFreshEnd_of_peer_iff hsig hround hgenuine hbytes now evtOpen]

/-! ## An `End` of the session before -/

/-- A frame which the right peer made in an earlier session, delivered ten
seconds later. -/
def sampleEarlierFrame (payload : P2PMessage) : Delivery where
  bytes := (frame .transparent transparentFrames payload
    (samplePair .right).x25519Pub (samplePair .right).ed25519Signing
    1000).getD []
  now := 1010
  evtOpen := true

theorem sample_sessions_separated :
    HkdfSeparates .transparent
      (sessionHkdfInputs .transparent (Vector.replicate 32 2) ++
        sessionHkdfInputs .transparent (Vector.replicate 32 9)) := by
  unfold HkdfSeparates
  decide

def sampleEarlierChat : P2PMessage :=
  .chatMessage 1 (encryptMessageForChat .transparent "hi"
    (sessionSender .transparent samplePair .direct (Vector.replicate 32 2)
      .right).sendKey 1)

theorem earlier_chat_no_effect :
    NoEffectAfter .transparent transparentFrames
      (sessionReceiver .transparent samplePair (Vector.replicate 32 9) .left)
      [] (sampleEarlierFrame sampleEarlierChat) := by
  refine (earlier_frame_no_effect_iff transparent_signatureCorrect
    transparentFrames_roundTrip (samplePair_genuine .right)
    (transparent_aeadAuthenticAmong _) (by decide) sample_sessions_separated
    (SessionPayload.chat 1 "hi") rfl rfl 1010 true).mpr ?_
  rintro ⟨hend, _⟩
  cases hend

/-- The fresh `End` of the earlier session closes the later one. -/
theorem earlier_end_closes_session :
    SessionPayload .transparent (sessionSender .transparent samplePair .direct
        (Vector.replicate 32 2) .right).sendKey .endOfConversation ∧
      frameIsFresh 1000 1010 = true ∧
      ¬ NoEffectAfter .transparent transparentFrames
        (sessionReceiver .transparent samplePair (Vector.replicate 32 9)
          .left) [] (sampleEarlierFrame .endOfConversation) := by
  have hfresh : frameIsFresh 1000 1010 = true := by decide
  refine ⟨.ended, hfresh, ?_⟩
  have hend : IsFreshEnd .transparent transparentFrames
      (sessionReceiver .transparent samplePair (Vector.replicate 32 9) .left)
      (sampleEarlierFrame .endOfConversation) :=
    (isFreshEnd_of_peer_iff transparent_signatureCorrect
      transparentFrames_roundTrip (samplePair_genuine .right) rfl 1010 true).mpr
      ⟨rfl, hfresh⟩
  rintro ⟨_, hrunning⟩
  rw [recvLoop_append rfl, handleInboundFrame_of_freshEnd hend] at hrunning
  simp at hrunning

end SechatClient
