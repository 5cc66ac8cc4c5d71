import SechatClient.RelayInvariant
import SechatClient.StepSystem

/-!
# Exactness of a relay conversation

The keys and the texts of two peers over the relay, for every run.  The runs
of the first section meet and then talk for any number of rounds; they show
that the conversation does take place, and where it stops being exact: the
64-bit counter wraps at the text number `2 ^ 63`.
-/

namespace SechatClient

open ByteStrings StepSystem

/-! ## A meeting and a talk

Both sides handshake at the same time.  Then the left one sends one text after
another and the right one takes each, until the counter is exhausted. -/

def meeting (now : Int64) : List RelayLabel :=
  [.start .left now, .start .right now, .handshakeRecv .left now,
    .handshakeRecv .right now]

def talkRound (now : Int64) : List RelayLabel :=
  [.send .left (.text "hi") now, .sessionRecv .right now true]

def talkRounds (now : Int64) : ℕ → List RelayLabel
  | 0 => []
  | rounds + 1 => talkRounds now rounds ++ talkRound now

def RelayPhase.isSending : RelayPhase → Bool
  | .session _ sending _ _ => sending
  | _ => false

def RelayPhase.isReceiving : RelayPhase → Bool
  | .session _ _ _ .running => true
  | _ => false

theorem RelayPhase.isSending_eq_true
    {phase : RelayPhase} (hphase : phase.isSending = true) :
    ∃ key recv receiving, phase = .session key true recv receiving := by
  cases phase with
  | session key sending recv receiving =>
      cases hphase
      exact ⟨key, recv, receiving, rfl⟩
  | idle => cases hphase
  | handshaking => cases hphase
  | failed => cases hphase

theorem RelayPhase.isReceiving_eq_true
    {phase : RelayPhase} (hphase : phase.isReceiving = true) :
    ∃ key sending recv, phase = .session key sending recv .running := by
  cases phase with
  | session key sending recv receiving =>
      cases receiving with
      | running => exact ⟨key, sending, recv, rfl⟩
      | ended => cases hphase
      | refused => cases hphase
  | idle => cases hphase
  | handshaking => cases hphase
  | failed => cases hphase

/-- The left side sends, the right side receives, and nothing is in transit
between them. -/
structure ReadyToTalk (state : RelayState) : Prop where
  left : (state .left).phase.isSending = true
  right : (state .right).phase.isReceiving = true
  drained : (state .left).send.sent = []

section Talk

variable {P : Primitives} {frames : Codec PeerMessage} {keys : Side → Keys}
  {ephs : Side → KeyType} {state : RelayState}

/-- The call which the send loop makes for its next text. -/
def SendState.nextCall (send : SendState) (text : String) : Int64 × String :=
  (send.counter + 1, text)

def callMessage (P : Primitives) (sendKey : KeyType) (call : Int64 × String) :
    P2PMessage :=
  .chatMessage call.1 (encryptMessageForChat P call.2 sendKey call.1.toUInt64)

variable (P keys ephs) in
theorem relayStep_send_text
    (hround : frames.RoundTrip) {side : Side} {key : KeyType}
    {recv : RecvState} {receiving : RecvPhase}
    (hphase : (state side).phase = .session key true recv receiving)
    (text : String) (now : Int64) :
    relayStep P frames keys ephs state (.send side (.text text) now) =
      some (Function.update state side
        ⟨⟨(state side).send.counter + 1,
            (state side).send.calls ++ [(state side).send.nextCall text],
            (state side).send.sealedUnder ++ [chatCipherInputs P
              (sessionSender P keys .relay key side).sendKey
              ((state side).send.nextCall text).1.toUInt64],
            (state side).send.sent ++ [itemBytes P frames (keys side)
              (callMessage P (sessionSender P keys .relay key side).sendKey
                ((state side).send.nextCall text), now)]⟩,
          .session key true recv receiving⟩) := by
  simp only [relayStep, hphase, sendStep, transmit_relay hround]
  rfl

variable (ephs) in
theorem relayStep_sessionRecv
    {side : Side} {key : KeyType} {sending : Bool} {recv : RecvState}
    (hphase : (state side).phase = .session key sending recv .running)
    {bytes : Bytes} {rest : List Bytes}
    (hsent : (state side.other).send.sent = bytes :: rest) (now : Int64)
    (evtOpen : Bool)
    (hgoesOn : (handleInboundFrame P frames (sessionReceiver P keys key side)
      recv ⟨bytes, now, evtOpen⟩).2 = true) :
    relayStep P frames keys ephs state (.sessionRecv side now evtOpen) =
      some (Function.update
        (Function.update state side.other ((state side.other).withSent rest))
        side { state side with
          phase := .session key sending (handleInboundFrame P frames
            (sessionReceiver P keys key side) recv
            ⟨bytes, now, evtOpen⟩).1 .running }) := by
  have hresult : handleInboundFrame P frames (sessionReceiver P keys key side)
      recv ⟨bytes, now, evtOpen⟩ = (_, true) := Prod.ext rfl hgoesOn
  simp only [relayStep, hphase, hsent]
  rw [hresult]
  rfl

variable (P keys ephs) in
theorem relayStep_start
    (hround : frames.RoundTrip) {side : Side}
    (hphase : (state side).phase = .idle) (now : Int64) :
    relayStep P frames keys ephs state (.start side now) =
      some (Function.update state side
        (RelayParty.withSent ⟨(state side).send, .handshaking⟩
          ((state side).send.sent ++ [itemBytes P frames (keys side)
            (.init (P.x25519Public (ephs side)), now)]))) := by
  simp only [relayStep, hphase, RelayParty.sendInit_eq hround]

theorem relayStep_handshakeRecv
    (hsig : P.SignatureCorrect) (hdh : P.DhCommutes)
    (hround : frames.RoundTrip) (hgenuine : ∀ side, (keys side).Genuine P)
    (hinv : RelayInvariant P frames keys ephs state) {side : Side}
    (hphase : (state side).phase = .handshaking) {bytes : Bytes}
    {rest : List Bytes}
    (hsent : (state side.other).send.sent = bytes :: rest) {now : Int64}
    (hfresh : freshAtHead frames (bytes :: rest) now = true) :
    relayStep P frames keys ephs state (.handshakeRecv side now) =
      some (Function.update
        (Function.update state side.other ((state side.other).withSent rest))
        side { state side with
          phase := .session (relayKey P ephs) true .initial .running }) := by
  simp only [relayStep, hphase, hsent, hinv.handshakeRecv_eq hsig hdh hround
    hgenuine hphase hsent hfresh]

def RelayState.pair (left right : RelayParty) : RelayState
  | .left => left
  | .right => right

theorem RelayState.eq_pair (state : RelayState) :
    state = .pair (state .left) (state .right) := by
  funext side
  cases side <;> rfl

def initBytes (P : Primitives) (frames : Codec PeerMessage)
    (keys : Side → Keys) (ephs : Side → KeyType) (side : Side) (now : Int64) :
    Bytes :=
  itemBytes P frames (keys side) (.init (P.x25519Public (ephs side)), now)

/-- A side whose `Init` was sent and not yet answered. -/
def RelayParty.waiting (P : Primitives) (frames : Codec PeerMessage)
    (keys : Side → Keys) (ephs : Side → KeyType) (side : Side) (now : Int64) :
    RelayParty :=
  ⟨⟨0, [], [], [initBytes P frames keys ephs side now]⟩, .handshaking⟩

/-- A side whose handshake returned. -/
def RelayParty.met (P : Primitives) (ephs : Side → KeyType) : RelayParty :=
  ⟨.initial, .session (relayKey P ephs) true .initial .running⟩

variable (ephs) in
theorem meeting_runs
    (hsig : P.SignatureCorrect) (hdh : P.DhCommutes) (haead : P.AeadCorrect)
    (hround : frames.RoundTrip) (hgenuine : ∀ side, (keys side).Genuine P)
    (hne : (keys .left).x25519Pub ≠ (keys .right).x25519Pub) {now : Int64}
    (hfresh : frameIsFresh now now = true) :
    runFrom (relayStep P frames keys ephs) .initial (meeting now) =
        some (.pair (.met P ephs) (.met P ephs)) ∧
      AllSteps (relayStep P frames keys ephs)
        (fun state label => takesFresh frames state label = true) .initial
        (meeting now) ∧
      RelayInvariant P frames keys ephs
        (.pair (.met P ephs) (.met P ephs)) := by
  have hhead : ∀ side, freshAtHead frames
      [initBytes P frames keys ephs side now] now = true := by
    intro side
    unfold initBytes
    rw [freshAtHead_itemBytes hround]
    exact hfresh
  have hkeep : ∀ {state next : RelayState} {label : RelayLabel},
      relayStep P frames keys ephs state label = some next →
      takesFresh frames state label = true →
      RelayInvariant P frames keys ephs state →
      RelayInvariant P frames keys ephs next := fun hstep hlabel hinv =>
    relayStep_invariant hsig hdh haead hround hgenuine hne hinv hlabel hstep
  have hinitial := RelayInvariant.initial P frames keys ephs
  have hstartLeft : relayStep P frames keys ephs .initial (.start .left now) =
      some (.pair (.waiting P frames keys ephs .left now) ⟨.initial, .idle⟩) := by
    rw [relayStep_start P keys ephs hround rfl,
      RelayState.eq_pair (Function.update _ _ _)]
    rfl
  have hstartRight : relayStep P frames keys ephs
      (.pair (.waiting P frames keys ephs .left now) ⟨.initial, .idle⟩)
      (.start .right now) =
        some (.pair (.waiting P frames keys ephs .left now)
          (.waiting P frames keys ephs .right now)) := by
    rw [relayStep_start P keys ephs hround rfl,
      RelayState.eq_pair (Function.update _ _ _)]
    rfl
  have hsecond := hkeep hstartRight rfl (hkeep hstartLeft rfl hinitial)
  have hleft : relayStep P frames keys ephs
      (.pair (.waiting P frames keys ephs .left now)
        (.waiting P frames keys ephs .right now)) (.handshakeRecv .left now) =
        some (.pair ((RelayParty.met P ephs).withSent
          [initBytes P frames keys ephs .left now])
          ⟨.initial, .handshaking⟩) := by
    rw [relayStep_handshakeRecv hsig hdh hround hgenuine hsecond rfl rfl
      (hhead .right), RelayState.eq_pair (Function.update _ _ _)]
    rfl
  have hthird := hkeep hleft (hhead .right) hsecond
  have hright : relayStep P frames keys ephs
      (.pair ((RelayParty.met P ephs).withSent
        [initBytes P frames keys ephs .left now]) ⟨.initial, .handshaking⟩)
      (.handshakeRecv .right now) =
        some (.pair (.met P ephs) (.met P ephs)) := by
    rw [relayStep_handshakeRecv hsig hdh hround hgenuine hthird rfl rfl
      (hhead .left), RelayState.eq_pair (Function.update _ _ _)]
    rfl
  refine ⟨?_, ?_, hkeep hright (hhead .left) hthird⟩
  · simp only [meeting, runFrom, hstartLeft, hstartRight, hleft, hright]
  · exact allSteps_cons rfl hstartLeft (allSteps_cons rfl hstartRight
      (allSteps_cons (hhead .right) hleft
        (allSteps_cons (hhead .left) hright trivial)))

theorem talkRound_runs
    (hsig : P.SignatureCorrect) (haead : P.AeadCorrect)
    (hround : frames.RoundTrip) (hgenuine : ∀ side, (keys side).Genuine P)
    (hne : (keys .left).x25519Pub ≠ (keys .right).x25519Pub)
    (hinv : RelayInvariant P frames keys ephs state)
    (hready : ReadyToTalk state) {now : Int64}
    (hfresh : frameIsFresh now now = true) :
    ∃ next,
      runFrom (relayStep P frames keys ephs) state (talkRound now) =
        some next ∧
      AllSteps (relayStep P frames keys ephs)
        (fun state label => takesFresh frames state label = true) state
        (talkRound now) ∧
      ReadyToTalk next ∧
      (next .left).takenTexts = (state .left).takenTexts ++ ["hi"] ∧
      (((state .left).send.counter + 1).toInt ≤
          (state .right).phase.received.1.lastCounter.toInt →
        (next .right).emittedTexts = (state .right).emittedTexts) := by
  obtain ⟨keyLeft, recvLeft, receiving, hleft⟩ :=
    RelayPhase.isSending_eq_true hready.left
  obtain ⟨keyRight, sending, recv, hright⟩ :=
    RelayPhase.isReceiving_eq_true hready.right
  have hkeyLeft : keyLeft = relayKey P ephs :=
    hinv.agreed .left keyLeft (by rw [hleft]; rfl)
  have hkeyRight : keyRight = relayKey P ephs :=
    hinv.agreed .right keyRight (by rw [hright]; rfl)
  subst hkeyLeft hkeyRight
  have hopen := openedChat_of_item hsig haead hround hgenuine hne .right
    (callMessage P (relaySendKey P keys ephs .left)
      ((state .left).send.nextCall "hi"), now) hfresh true rfl
  obtain ⟨hgoesOn, hdropped⟩ := handleInboundFrame_of_opened hopen rfl recv
  have hsend := relayStep_send_text P keys ephs hround hleft "hi" now
  rw [hready.drained, List.nil_append] at hsend
  generalize hparty : RelayParty.mk _ _ = party at hsend
  have hsent : (Function.update state .left party .left).send.sent =
      [itemBytes P frames (keys .left)
        (callMessage P (relaySendKey P keys ephs .left)
          ((state .left).send.nextCall "hi"), now)] := by
    rw [Function.update_self, ← hparty]
    rfl
  have hphase : (Function.update state .left party .right).phase =
      .session (relayKey P ephs) sending recv .running := by
    rw [Function.update_of_ne (by simp)]
    exact hright
  have hrecv := relayStep_sessionRecv ephs hphase hsent now true hgoesOn
  have htakes : takesFresh frames (Function.update state .left party)
      (.sessionRecv .right now true) = true := by
    change freshAtHead frames
      (Function.update state .left party .left).send.sent now = true
    rw [hsent, freshAtHead_itemBytes hround]
    exact hfresh
  refine ⟨_, runFrom_cons_eq_some.mpr ⟨_, hsend,
    runFrom_cons_eq_some.mpr ⟨_, hrecv, rfl⟩⟩,
    allSteps_cons rfl hsend (allSteps_cons htakes hrecv trivial), ?_, ?_, ?_⟩
  · constructor
    · rw [← hparty]
      rfl
    · rfl
    · rfl
  · rw [← hparty]
    simp [RelayParty.takenTexts, RelayParty.withSent, SendState.nextCall,
      Side.other]
  · intro hle
    rw [hright] at hle
    have hsame := hdropped hle
    unfold RelayParty.emittedTexts
    rw [Function.update_self, hright]
    exact congrArg RecvState.texts hsame

theorem talkRounds_run
    (hsig : P.SignatureCorrect) (hdh : P.DhCommutes) (haead : P.AeadCorrect)
    (hround : frames.RoundTrip) (hgenuine : ∀ side, (keys side).Genuine P)
    (hne : (keys .left).x25519Pub ≠ (keys .right).x25519Pub)
    (hinv : RelayInvariant P frames keys ephs state)
    (hready : ReadyToTalk state) {now : Int64}
    (hfresh : frameIsFresh now now = true) (rounds : ℕ) :
    ∃ next,
      runFrom (relayStep P frames keys ephs) state (talkRounds now rounds) =
        some next ∧
      AllSteps (relayStep P frames keys ephs)
        (fun state label => takesFresh frames state label = true) state
        (talkRounds now rounds) ∧
      RelayInvariant P frames keys ephs next ∧ ReadyToTalk next ∧
      (next .left).takenTexts.length =
        (state .left).takenTexts.length + rounds := by
  induction rounds with
  | zero => exact ⟨state, rfl, trivial, hinv, hready, rfl⟩
  | succ rounds ih =>
      obtain ⟨middle, hrun, hall, hmiddle, htalk, hlength⟩ := ih
      obtain ⟨next, hlast, hstep, hagain, htexts, _⟩ :=
        talkRound_runs hsig haead hround hgenuine hne hmiddle htalk hfresh
      have hnext : RelayInvariant P frames keys ephs next :=
        runFrom_invariant_of_allSteps (RelayInvariant P frames keys ephs)
          (fun _ _ _ hstate hlabel hmove => relayStep_invariant hsig hdh haead
            hround hgenuine hne hstate hlabel hmove) hmiddle hstep hlast
      refine ⟨next, runFrom_append_eq_some.mpr ⟨middle, hrun, hlast⟩,
        allSteps_append_intro hall hrun hstep, hnext, hagain, ?_⟩
      rw [htexts, List.length_append, hlength]
      rfl

/-- After `2 ^ 63 - 1` texts the counter wraps and the next text is taken for
an old one. -/
theorem talkRound_loses_text
    (hsig : P.SignatureCorrect) (haead : P.AeadCorrect)
    (hround : frames.RoundTrip) (hgenuine : ∀ side, (keys side).Genuine P)
    (hne : (keys .left).x25519Pub ≠ (keys .right).x25519Pub)
    (hinv : RelayInvariant P frames keys ephs state)
    (hready : ReadyToTalk state) {now : Int64}
    (hfresh : frameIsFresh now now = true)
    (hlength : (state .left).takenTexts.length + 1 = 2 ^ 63) :
    ∃ next,
      runFrom (relayStep P frames keys ephs) state (talkRound now) =
        some next ∧
      AllSteps (relayStep P frames keys ephs)
        (fun state label => takesFresh frames state label = true) state
        (talkRound now) ∧
      ReadyToTalk next ∧
      (next .right).emittedTexts ≠ (next .left).takenTexts := by
  obtain ⟨next, hrun, hall, hagain, htexts, hlost⟩ :=
    talkRound_runs hsig haead hround hgenuine hne hinv hready hfresh
  refine ⟨next, hrun, hall, hagain, ?_⟩
  have hwrapped : ((state .left).send.counter + 1).toInt ≤
      (state .right).phase.received.1.lastCounter.toInt := by
    obtain ⟨_, _, hcarries⟩ := hinv.carries .left
    have hcalls : (state .left).send.calls.length + 1 = 2 ^ 63 := by
      simpa [RelayParty.takenTexts] using hlength
    have hcounter : (state .left).send.counter + 1 = Int64.minValue := by
      rw [hcarries.numbered.counter_succ, hcalls]
      decide
    rw [hcounter]
    exact Int64.minValue_le_toInt _
  have hemitted : (state .right).emittedTexts = (state .left).takenTexts := by
    have hbound : (state .left).takenTexts.length < 2 ^ 63 := by omega
    obtain ⟨key, sending, recv, hright⟩ :=
      RelayPhase.isReceiving_eq_true hready.right
    refine (hinv.texts .right hbound).2 hready.drained ?_
    rw [hright]
    simp [RelayPhase.received]
  intro heq
  have hlengths := congrArg List.length heq
  rw [hlost hwrapped, htexts, hemitted, List.length_append] at hlengths
  simp at hlengths

end Talk

/-- Whatever the interleaving, both handshakes return the same key, and as
long as a side has taken fewer than `2 ^ 63` texts the other side emits them
in order, without a gap, and all of them once the channel is drained. -/
theorem relay_conversation_exact
    {P : Primitives} (hsig : P.SignatureCorrect) (hdh : P.DhCommutes)
    (haead : P.AeadCorrect) {frames : Codec PeerMessage}
    (hround : frames.RoundTrip) {keys : Side → Keys}
    (hgenuine : ∀ side, (keys side).Genuine P)
    (hne : (keys .left).x25519Pub ≠ (keys .right).x25519Pub)
    {ephs : Side → KeyType} {labels : List RelayLabel} {final : RelayState}
    (hfresh : AllSteps (relayStep P frames keys ephs)
      (fun state label => takesFresh frames state label = true) .initial
      labels)
    (hrun : runFrom (relayStep P frames keys ephs) .initial labels =
      some final) :
    (∀ keyLeft keyRight, (final .left).phase.key = some keyLeft →
      (final .right).phase.key = some keyRight → keyLeft = keyRight) ∧
    ∀ side, (final side.other).takenTexts.length < 2 ^ 63 →
      (final side).emittedTexts <+: (final side.other).takenTexts ∧
      ((final side.other).send.sent = [] →
        (final side).phase.received.2 ≠ .refused →
          (final side).emittedTexts = (final side.other).takenTexts) := by
  have hinv : RelayInvariant P frames keys ephs final :=
    runFrom_invariant_of_allSteps (RelayInvariant P frames keys ephs)
      (fun _ _ _ hstate hlabel hstep => relayStep_invariant hsig hdh haead
        hround hgenuine hne hstate hlabel hstep)
      (RelayInvariant.initial P frames keys ephs) hfresh hrun
  refine ⟨?_, fun side hbound => hinv.texts side hbound⟩
  intro keyLeft keyRight hleft hright
  rw [hinv.agreed .left keyLeft hleft, hinv.agreed .right keyRight hright]

def sampleEphs : Side → KeyType
  | .left => Vector.replicate 32 5
  | .right => Vector.replicate 32 6

theorem sample_conversation_exact :
    ∃ final key, runFrom (relayStep .transparent transparentFrames samplePair
          sampleEphs) .initial (meeting 1000 ++ talkRound 1000) = some final ∧
      (final .left).phase.key = some key ∧
      (final .right).phase.key = some key ∧
      (final .left).takenTexts = ["hi"] ∧
      (final .right).emittedTexts = ["hi"] := by
  have hnow : frameIsFresh 1000 1000 = true := by decide
  obtain ⟨hmeeting, hmet, hinv⟩ := meeting_runs sampleEphs
    transparent_signatureCorrect transparent_dhCommutes transparent_aeadCorrect
    transparentFrames_roundTrip samplePair_genuine samplePair_ne hnow
  obtain ⟨final, htalk, hall, hready, htaken, _⟩ := talkRound_runs
    transparent_signatureCorrect transparent_aeadCorrect
    transparentFrames_roundTrip samplePair_genuine samplePair_ne hinv
    ⟨rfl, rfl, rfl⟩ hnow
  have hrun := runFrom_append_eq_some.mpr ⟨_, hmeeting, htalk⟩
  obtain ⟨hagree, htexts⟩ := relay_conversation_exact
    transparent_signatureCorrect transparent_dhCommutes transparent_aeadCorrect
    transparentFrames_roundTrip samplePair_genuine samplePair_ne
    (allSteps_append_intro hmet hmeeting hall) hrun
  obtain ⟨keyLeft, _, _, hleft⟩ := RelayPhase.isSending_eq_true hready.left
  obtain ⟨keyRight, _, _, hright⟩ := RelayPhase.isReceiving_eq_true hready.right
  have hkeyLeft : (final .left).phase.key = some keyLeft := by
    rw [hleft]
    rfl
  have hkeyRight : (final .right).phase.key = some keyRight := by
    rw [hright]
    rfl
  have hsent : (final .left).takenTexts = ["hi"] := htaken
  have hbound : (final .left).takenTexts.length < 2 ^ 63 := by
    rw [hsent]
    decide
  have hemitted : (final .right).emittedTexts = (final .left).takenTexts := by
    refine (htexts .right hbound).2 hready.drained ?_
    rw [hright]
    simp [RelayPhase.received]
  refine ⟨final, keyLeft, hrun, hkeyLeft, ?_, hsent, hemitted.trans hsent⟩
  rw [hkeyRight, hagree keyLeft keyRight hkeyLeft hkeyRight]

theorem exhausted_counter_loses_text :
    ∃ final, runFrom (relayStep .transparent transparentFrames samplePair
          sampleEphs) .initial (meeting 1000 ++ talkRounds 1000 (2 ^ 63)) =
        some final ∧
      AllSteps (relayStep .transparent transparentFrames samplePair sampleEphs)
        (fun state label => takesFresh transparentFrames state label = true)
        .initial (meeting 1000 ++ talkRounds 1000 (2 ^ 63)) ∧
      (final .left).send.sent = [] ∧
      (final .right).phase.isReceiving = true ∧
      (final .right).emittedTexts ≠ (final .left).takenTexts := by
  have hnow : frameIsFresh 1000 1000 = true := by decide
  obtain ⟨hmeeting, hmet, hinv⟩ := meeting_runs sampleEphs
    transparent_signatureCorrect transparent_dhCommutes transparent_aeadCorrect
    transparentFrames_roundTrip samplePair_genuine samplePair_ne hnow
  obtain ⟨rounds, hrounds⟩ : ∃ rounds, 2 ^ 63 = rounds + 1 := ⟨2 ^ 63 - 1, rfl⟩
  obtain ⟨last, hrun, hall, hlast, hready, hlength⟩ := talkRounds_run
    transparent_signatureCorrect transparent_dhCommutes transparent_aeadCorrect
    transparentFrames_roundTrip samplePair_genuine samplePair_ne hinv
    ⟨rfl, rfl, rfl⟩ hnow rounds
  have hcount : (last .left).takenTexts.length + 1 = 2 ^ 63 := by
    rw [hlength, hrounds]
    exact congrArg (· + 1) (Nat.zero_add rounds)
  obtain ⟨final, hfinal, hstep, hdone, hlost⟩ := talkRound_loses_text
    transparent_signatureCorrect transparent_aeadCorrect
    transparentFrames_roundTrip samplePair_genuine samplePair_ne hlast hready
    hnow hcount
  have htalk : runFrom (relayStep .transparent transparentFrames samplePair
      sampleEphs) (.pair (.met .transparent sampleEphs)
        (.met .transparent sampleEphs)) (talkRounds 1000 (rounds + 1)) =
      some final := runFrom_append_eq_some.mpr ⟨last, hrun, hfinal⟩
  rw [hrounds]
  exact ⟨final, runFrom_append_eq_some.mpr ⟨_, hmeeting, htalk⟩,
    allSteps_append_intro hmet hmeeting (allSteps_append_intro hall hrun hstep),
    hdone.drained, hdone.right, hlost⟩

end SechatClient
