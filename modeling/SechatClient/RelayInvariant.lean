import SechatClient.RelayConversation

/-!
# Steps of a relay conversation

The invariant of the two channels and the two sessions.  A step of one side
either puts a frame on its own channel or takes the frame in front of the
other one; each of the two is one lemma about what a channel carries.
-/

namespace SechatClient

open ByteStrings

section Conversation

variable (P : Primitives) (frames : Codec PeerMessage) (keys : Side → Keys)
  (ephs : Side → KeyType)

/-- The key of the two ephemeral secrets. -/
def relayKey : KeyType :=
  deriveSessionKey P (ephs .left) (P.x25519Public (ephs .right))

theorem deriveSessionKey_eq_relayKey (hdh : P.DhCommutes) (side : Side) :
    deriveSessionKey P (ephs side) (P.x25519Public (ephs side.other)) =
      relayKey P ephs := by
  cases side with
  | left => rfl
  | right => exact deriveSessionKey_comm P hdh (ephs .right) (ephs .left)

def relaySendKey (side : Side) : KeyType :=
  (sessionSender P keys .relay (relayKey P ephs) side).sendKey

variable {P keys} in
theorem sessionReceiver_recvKey
    (hne : (keys .left).x25519Pub ≠ (keys .right).x25519Pub) (side : Side) :
    (sessionReceiver P keys (relayKey P ephs) side).recvKey =
      relaySendKey P keys ephs side.other :=
  (sessionSender_sendKey hne (relayKey P ephs) .relay side).symm

/-- The channel from one side carries its texts to the other. -/
def ChannelCarries (state : RelayState) (side : Side) : Prop :=
  ∃ items taken, RelayCarries P frames (keys side) (relaySendKey P keys ephs side)
    (ephs side) (state side).phase.isIdle (state side).send
    (state side.other).phase items taken

structure RelayInvariant (state : RelayState) : Prop where
  carries : ∀ side, ChannelCarries P frames keys ephs state side
  agreed : ∀ side key, (state side).phase.key = some key →
    key = relayKey P ephs

theorem RelayInvariant.initial :
    RelayInvariant P frames keys ephs .initial where
  carries := fun _ => ⟨[], 0, RelayCarries.initial⟩
  agreed := by
    intro side key hkey
    simp [RelayState.initial, RelayPhase.key] at hkey

variable {P frames keys ephs} {state : RelayState}

/-- One side sends a frame or moves on, without taking a frame. -/
theorem RelayInvariant.set_party
    (hinv : RelayInvariant P frames keys ephs state) (side : Side)
    {party : RelayParty}
    (hforward : ∀ items taken, RelayCarries P frames (keys side)
        (relaySendKey P keys ephs side) (ephs side) (state side).phase.isIdle
        (state side).send (state side.other).phase items taken →
      ∃ items, RelayCarries P frames (keys side)
        (relaySendKey P keys ephs side) (ephs side) party.phase.isIdle
        party.send (state side.other).phase items taken)
    (hkey : party.phase.key = (state side).phase.key)
    (hreceived : ∀ calls taken,
      ReceivedCalls calls taken (state side).phase.received →
        ReceivedCalls calls taken party.phase.received) :
    RelayInvariant P frames keys ephs (Function.update state side party) where
  carries := by
    intro other
    rcases Side.eq_or_eq_other side other with rfl | rfl
    · obtain ⟨items, taken, hcarries⟩ := hinv.carries other
      obtain ⟨next, hnext⟩ := hforward items taken hcarries
      refine ⟨next, taken, ?_⟩
      simpa using hnext
    · obtain ⟨items, taken, hcarries⟩ := hinv.carries side.other
      rw [Side.other_other] at hcarries
      refine ⟨items, taken, ?_⟩
      simpa using hcarries.of_phase (by rw [hkey]; exact id) hreceived
  agreed := by
    intro other key hother
    rcases Side.eq_or_eq_other side other with rfl | rfl
    · rw [Function.update_self, hkey] at hother
      exact hinv.agreed other key hother
    · rw [Function.update_of_ne (Side.other_ne side)] at hother
      exact hinv.agreed side.other key hother

/-- One side takes the frame in front of the channel from the other. -/
theorem RelayInvariant.take_frame
    (hinv : RelayInvariant P frames keys ephs state) (side : Side)
    {bytes : Bytes} {rest : List Bytes}
    (hsent : (state side.other).send.sent = bytes :: rest)
    {phase : RelayPhase} (hidle : phase.isIdle = (state side).phase.isIdle)
    (hagreed : phase.key = some (relayKey P ephs))
    (hbackward : ∀ item items taken,
      bytes = itemBytes P frames (keys side.other) item →
      RelayCarries P frames (keys side.other)
        (relaySendKey P keys ephs side.other) (ephs side.other)
        (state side.other).phase.isIdle (state side.other).send
        (state side).phase (item :: items) taken →
      ∃ taken, RelayCarries P frames (keys side.other)
        (relaySendKey P keys ephs side.other) (ephs side.other)
        (state side.other).phase.isIdle
        { (state side.other).send with
          sent := items.map (itemBytes P frames (keys side.other)) }
        phase items taken) :
    RelayInvariant P frames keys ephs
      (Function.update
        (Function.update state side.other ((state side.other).withSent rest))
        side { state side with phase := phase }) where
  carries := by
    intro other
    rcases Side.eq_or_eq_other side other with rfl | rfl
    · obtain ⟨items, taken, hcarries⟩ := hinv.carries other
      refine ⟨items, taken, ?_⟩
      simpa [RelayParty.withSent, hidle] using hcarries
    · obtain ⟨items, taken, hcarries⟩ := hinv.carries side.other
      rw [Side.other_other] at hcarries
      have hitems := hcarries.sent
      rw [hsent] at hitems
      cases items with
      | nil => cases hitems
      | cons item items =>
          obtain ⟨hbytes, hrest⟩ := List.cons.inj hitems
          obtain ⟨next, hnext⟩ := hbackward item items taken hbytes hcarries
          refine ⟨items, next, ?_⟩
          simpa [RelayParty.withSent, hrest] using hnext
  agreed := by
    intro other key hother
    rcases Side.eq_or_eq_other side other with rfl | rfl
    · rw [Function.update_self] at hother
      have heq : some key = some (relayKey P ephs) :=
        hother.symm.trans hagreed
      exact Option.some.inj heq
    · rw [Function.update_of_ne (Side.other_ne side),
        Function.update_self] at hother
      exact hinv.agreed side.other key hother

/-! ## The steps of one side -/

theorem RelayParty.sendInit_eq
    (hround : frames.RoundTrip) (side : Side) (now : Int64)
    (party : RelayParty) :
    party.sendInit P frames keys ephs side now =
      party.withSent (party.send.sent ++ [itemBytes P frames (keys side)
        (.init (P.x25519Public (ephs side)), now)]) := by
  unfold RelayParty.sendInit
  rw [frame_eq_itemBytes hround]

theorem transmit_relay
    (hround : frames.RoundTrip) (sessionKey : KeyType) (side : Side)
    (payload : P2PMessage) (now : Int64) (send : SendState) :
    transmit P frames (sessionSender P keys .relay sessionKey side)
        ⟨now, true⟩ payload send =
      ({ send with
        sent := send.sent ++ [itemBytes P frames (keys side)
          (payload, now)] }, true) := by
  simp only [transmit, sessionSender, frame_eq_itemBytes hround, if_true]

/-- A turn of the relay send loop puts one frame on the channel. -/
theorem sendStep_pushes
    (hround : frames.RoundTrip) (sessionKey : KeyType) (side : Side)
    {send : SendState} (hnumbered : send.Numbered) (outgoing : Outgoing)
    (now : Int64) :
    ∃ item calls,
      (sendStep P frames (sessionSender P keys .relay sessionKey side) send
        (outgoing, ⟨now, true⟩)).1.Numbered ∧
      (sendStep P frames (sessionSender P keys .relay sessionKey side) send
        (outgoing, ⟨now, true⟩)).1.sent =
          send.sent ++ [itemBytes P frames (keys side) item] ∧
      (sendStep P frames (sessionSender P keys .relay sessionKey side) send
        (outgoing, ⟨now, true⟩)).1.calls = send.calls ++ calls ∧
      item.1.chat.toList = calls.map (callChat P
        (sessionSender P keys .relay sessionKey side).sendKey) := by
  have hnext := sendStep_numbered P frames
    (sessionSender P keys .relay sessionKey side) hnumbered
    (outgoing, ⟨now, true⟩)
  cases outgoing with
  | text text =>
      refine ⟨(.chatMessage (send.counter + 1) _, now),
        [(send.counter + 1, text)], hnext, ?_, ?_, rfl⟩
      · simp only [sendStep, transmit_relay hround]
      · simp only [sendStep, transmit_relay hround]
  | closed =>
      refine ⟨(.endOfConversation, now), [], hnext, ?_, ?_, rfl⟩
      · simp only [sendStep, transmit_relay hround]
      · simp only [sendStep, transmit_relay hround, List.append_nil]
  | heartbeat =>
      refine ⟨(.heartBeat, now), [], hnext, ?_, ?_, rfl⟩
      · simp only [sendStep, transmit_relay hround]
      · simp only [sendStep, transmit_relay hround, List.append_nil]

/-- One `Init` more is in transit. -/
theorem RelayInvariant.send_init
    (hround : frames.RoundTrip)
    (hinv : RelayInvariant P frames keys ephs state) (side : Side)
    {phase : RelayPhase} (hidle : phase.isIdle = false)
    (hkey : phase.key = (state side).phase.key)
    (hreceived : phase.received = (state side).phase.received)
    (now : Int64) :
    RelayInvariant P frames keys ephs
      (Function.update state side (RelayParty.sendInit P frames keys ephs side
        now { state side with phase := phase })) := by
  rw [RelayParty.sendInit_eq hround]
  refine hinv.set_party side ?_ hkey ?_
  · intro items taken hcarries
    refine ⟨items ++ [(.init (P.x25519Public (ephs side)), now)], ?_⟩
    have hnumbered : ({ (state side).send with
        sent := (state side).send.sent ++ [itemBytes P frames (keys side)
          (.init (P.x25519Public (ephs side)), now)] } : SendState).Numbered :=
      hcarries.numbered.of_eq rfl rfl
    have hpush := hcarries.push hnumbered rfl (List.append_nil _).symm rfl
      (fun _ => rfl)
    simpa [RelayParty.withSent, hidle] using hpush
  · intro calls taken hcalls
    change ReceivedCalls calls taken phase.received
    rw [hreceived]
    exact hcalls

theorem RelayInvariant.send_outgoing
    (hround : frames.RoundTrip)
    (hinv : RelayInvariant P frames keys ephs state) {side : Side}
    {key : KeyType} {sending : Bool} {recv : RecvState} {receiving : RecvPhase}
    (hphase : (state side).phase = .session key sending recv receiving)
    (outgoing : Outgoing) (now : Int64) (goesOn : Bool) :
    RelayInvariant P frames keys ephs
      (Function.update state side
        ⟨(sendStep P frames (sessionSender P keys .relay key side)
            (state side).send (outgoing, ⟨now, true⟩)).1,
          .session key goesOn recv receiving⟩) := by
  have hkey : key = relayKey P ephs :=
    hinv.agreed side key (by rw [hphase]; rfl)
  subst hkey
  refine hinv.set_party side ?_ (by rw [hphase]; rfl) ?_
  · intro items taken hcarries
    obtain ⟨item, calls, hnumbered, hsent, hcalls, hchat⟩ :=
      sendStep_pushes hround (relayKey P ephs) side hcarries.numbered outgoing
        now
    refine ⟨items ++ [item], hcarries.push hnumbered hsent hcalls hchat ?_⟩
    intro hidle
    rw [hphase] at hidle
    cases hidle
  · intro calls taken hcalls
    rw [hphase] at hcalls
    exact hcalls

theorem freshAtHead_itemBytes
    (hround : frames.RoundTrip) (mine : Keys) (item : P2PMessage × Int64)
    (rest : List Bytes) (now : Int64) :
    freshAtHead frames (itemBytes P frames mine item :: rest) now =
      frameIsFresh item.2 now := by
  have hbytes : frame P frames item.1 mine.x25519Pub mine.ed25519Signing
      item.2 = some (itemBytes P frames mine item) :=
    frame_eq_itemBytes hround mine item.1 item.2
  have hslice := frame_fromSlice P hround hbytes
  simp only [freshAtHead, hslice, PeerMessage.new]

/-- The frame in front of a channel whose receiver still handshakes is an
`Init`, and the handshake takes it. -/
theorem RelayInvariant.handshakeRecv_eq
    (hsig : P.SignatureCorrect) (hdh : P.DhCommutes)
    (hround : frames.RoundTrip) (hgenuine : ∀ side, (keys side).Genuine P)
    (hinv : RelayInvariant P frames keys ephs state) {side : Side}
    (hphase : (state side).phase = .handshaking) {bytes : Bytes}
    {rest : List Bytes}
    (hsent : (state side.other).send.sent = bytes :: rest) {now : Int64}
    (hfresh : freshAtHead frames (bytes :: rest) now = true) :
    handshakeRecv P frames (keys side.other).publicPart (ephs side) now
      bytes = some (relayKey P ephs) := by
  obtain ⟨items, taken, hcarries⟩ := hinv.carries side.other
  rw [Side.other_other, hphase] at hcarries
  have hitems := hcarries.sent
  rw [hsent] at hitems
  rcases hcarries.first rfl with ⟨_, rfl⟩ | ⟨timestamp, tail, rfl⟩
  · cases hitems
  · obtain ⟨rfl, _⟩ := List.cons.inj hitems
    rw [freshAtHead_itemBytes hround] at hfresh
    have hbytes := frame_eq_itemBytes (P := P) hround (keys side.other)
      (.init (P.x25519Public (ephs side.other))) timestamp
    have hrecv := handshakeRecv_init P hsig hround hbytes hfresh (ephs side)
    rw [← (hgenuine side.other).ed25519,
      deriveSessionKey_eq_relayKey P ephs hdh] at hrecv
    exact hrecv

theorem RelayInvariant.handshake_returns
    (hinv : RelayInvariant P frames keys ephs state) {side : Side}
    (hphase : (state side).phase = .handshaking) {bytes : Bytes}
    {rest : List Bytes}
    (hsent : (state side.other).send.sent = bytes :: rest) :
    RelayInvariant P frames keys ephs
      (Function.update
        (Function.update state side.other ((state side.other).withSent rest))
        side { state side with
          phase := .session (relayKey P ephs) true .initial .running }) := by
  refine hinv.take_frame side hsent (by rw [hphase]; rfl) rfl ?_
  intro item items taken _ hcarries
  rw [hphase] at hcarries
  have hchat : item.1.chat = none := by
    rcases hcarries.first rfl with ⟨_, hnil⟩ | ⟨timestamp, tail, hcons⟩
    · cases hnil
    · cases hcons
      rfl
  refine ⟨taken, hcarries.pop hchat (by simp [RelayPhase.key]) ?_⟩
  intro calls taken hreceived
  exact hreceived

/-- The text of a frame from the other side opens. -/
theorem openedChat_of_item
    (hsig : P.SignatureCorrect) (haead : P.AeadCorrect)
    (hround : frames.RoundTrip) (hgenuine : ∀ side, (keys side).Genuine P)
    (hne : (keys .left).x25519Pub ≠ (keys .right).x25519Pub) (side : Side)
    (item : P2PMessage × Int64) {now : Int64}
    (hfresh : frameIsFresh item.2 now = true) (evtOpen : Bool)
    {call : Int64 × String}
    (hchat : item.1.chat =
      some (callChat P (relaySendKey P keys ephs side.other) call)) :
    openedChat P frames (sessionReceiver P keys (relayKey P ephs) side)
        ⟨itemBytes P frames (keys side.other) item, now, evtOpen⟩ =
      some ⟨call.1, call.2, item.2⟩ := by
  have hframe : genuineFrame P frames
      (sessionReceiver P keys (relayKey P ephs) side)
      ⟨itemBytes P frames (keys side.other) item, now, evtOpen⟩ = _ :=
    itemBytes_genuine hsig hround (hgenuine side.other) item rfl rfl hfresh
      evtOpen
  exact openedChat_of_callChat haead (sessionReceiver_recvKey ephs hne side)
    hframe hchat

/-- The receive loop takes the frame in front of the channel. -/
theorem RelayInvariant.session_takes
    (hsig : P.SignatureCorrect) (haead : P.AeadCorrect)
    (hround : frames.RoundTrip) (hgenuine : ∀ side, (keys side).Genuine P)
    (hne : (keys .left).x25519Pub ≠ (keys .right).x25519Pub)
    (hinv : RelayInvariant P frames keys ephs state) {side : Side}
    {key : KeyType} {sending : Bool} {recv : RecvState}
    (hphase : (state side).phase = .session key sending recv .running)
    {bytes : Bytes} {rest : List Bytes}
    (hsent : (state side.other).send.sent = bytes :: rest) {now : Int64}
    (hfresh : freshAtHead frames (bytes :: rest) now = true)
    (evtOpen : Bool) :
    RelayInvariant P frames keys ephs
      (Function.update
        (Function.update state side.other ((state side.other).withSent rest))
        side { state side with
          phase := .session key sending
            (RecvState.afterFrame evtOpen (handleInboundFrame P frames
              (sessionReceiver P keys key side) recv
              ⟨bytes, now, evtOpen⟩)).1
            (RecvState.afterFrame evtOpen (handleInboundFrame P frames
              (sessionReceiver P keys key side) recv
              ⟨bytes, now, evtOpen⟩)).2 }) := by
  have hkey : key = relayKey P ephs :=
    hinv.agreed side key (by rw [hphase]; rfl)
  subst hkey
  refine hinv.take_frame side hsent (by rw [hphase]; rfl) rfl ?_
  rintro item items taken rfl hcarries
  rw [hphase] at hcarries
  rw [freshAtHead_itemBytes hround] at hfresh
  cases hchat : item.1.chat with
  | none =>
      have hframe : genuineFrame P frames
          (sessionReceiver P keys (relayKey P ephs) side)
          ⟨itemBytes P frames (keys side.other) item, now, evtOpen⟩ = _ :=
        itemBytes_genuine hsig hround (hgenuine side.other) item rfl rfl hfresh
          evtOpen
      have hopen := openedChat_of_genuineFrame hframe hchat
      have hsame := handleInboundFrame_of_unopened hopen recv
      refine ⟨taken, hcarries.pop hchat (by simp [RelayPhase.key]) ?_⟩
      intro calls taken hreceived
      refine hreceived.of_eq ?_ ?_ (by simp [RelayPhase.received])
      · simp [RelayPhase.received, hsame]
      · simp [RelayPhase.received, hsame]
  | some chat =>
      obtain ⟨call, hcall, rfl, _⟩ := hcarries.head_chat hchat
      refine ⟨taken + 1, hcarries.pop_chat hchat (by simp [RelayPhase.key]) ?_⟩
      intro hbound
      have hopen := openedChat_of_item hsig haead hround hgenuine hne side item
        hfresh evtOpen hchat
      exact (hcarries.received hbound).take hcarries.numbered hbound hcall
        hopen

theorem RelayInvariant.set_phase
    (hinv : RelayInvariant P frames keys ephs state) (side : Side)
    {phase : RelayPhase} (hidle : phase.isIdle = (state side).phase.isIdle)
    (hkey : phase.key = (state side).phase.key)
    (hlast : phase.received.1.lastCounter =
      (state side).phase.received.1.lastCounter)
    (htexts : phase.received.1.texts = (state side).phase.received.1.texts)
    (hrefused : (state side).phase.received.2 ≠ .refused) :
    RelayInvariant P frames keys ephs
      (Function.update state side { state side with phase := phase }) := by
  refine hinv.set_party side ?_ hkey ?_
  · intro items taken hcarries
    exact ⟨items, by simpa [hidle] using hcarries⟩
  · intro calls taken hreceived
    exact hreceived.of_eq hlast htexts hrefused

theorem relayStep_invariant
    (hsig : P.SignatureCorrect) (hdh : P.DhCommutes) (haead : P.AeadCorrect)
    (hround : frames.RoundTrip) (hgenuine : ∀ side, (keys side).Genuine P)
    (hne : (keys .left).x25519Pub ≠ (keys .right).x25519Pub)
    {next : RelayState} {label : RelayLabel}
    (hinv : RelayInvariant P frames keys ephs state)
    (hfresh : takesFresh frames state label = true)
    (hstep : relayStep P frames keys ephs state label = some next) :
    RelayInvariant P frames keys ephs next := by
  cases label with
  | start side now =>
      simp only [relayStep] at hstep
      split at hstep
      next hphase =>
        cases hstep
        exact hinv.send_init hround side rfl (by rw [hphase]; rfl)
          (by rw [hphase]; rfl) now
      next => contradiction
  | resend side now =>
      simp only [relayStep] at hstep
      split at hstep
      next hphase =>
        cases hstep
        exact hinv.send_init hround side (by rw [hphase]; rfl) rfl rfl now
      next => contradiction
  | handshakeRecv side now =>
      simp only [relayStep] at hstep
      split at hstep
      next bytes rest hphase hsent =>
        have hhead : freshAtHead frames (bytes :: rest) now = true := by
          rw [← hsent]
          exact hfresh
        rw [hinv.handshakeRecv_eq hsig hdh hround hgenuine hphase hsent
          hhead] at hstep
        cases hstep
        exact hinv.handshake_returns hphase hsent
      next => contradiction
  | deadline side =>
      simp only [relayStep] at hstep
      split at hstep
      next hphase =>
        cases hstep
        refine hinv.set_phase side ?_ ?_ ?_ ?_ ?_ <;> rw [hphase]
        · rfl
        · rfl
        · rfl
        · rfl
        · simp [RelayPhase.received]
      next => contradiction
  | send side outgoing now =>
      simp only [relayStep] at hstep
      split at hstep
      next key recv receiving hphase =>
        cases hstep
        exact hinv.send_outgoing hround hphase outgoing now _
      next => contradiction
  | sessionRecv side now evtOpen =>
      simp only [relayStep] at hstep
      split at hstep
      next key sending recv bytes rest hphase hsent =>
        have hhead : freshAtHead frames (bytes :: rest) now = true := by
          rw [← hsent]
          exact hfresh
        cases hstep
        exact hinv.session_takes hsig haead hround hgenuine hne hphase hsent
          hhead evtOpen
      next => contradiction
  | idleTimeout side evtOpen =>
      simp only [relayStep] at hstep
      split at hstep
      next key sending recv hphase =>
        cases hstep
        refine hinv.set_phase side ?_ ?_ ?_ ?_ ?_ <;> rw [hphase]
        · rfl
        · rfl
        · exact recv.close_lastCounter evtOpen
        · exact recv.close_texts evtOpen
        · simp [RelayPhase.received]
      next => contradiction

/-- What was emitted is a prefix of what was taken, and all of it once the
channel is drained. -/
theorem RelayInvariant.texts
    (hinv : RelayInvariant P frames keys ephs state) (side : Side)
    (hbound : (state side.other).takenTexts.length < 2 ^ 63) :
    (state side).emittedTexts <+: (state side.other).takenTexts ∧
      ((state side.other).send.sent = [] →
        (state side).phase.received.2 ≠ .refused →
          (state side).emittedTexts = (state side.other).takenTexts) := by
  obtain ⟨items, taken, hcarries⟩ := hinv.carries side.other
  rw [Side.other_other] at hcarries
  have hreceived := hcarries.received
    (by simpa [RelayParty.takenTexts] using hbound)
  refine ⟨hreceived.texts, ?_⟩
  intro hdrained hrefused
  have hitems : items = [] := by
    have hsent := hcarries.sent
    rw [hdrained] at hsent
    exact List.map_eq_nil_iff.mp hsent.symm
  have hdrop : (state side.other).send.calls.drop taken = [] := by
    have hchats := hcarries.chats
    rw [hitems] at hchats
    exact List.map_eq_nil_iff.mp hchats.symm
  have htake : (state side.other).send.calls.take taken =
      (state side.other).send.calls := by
    rw [← List.take_append_drop taken (state side.other).send.calls, hdrop]
    simp
  have hcomplete := hreceived.complete hrefused
  rw [htake] at hcomplete
  exact hcomplete

end Conversation

end SechatClient
