import SechatClient.Datagrams
import SechatClient.SessionSafety

/-!
# A conversation over a reliable relay

Two peers run `relay_handshake` and then `start_session` on a pair of FIFO
channels which lose nothing.  The steps of the two interleave in any way: one
peer may already send texts while the other still handshakes, and its `Init`
frames may arrive after the first one was taken.

What a channel carries is described by the frames in transit: an `Init` comes
first as long as the receiver has no session, and the chat frames among them
are the texts which the receiver has not taken yet.
-/

namespace SechatClient

open ByteStrings

/-- The receive loop runs, has ended, or was stopped by a frame which it read
after the application dropped its event receiver. -/
inductive RecvPhase where
  | running
  | ended
  | refused
  deriving DecidableEq

inductive RelayPhase where
  | idle
  | handshaking
  | failed
  | session (key : KeyType) (sending : Bool) (recv : RecvState)
      (receiving : RecvPhase)

/-- A peer; `send.sent` holds the frames in transit to the other one. -/
structure RelayParty where
  send : SendState
  phase : RelayPhase

abbrev RelayState := Side → RelayParty

def RelayState.initial : RelayState := fun _ => ⟨.initial, .idle⟩

inductive RelayLabel where
  /-- `relay_handshake` is called and sends its first `Init`. -/
  | start (side : Side) (now : Int64)
  | resend (side : Side) (now : Int64)
  | handshakeRecv (side : Side) (now : Int64)
  /-- `relay_handshake` returns an error. -/
  | deadline (side : Side)
  | send (side : Side) (outgoing : Outgoing) (now : Int64)
  | sessionRecv (side : Side) (now : Int64) (evtOpen : Bool)
  /-- The receive loop heard nothing for 45 seconds. -/
  | idleTimeout (side : Side) (evtOpen : Bool)

/-- The receive loop announces its end to the application. -/
def RecvState.close (recv : RecvState) (evtOpen : Bool) : RecvState :=
  if evtOpen then { recv with emitted := recv.emitted ++ [.closed] } else recv

/-- The loop goes on after a frame, or ends. -/
def RecvState.afterFrame (evtOpen : Bool) :
    RecvState × Bool → RecvState × RecvPhase
  | (recv, true) => (recv, .running)
  | (recv, false) =>
      (recv.close evtOpen, if evtOpen then .ended else .refused)

def RelayParty.withSent (party : RelayParty) (sent : List Bytes) :
    RelayParty :=
  { party with send := { party.send with sent := sent } }

section Steps

variable (P : Primitives) (frames : Codec PeerMessage) (keys : Side → Keys)
  (ephs : Side → KeyType)

/-- The receiver which `start_session` sets up on one side. -/
def sessionReceiver (sessionKey : KeyType) (side : Side) : Receiver where
  recvKey := (sessionKeys P sessionKey
    (amIFirst (keys side).x25519Pub (keys side.other).x25519Pub)).2
  peerX := (keys side.other).x25519Pub
  verifying := (keys side.other).ed25519Verifying

variable {P keys} in
/-- One side sends under the key which the other receives under. -/
theorem sessionSender_sendKey
    (hne : (keys .left).x25519Pub ≠ (keys .right).x25519Pub)
    (sessionKey : KeyType) (kind : TransportKind) (side : Side) :
    (sessionSender P keys kind sessionKey side.other).sendKey =
      (sessionReceiver P keys sessionKey side).recvKey := by
  have hsides : (keys side).x25519Pub ≠ (keys side.other).x25519Pub := by
    cases side with
    | left => exact hne
    | right => exact hne.symm
  rw [sessionSender, sessionReceiver, Side.other_other, amIFirst_swap hsides,
    sessionKeys_swap]

def RelayParty.sendInit (side : Side) (now : Int64) (party : RelayParty) :
    RelayParty :=
  match frame P frames (.init (P.x25519Public (ephs side)))
      (keys side).x25519Pub (keys side).ed25519Signing now with
  | none => party
  | some bytes => party.withSent (party.send.sent ++ [bytes])

def relayStep (state : RelayState) : RelayLabel → Option RelayState
  | .start side now =>
      match (state side).phase with
      | .idle =>
          some (Function.update state side (RelayParty.sendInit P frames keys
            ephs side now { state side with phase := .handshaking }))
      | _ => none
  | .resend side now =>
      match (state side).phase with
      | .handshaking =>
          some (Function.update state side
            ((state side).sendInit P frames keys ephs side now))
      | _ => none
  | .handshakeRecv side now =>
      match (state side).phase, (state side.other).send.sent with
      | .handshaking, bytes :: rest =>
          let popped := Function.update state side.other
            ((state side.other).withSent rest)
          match handshakeRecv P frames (keys side.other).publicPart (ephs side)
              now bytes with
          | none => some popped
          | some key =>
              some (Function.update popped side
                { state side with
                  phase := .session key true .initial .running })
      | _, _ => none
  | .deadline side =>
      match (state side).phase with
      | .handshaking =>
          some (Function.update state side
            { state side with phase := .failed })
      | _ => none
  | .send side outgoing now =>
      match (state side).phase with
      | .session key true recv receiving =>
          let result := sendStep P frames (sessionSender P keys .relay key side)
            (state side).send (outgoing, ⟨now, true⟩)
          some (Function.update state side
            ⟨result.1, .session key result.2 recv receiving⟩)
      | _ => none
  | .sessionRecv side now evtOpen =>
      match (state side).phase, (state side.other).send.sent with
      | .session key sending recv .running, bytes :: rest =>
          let popped := Function.update state side.other
            ((state side.other).withSent rest)
          let result := RecvState.afterFrame evtOpen
            (handleInboundFrame P frames (sessionReceiver P keys key side) recv
              ⟨bytes, now, evtOpen⟩)
          some (Function.update popped side
            { state side with
              phase := .session key sending result.1 result.2 })
      | _, _ => none
  | .idleTimeout side evtOpen =>
      match (state side).phase with
      | .session key sending recv .running =>
          some (Function.update state side
            { state side with
              phase := .session key sending (recv.close evtOpen) .ended })
      | _ => none

/-- The frame in front of a channel is within the freshness window. -/
def freshAtHead : List Bytes → Int64 → Bool
  | [], _ => true
  | bytes :: _, now =>
      match frames.fromSlice bytes with
      | .error _ => true
      | .ok msg => frameIsFresh msg.timestamp now

/-- Every frame that is taken from a channel is fresh. -/
def takesFresh (state : RelayState) : RelayLabel → Bool
  | .handshakeRecv side now =>
      freshAtHead frames (state side.other).send.sent now
  | .sessionRecv side now _ =>
      freshAtHead frames (state side.other).send.sent now
  | _ => true

end Steps

/-! ## What is observed -/

/-- The key which `relay_handshake` returned. -/
def RelayPhase.key : RelayPhase → Option KeyType
  | .session key _ _ _ => some key
  | _ => none

/-- The receive loop and how it stands; before the session there is none. -/
def RelayPhase.received : RelayPhase → RecvState × RecvPhase
  | .session _ _ recv receiving => (recv, receiving)
  | _ => (.initial, .running)

def RecvState.texts (recv : RecvState) : List String :=
  recv.emitted.filterMap SessionEvent.text

/-- The texts which the peer emitted as `SessionEvent::Message`. -/
def RelayParty.emittedTexts (party : RelayParty) : List String :=
  party.phase.received.1.texts

/-- The texts which the peer took from its outbound channel. -/
def RelayParty.takenTexts (party : RelayParty) : List String :=
  party.send.calls.map Prod.snd

@[simp] theorem RecvState.close_texts (recv : RecvState) (evtOpen : Bool) :
    (recv.close evtOpen).texts = recv.texts := by
  cases evtOpen <;> simp [RecvState.close, RecvState.texts, SessionEvent.text]

@[simp] theorem RecvState.close_lastCounter
    (recv : RecvState) (evtOpen : Bool) :
    (recv.close evtOpen).lastCounter = recv.lastCounter := by
  cases evtOpen <;> rfl

@[simp] theorem RecvState.afterFrame_texts
    (evtOpen : Bool) (result : RecvState × Bool) :
    (RecvState.afterFrame evtOpen result).1.texts = result.1.texts := by
  obtain ⟨recv, goesOn⟩ := result
  cases goesOn <;> simp [RecvState.afterFrame]

@[simp] theorem RecvState.afterFrame_lastCounter
    (evtOpen : Bool) (result : RecvState × Bool) :
    (RecvState.afterFrame evtOpen result).1.lastCounter =
      result.1.lastCounter := by
  obtain ⟨recv, goesOn⟩ := result
  cases goesOn <;> simp [RecvState.afterFrame]

/-! ## What a channel carries -/

def RelayPhase.isIdle : RelayPhase → Bool
  | .idle => true
  | _ => false

def P2PMessage.chat : P2PMessage → Option (Int64 × Bytes)
  | .chatMessage counter messageBytes => some (counter, messageBytes)
  | _ => none

section Channel

variable (P : Primitives) (frames : Codec PeerMessage)

def itemBytes (mine : Keys) (item : P2PMessage × Int64) : Bytes :=
  frames.bytesOf (PeerMessage.new P item.1 mine.x25519Pub mine.ed25519Signing
    item.2)

/-- The chat payload of a call of the send loop. -/
def callChat (sendKey : KeyType) (call : Int64 × String) : Int64 × Bytes :=
  (call.1, encryptMessageForChat P call.2 sendKey call.1.toUInt64)

/-- How far the receive loop has come after `taken` chat frames. -/
structure ReceivedCalls (calls : List (Int64 × String)) (taken : ℕ)
    (received : RecvState × RecvPhase) : Prop where
  lastCounter : received.1.lastCounter =
    if taken = 0 then -1 else Int64.ofNat taken
  texts : received.1.texts <+: calls.map Prod.snd
  complete : received.2 ≠ .refused →
    received.1.texts = (calls.take taken).map Prod.snd

/-- The channel carries `items`, after the receiver took `taken` chat frames
from it.  The arguments are the keys of its sender, whether the sender is
still idle, its send loop, and the phase of the receiver. -/
structure RelayCarries (mine : Keys) (sendKey ephPriv : KeyType) (idle : Bool)
    (send : SendState) (phase : RelayPhase)
    (items : List (P2PMessage × Int64)) (taken : ℕ) : Prop where
  numbered : send.Numbered
  sent : send.sent = items.map (itemBytes P frames mine)
  first : phase.key = none → (idle = true ∧ items = []) ∨
    ∃ timestamp rest,
      items = (.init (P.x25519Public ephPriv), timestamp) :: rest
  taken_le : taken ≤ send.calls.length
  chats : items.filterMap (fun item => item.1.chat) =
    (send.calls.drop taken).map (callChat P sendKey)
  received : send.calls.length < 2 ^ 63 →
    ReceivedCalls send.calls taken phase.received

variable {P frames} {mine : Keys} {sendKey ephPriv : KeyType} {idle : Bool}
  {send : SendState} {phase : RelayPhase}
  {items : List (P2PMessage × Int64)} {taken : ℕ}

theorem RelayCarries.initial :
    RelayCarries P frames mine sendKey ephPriv true .initial .idle [] 0 where
  numbered := SendState.initial_numbered
  sent := rfl
  first := fun _ => Or.inl ⟨rfl, rfl⟩
  taken_le := Nat.le_refl 0
  chats := rfl
  received := fun _ => ⟨rfl, List.prefix_refl _, fun _ => rfl⟩

/-- More calls do not change what was received of the earlier ones. -/
theorem ReceivedCalls.append
    {calls : List (Int64 × String)} {received : RecvState × RecvPhase}
    (hreceived : ReceivedCalls calls taken received)
    (hle : taken ≤ calls.length) (more : List (Int64 × String)) :
    ReceivedCalls (calls ++ more) taken received where
  lastCounter := hreceived.lastCounter
  texts := by
    rw [List.map_append]
    exact hreceived.texts.trans (List.prefix_append _ _)
  complete := by
    rw [List.take_append_of_le_length hle]
    exact hreceived.complete

theorem ReceivedCalls.of_eq
    {calls : List (Int64 × String)} {received next : RecvState × RecvPhase}
    (hreceived : ReceivedCalls calls taken received)
    (hlast : next.1.lastCounter = received.1.lastCounter)
    (htexts : next.1.texts = received.1.texts)
    (hrefused : received.2 ≠ .refused) :
    ReceivedCalls calls taken next where
  lastCounter := hlast.trans hreceived.lastCounter
  texts := by
    rw [htexts]
    exact hreceived.texts
  complete := by
    intro _
    rw [htexts]
    exact hreceived.complete hrefused

/-- A frame enters the channel; `calls` are the texts which it carries. -/
theorem RelayCarries.push
    (hcarries : RelayCarries P frames mine sendKey ephPriv idle send phase
      items taken)
    {next : SendState} (hnumbered : next.Numbered)
    {item : P2PMessage × Int64} {calls : List (Int64 × String)}
    (hsent : next.sent = send.sent ++ [itemBytes P frames mine item])
    (hcalls : next.calls = send.calls ++ calls)
    (hchat : item.1.chat.toList = calls.map (callChat P sendKey))
    (hfirst : idle = true → item.1 = .init (P.x25519Public ephPriv)) :
    RelayCarries P frames mine sendKey ephPriv false next phase
      (items ++ [item]) taken where
  numbered := hnumbered
  sent := by
    rw [hsent, hcarries.sent, List.map_append]
    rfl
  first := by
    intro hkey
    right
    rcases hcarries.first hkey with ⟨hidle, rfl⟩ | ⟨timestamp, rest, rfl⟩
    · obtain ⟨payload, timestamp⟩ := item
      have hpayload : payload = _ := hfirst hidle
      exact ⟨timestamp, [], by rw [hpayload]; rfl⟩
    · exact ⟨timestamp, rest ++ [item], rfl⟩
  taken_le := by
    rw [hcalls, List.length_append]
    exact Nat.le_add_right_of_le hcarries.taken_le
  chats := by
    have hitem : [item].filterMap (fun item => item.1.chat) =
        item.1.chat.toList := by
      cases hpayload : item.1.chat <;> simp [hpayload]
    rw [hcalls, List.filterMap_append, hcarries.chats, hitem, hchat,
      List.drop_append_of_le_length hcarries.taken_le, List.map_append]
  received := by
    intro hbound
    rw [hcalls, List.length_append] at hbound
    rw [hcalls]
    exact (hcarries.received (by omega)).append hcarries.taken_le calls

/-- The receiver moves without taking a frame. -/
theorem RelayCarries.of_phase
    (hcarries : RelayCarries P frames mine sendKey ephPriv idle send phase
      items taken)
    {next : RelayPhase} (hkey : next.key = none → phase.key = none)
    (hreceived : ∀ calls taken, ReceivedCalls calls taken phase.received →
      ReceivedCalls calls taken next.received) :
    RelayCarries P frames mine sendKey ephPriv idle send next items taken where
  numbered := hcarries.numbered
  sent := hcarries.sent
  first := fun hnext => hcarries.first (hkey hnext)
  taken_le := hcarries.taken_le
  chats := hcarries.chats
  received := fun hbound => hreceived _ _ (hcarries.received hbound)

/-- The receiver takes a frame that carries no text. -/
theorem RelayCarries.pop
    {item : P2PMessage × Int64} {rest : List (P2PMessage × Int64)}
    (hcarries : RelayCarries P frames mine sendKey ephPriv idle send phase
      (item :: rest) taken)
    (hchat : item.1.chat = none) {next : RelayPhase}
    (hkey : next.key ≠ none)
    (hreceived : ∀ calls taken, ReceivedCalls calls taken phase.received →
      ReceivedCalls calls taken next.received) :
    RelayCarries P frames mine sendKey ephPriv idle
      { send with sent := rest.map (itemBytes P frames mine) } next rest
      taken where
  numbered := hcarries.numbered.of_eq rfl rfl
  sent := rfl
  first := fun hnone => absurd hnone hkey
  taken_le := hcarries.taken_le
  chats := by
    have hchats := hcarries.chats
    simpa [List.filterMap_cons, hchat] using hchats
  received := fun hbound => hreceived _ _ (hcarries.received hbound)

/-- A chat frame in front is the next text that was not taken. -/
theorem RelayCarries.head_chat
    {item : P2PMessage × Int64} {rest : List (P2PMessage × Int64)}
    (hcarries : RelayCarries P frames mine sendKey ephPriv idle send phase
      (item :: rest) taken)
    {chat : Int64 × Bytes} (hchat : item.1.chat = some chat) :
    ∃ call, send.calls[taken]? = some call ∧
      chat = callChat P sendKey call ∧
      rest.filterMap (fun item => item.1.chat) =
        (send.calls.drop (taken + 1)).map (callChat P sendKey) := by
  have hchats := hcarries.chats
  rw [List.filterMap_cons, hchat] at hchats
  cases hdrop : send.calls.drop taken with
  | nil => simp [hdrop] at hchats
  | cons call more =>
      rw [hdrop, List.map_cons] at hchats
      obtain ⟨rfl, hrest⟩ := List.cons.inj hchats
      have hcall : send.calls[taken]? = some call := by
        rw [← List.head?_drop, hdrop]
        rfl
      have hmore : send.calls.drop (taken + 1) = more := by
        rw [← List.drop_drop, hdrop]
        rfl
      exact ⟨call, hcall, rfl, by rw [hmore]; exact hrest⟩

theorem RelayCarries.pop_chat
    {item : P2PMessage × Int64} {rest : List (P2PMessage × Int64)}
    (hcarries : RelayCarries P frames mine sendKey ephPriv idle send phase
      (item :: rest) taken)
    {chat : Int64 × Bytes} (hchat : item.1.chat = some chat)
    {next : RelayPhase} (hkey : next.key ≠ none)
    (hreceived : send.calls.length < 2 ^ 63 →
      ReceivedCalls send.calls (taken + 1) next.received) :
    RelayCarries P frames mine sendKey ephPriv idle
      { send with sent := rest.map (itemBytes P frames mine) } next rest
      (taken + 1) := by
  obtain ⟨call, hcall, _, hrest⟩ := hcarries.head_chat hchat
  have hlt := (List.getElem?_eq_some_iff.mp hcall).1
  exact
    { numbered := hcarries.numbered.of_eq rfl rfl
      sent := rfl
      first := fun hnone => absurd hnone hkey
      taken_le := hlt
      chats := hrest
      received := hreceived }

theorem SendState.Numbered.counter_of_call
    (hnumbered : send.Numbered) {index : ℕ} {call : Int64 × String}
    (hcall : send.calls[index]? = some call) :
    call.1 = Int64.ofNat (index + 1) := by
  have hlt := (List.getElem?_eq_some_iff.mp hcall).1
  have hcounter := congrArg (fun counters => counters[index]?) hnumbered.calls
  simpa [List.getElem?_map, hcall, List.getElem?_range hlt] using hcounter

/-! ## One chat frame at the receive loop -/

theorem frame_eq_itemBytes
    (hround : frames.RoundTrip) (mine : Keys) (payload : P2PMessage)
    (now : Int64) :
    frame P frames payload mine.x25519Pub mine.ed25519Signing now =
      some (itemBytes P frames mine (payload, now)) := by
  unfold frame itemBytes
  rw [hround.toVec_eq]
  rfl

theorem itemBytes_genuine
    (hsig : P.SignatureCorrect) (hround : frames.RoundTrip)
    (hmine : mine.Genuine P) (item : P2PMessage × Int64) {receiver : Receiver}
    (hpeer : receiver.peerX = mine.x25519Pub)
    (hverifying : receiver.verifying = mine.ed25519Verifying)
    {now : Int64} (hfresh : frameIsFresh item.2 now = true) (evtOpen : Bool) :
    genuineFrame P frames receiver
        ⟨itemBytes P frames mine item, now, evtOpen⟩ =
      some (PeerMessage.new P item.1 mine.x25519Pub mine.ed25519Signing
        item.2) := by
  have hbytes : frame P frames item.1 mine.x25519Pub mine.ed25519Signing
      item.2 = some (itemBytes P frames mine item) :=
    frame_eq_itemBytes hround mine item.1 item.2
  obtain ⟨recvKey, peerX, verifying⟩ := receiver
  simp only at hpeer hverifying
  rw [hpeer, hverifying, hmine.ed25519]
  exact genuineFrame_new hsig hround mine.ed25519Signing hbytes hfresh evtOpen

theorem openedChat_of_genuineFrame
    {receiver : Receiver} {delivery : Delivery} {pm : PeerMessage}
    (hgenuine : genuineFrame P frames receiver delivery = some pm)
    (hchat : pm.payload.chat = none) :
    openedChat P frames receiver delivery = none := by
  cases hpayload : pm.payload <;>
    simp_all [openedChat, P2PMessage.chat]

theorem handleInboundFrame_of_unopened
    {receiver : Receiver} {delivery : Delivery}
    (hopen : openedChat P frames receiver delivery = none)
    (recv : RecvState) :
    (handleInboundFrame P frames receiver recv delivery).1 = recv := by
  rcases handleInboundFrame_cases P frames receiver recv delivery with
    ⟨chat, hchat, _⟩ | ⟨_, ⟨_, hresult⟩ | ⟨_, hresult⟩⟩
  · rw [hopen] at hchat
    cases hchat
  · rw [hresult]
  · rw [hresult]

/-- A text that opens does not stop the loop, and is dropped if its counter
is not above the last one. -/
theorem handleInboundFrame_of_opened
    {receiver : Receiver} {delivery : Delivery} {chat : OpenedChat}
    (hopen : openedChat P frames receiver delivery = some chat)
    (hevt : delivery.evtOpen = true) (recv : RecvState) :
    (handleInboundFrame P frames receiver recv delivery).2 = true ∧
      (chat.counter.toInt ≤ recv.lastCounter.toInt →
        (handleInboundFrame P frames receiver recv delivery).1 = recv) := by
  obtain ⟨pm, messageBytes, hgenuine, hpayload, _⟩ := openedChat_eq_some hopen
  rcases handleInboundFrame_cases P frames receiver recv delivery with
    ⟨other, hother, hlt, hresult⟩ | ⟨_, ⟨hend, _⟩ | ⟨_, hresult⟩⟩
  · rw [hopen] at hother
    cases hother
    rw [hresult, if_pos hevt]
    refine ⟨rfl, ?_⟩
    intro hle
    omega
  · obtain ⟨last, hlast, hfinal⟩ := hend
    rw [hgenuine] at hlast
    cases hlast
    rw [hpayload] at hfinal
    cases hfinal
  · rw [hresult]
    exact ⟨rfl, fun _ => rfl⟩

theorem openedChat_of_callChat
    (haead : P.AeadCorrect) {receiver : Receiver}
    (hkey : receiver.recvKey = sendKey) {delivery : Delivery}
    {pm : PeerMessage}
    (hgenuine : genuineFrame P frames receiver delivery = some pm)
    {call : Int64 × String}
    (hchat : pm.payload.chat = some (callChat P sendKey call)) :
    openedChat P frames receiver delivery =
      some ⟨call.1, call.2, pm.timestamp⟩ := by
  have hpayload : pm.payload = .chatMessage call.1
      (encryptMessageForChat P call.2 sendKey call.1.toUInt64) := by
    cases hpayload : pm.payload <;> rw [hpayload] at hchat <;> cases hchat
    rfl
  simp only [openedChat, hgenuine, hpayload, hkey,
    decryptMessageFromChat_encrypt P haead]

theorem ReceivedCalls.lastCounter_lt
    (hnumbered : send.Numbered) (hbound : send.calls.length < 2 ^ 63)
    {received : RecvState × RecvPhase}
    (hreceived : ReceivedCalls send.calls taken received)
    {call : Int64 × String} (hcall : send.calls[taken]? = some call) :
    received.1.lastCounter.toInt < call.1.toInt := by
  have hlt := (List.getElem?_eq_some_iff.mp hcall).1
  rw [hnumbered.counter_of_call hcall, hreceived.lastCounter,
    Int64.toInt_ofNat_of_lt (by omega)]
  split
  next hzero =>
    subst hzero
    decide
  next =>
    rw [Int64.toInt_ofNat_of_lt (by omega)]
    omega

/-- The receive loop takes the next text, while the counter has not wrapped. -/
theorem ReceivedCalls.take
    (hnumbered : send.Numbered)
    (hbound : send.calls.length < 2 ^ 63) {recv : RecvState}
    (hreceived : ReceivedCalls send.calls taken (recv, .running))
    {call : Int64 × String} (hcall : send.calls[taken]? = some call)
    {receiver : Receiver} {delivery : Delivery} {timestamp : Int64}
    (hopen : openedChat P frames receiver delivery =
      some ⟨call.1, call.2, timestamp⟩) :
    ReceivedCalls send.calls (taken + 1)
      (RecvState.afterFrame delivery.evtOpen
        (handleInboundFrame P frames receiver recv delivery)) := by
  have hlt := hreceived.lastCounter_lt hnumbered hbound hcall
  have htake : send.calls.take (taken + 1) = send.calls.take taken ++ [call] := by
    rw [List.take_add_one, hcall]
    rfl
  have hlast : call.1 = if taken + 1 = 0 then -1 else Int64.ofNat (taken + 1) := by
    rw [if_neg (Nat.succ_ne_zero taken)]
    exact hnumbered.counter_of_call hcall
  have htexts := hreceived.complete (by simp)
  rcases handleInboundFrame_cases P frames receiver recv delivery with
    ⟨chat, hchatOpen, _, hresult⟩ | ⟨hlow, _⟩
  · rw [hopen] at hchatOpen
    cases hchatOpen
    rw [hresult]
    cases hevt : delivery.evtOpen with
    | true =>
        have hnew : (RecvState.mk call.1
            (recv.emitted ++ [.message call.2 timestamp])).texts =
              (send.calls.take (taken + 1)).map Prod.snd := by
          rw [htake, List.map_append, ← htexts]
          simp [RecvState.texts, SessionEvent.text]
        have hprefix := (List.take_prefix (taken + 1) send.calls).map Prod.snd
        rw [← hnew] at hprefix
        exact ⟨hlast, hprefix, fun _ => hnew⟩
    | false =>
        -- the text is lost, and with it the loop
        refine ⟨hlast, ?_, fun hrefused => absurd rfl hrefused⟩
        exact hreceived.texts
  · have hle := hlow _ hopen
    simp only at hle hlt
    omega

end Channel

end SechatClient
