import SechatClient.SessionReceive

/-!
# Safety of one direction of a session

The peer's send loop encrypts texts under consecutive counters; the receive
loop is fed with whatever the network makes of its frames.  If a ciphertext
opens only where the send loop made it, the emitted texts are a sublist of
the encrypted ones: no text is duplicated, reordered or invented.
-/

namespace SechatClient

open ByteStrings RunningMaxima

theorem amIFirst_swap {mine theirs : KeyType} (hne : mine ≠ theirs) :
    amIFirst theirs mine = !amIFirst mine theirs := by
  have hlist : mine.toList ≠ theirs.toList := fun heq =>
    hne (Vector.toList_inj.mp heq)
  rcases lt_or_gt_of_ne hlist with hlt | hgt
  · simp [amIFirst, hlt, hlt.asymm]
  · simp [amIFirst, hgt, hgt.asymm]

section Origin

variable (P : Primitives) (frames : Codec PeerMessage) (receiver : Receiver)

/-- A delivered chat frame that opens under the receive key at its counter
carries the output of a call to `encrypt_message_for_chat` with that key and
that counter. -/
def Authentic (calls : List (Int64 × String)) (delivery : Delivery) : Prop :=
  ∀ pm counter messageBytes text,
    genuineFrame P frames receiver delivery = some pm →
    pm.payload = .chatMessage counter messageBytes →
    decryptMessageFromChat P messageBytes receiver.recvKey counter.toUInt64 =
      .ok text →
    ∃ call ∈ calls, call.1.toUInt64 = counter.toUInt64 ∧
      messageBytes = encryptMessageForChat P call.2 receiver.recvKey
        call.1.toUInt64

variable {P frames receiver}

theorem openedChat_eq_some
    {delivery : Delivery} {chat : OpenedChat}
    (hopen : openedChat P frames receiver delivery = some chat) :
    ∃ pm messageBytes, genuineFrame P frames receiver delivery = some pm ∧
      pm.payload = .chatMessage chat.counter messageBytes ∧
      decryptMessageFromChat P messageBytes receiver.recvKey
        chat.counter.toUInt64 = .ok chat.text := by
  unfold openedChat at hopen
  cases hgenuine : genuineFrame P frames receiver delivery with
  | none => simp [hgenuine] at hopen
  | some pm =>
      cases hpayload : pm.payload with
      | chatMessage counter messageBytes =>
          simp only [hgenuine, hpayload] at hopen
          split at hopen
          next => contradiction
          next text hdecrypt =>
            cases hopen
            exact ⟨pm, messageBytes, rfl, hpayload, hdecrypt⟩
      | _ => simp [hgenuine, hpayload] at hopen

theorem Authentic.call_mem
    (haead : P.AeadCorrect) {calls : List (Int64 × String)}
    {delivery : Delivery} (hauth : Authentic P frames receiver calls delivery)
    {chat : OpenedChat}
    (hopen : openedChat P frames receiver delivery = some chat) :
    (chat.counter, chat.text) ∈ calls := by
  obtain ⟨pm, messageBytes, hgenuine, hpayload, hdecrypt⟩ :=
    openedChat_eq_some hopen
  obtain ⟨⟨counter, text⟩, hmem, hcounter, hcipher⟩ :=
    hauth pm chat.counter messageBytes chat.text hgenuine hpayload hdecrypt
  have hsame : counter = chat.counter :=
    Function.LeftInverse.injective Int64.toInt64_toUInt64 hcounter
  subst hsame
  rw [hcipher, decryptMessageFromChat_encrypt P haead] at hdecrypt
  cases hdecrypt
  exact hmem

end Origin

/-! ## The emitted texts -/

def SessionEvent.text : SessionEvent → Option String
  | .message text _ => some text
  | .closed => none

section Texts

variable {P : Primitives} {frames : Codec PeerMessage} {receiver : Receiver}

def openedCall (P : Primitives) (frames : Codec PeerMessage)
    (receiver : Receiver) (delivery : Delivery) : Option (Int64 × String) :=
  (openedChat P frames receiver delivery).map fun chat =>
    (chat.counter, chat.text)

theorem openedCall_eq_some
    {delivery : Delivery} {call : Int64 × String}
    (hcall : openedCall P frames receiver delivery = some call) :
    ∃ chat, openedChat P frames receiver delivery = some chat ∧
      call = (chat.counter, chat.text) := by
  unfold openedCall at hcall
  obtain ⟨chat, hopen, heq⟩ := Option.map_eq_some_iff.mp hcall
  exact ⟨chat, hopen, heq.symm⟩

theorem deliveredEvents_texts_sublist (deliveries : List Delivery) :
    ((deliveredEvents P frames receiver deliveries).filterMap
        SessionEvent.text).Sublist
      (((leaders (chatCounter P frames receiver) deliveries).filterMap
        (openedCall P frames receiver)).map Prod.snd) := by
  unfold deliveredEvents
  induction leaders (chatCounter P frames receiver) deliveries with
  | nil => exact List.Sublist.refl _
  | cons delivery rest ih =>
      cases hopen : openedChat P frames receiver delivery with
      | none => simpa [deliveredEvent, openedCall, hopen] using ih
      | some chat =>
          cases hevt : delivery.evtOpen with
          | true =>
              simpa [deliveredEvent, openedCall, hopen, hevt,
                SessionEvent.text] using ih
          | false =>
              have hlonger := ih.trans (List.sublist_cons_self chat.text _)
              simpa [deliveredEvent, openedCall, hopen, hevt] using hlonger

theorem leaders_openedCall_pairwise (deliveries : List Delivery) :
    ((leaders (chatCounter P frames receiver) deliveries).filterMap
        (openedCall P frames receiver)).Pairwise
      fun x y => x.1.toInt < y.1.toInt := by
  rw [List.pairwise_filterMap]
  refine (leadersAfter_pairwise [] deliveries).imp ?_
  rintro x y ⟨low, top, hlow, htop, hlt⟩ callX hcallX callY hcallY
  obtain ⟨chatX, hopenX, rfl⟩ := openedCall_eq_some hcallX
  obtain ⟨chatY, hopenY, rfl⟩ := openedCall_eq_some hcallY
  obtain ⟨_, hsomeX, rfl, _⟩ := chatCounter_eq_some hlow
  obtain ⟨_, hsomeY, rfl, _⟩ := chatCounter_eq_some htop
  rw [hopenX] at hsomeX
  rw [hopenY] at hsomeY
  cases hsomeX
  cases hsomeY
  exact hlt

theorem deliveredEvents_texts_sublist_calls
    (haead : P.AeadCorrect) {calls : List (Int64 × String)}
    (hcalls : calls.Pairwise fun x y => x.1.toInt < y.1.toInt)
    {deliveries : List Delivery}
    (hauth : ∀ delivery ∈ deliveries,
      Authentic P frames receiver calls delivery) :
    ((deliveredEvents P frames receiver deliveries).filterMap
      SessionEvent.text).Sublist (calls.map Prod.snd) := by
  refine (deliveredEvents_texts_sublist deliveries).trans ?_
  refine List.Sublist.map Prod.snd ?_
  refine sublist_of_subset_of_sorted (fun call => call.1.toInt)
    (leaders_openedCall_pairwise deliveries) hcalls ?_
  intro call hcall
  obtain ⟨delivery, hleader, hcall⟩ := List.mem_filterMap.mp hcall
  obtain ⟨chat, hopen, rfl⟩ := openedCall_eq_some hcall
  exact (hauth delivery (mem_leadersAfter hleader).1).call_mem haead hopen

end Texts

/-- Safety of the receive loop: it emits exactly the events of the leading
frames it was fed, any other frame but an `End` changes nothing, it stops
only at a fresh `End` or a closed event channel, and against a peer whose
counter has not overflowed it emits a sublist of the texts the peer encrypted. -/
theorem session_receive_safety
    (P : Primitives) (frames : Codec PeerMessage) (receiver : Receiver) :
    (∀ deliveries,
      (recvLoop P frames receiver .initial deliveries).fed <+: deliveries ∧
      ((recvLoop P frames receiver .initial deliveries).stopped = false →
        (recvLoop P frames receiver .initial deliveries).fed = deliveries) ∧
      (recvLoop P frames receiver .initial deliveries).state.emitted =
        deliveredEvents P frames receiver
          (recvLoop P frames receiver .initial deliveries).fed ∧
      ((recvLoop P frames receiver .initial deliveries).stopped = true →
        ∃ front last,
          (recvLoop P frames receiver .initial deliveries).fed =
            front ++ [last] ∧
          (IsFreshEnd P frames receiver last ∨ last.evtOpen = false))) ∧
    (∀ before delivery,
      (recvLoop P frames receiver .initial before).stopped = false →
      leads (chatCounter P frames receiver) before delivery = false →
      ¬ IsFreshEnd P frames receiver delivery →
      recvLoop P frames receiver .initial (before ++ [delivery]) =
        ⟨(recvLoop P frames receiver .initial before).state,
          before ++ [delivery], false⟩) ∧
    (∀ (sessionKey mine theirs : KeyType) (sender : Sender)
        (outgoing : List (Outgoing × SendEnv)) (deliveries : List Delivery),
      P.AeadCorrect →
      mine ≠ theirs →
      receiver.recvKey =
        (sessionKeys P sessionKey (amIFirst mine theirs)).2 →
      sender.sendKey =
        (sessionKeys P sessionKey (amIFirst theirs mine)).1 →
      (sendLoop P frames sender .initial outgoing).calls.length < 2 ^ 63 →
      (∀ delivery ∈ deliveries, Authentic P frames receiver
        (sendLoop P frames sender .initial outgoing).calls delivery) →
      receiver.recvKey = sender.sendKey ∧
      ((recvLoop P frames receiver .initial
          deliveries).state.emitted.filterMap SessionEvent.text).Sublist
        ((sendLoop P frames sender .initial outgoing).calls.map Prod.snd)) := by
  have hemitted : ∀ deliveries,
      (recvLoop P frames receiver .initial deliveries).state.emitted =
        deliveredEvents P frames receiver
          (recvLoop P frames receiver .initial deliveries).fed := by
    intro deliveries
    have hinitial : RecvInvariant P frames receiver [] .initial := .initial
    exact (recvLoop_invariant hinitial deliveries).emitted
  refine ⟨?_, ?_, ?_⟩
  · intro deliveries
    exact ⟨recvLoop_fed_prefix_deliveries _ _, recvLoop_fed_of_not_stopped,
      hemitted deliveries, recvLoop_stopped⟩
  · intro before delivery hrun hleads hend
    exact recvLoop_append_of_not_leads hrun hleads hend
  · intro sessionKey mine theirs sender outgoing deliveries haead hne hrecv
      hsend hbound hauth
    refine ⟨?_, ?_⟩
    · rw [hrecv, hsend, amIFirst_swap hne, sessionKeys_swap]
    · rw [hemitted]
      have hnumbered := sendLoop_numbered P frames sender
        SendState.initial_numbered outgoing
      refine deliveredEvents_texts_sublist_calls haead
        (hnumbered.calls_pairwise hbound) ?_
      intro delivery hmem
      exact hauth delivery ((recvLoop_fed_prefix_deliveries _ _).subset hmem)

/-! ## Frames of the peer at concrete inputs -/

theorem genuineFrame_new
    {P : Primitives} (hsig : P.SignatureCorrect) {frames : Codec PeerMessage}
    (hround : frames.RoundTrip) {recvKey sender : KeyType} (signing : KeyType)
    {payload : P2PMessage} {timestamp : Int64} {bytes : Bytes}
    (hbytes : frame P frames payload sender signing timestamp = some bytes)
    {now : Int64} (hfresh : frameIsFresh timestamp now = true)
    (evtOpen : Bool) :
    genuineFrame P frames ⟨recvKey, sender, P.verifyingKey signing⟩
        ⟨bytes, now, evtOpen⟩ =
      some (PeerMessage.new P payload sender signing timestamp) := by
  have hslice := frame_fromSlice P hround hbytes
  have hverify := PeerMessage.verify_new P hsig payload sender signing timestamp
  simp only [genuineFrame, hslice]
  rw [if_pos ⟨hverify, hfresh⟩]

/-- A frame with the ciphertext of a call is authentic, whoever delivers it. -/
theorem authentic_of_frame
    {P : Primitives} {frames : Codec PeerMessage} (hround : frames.RoundTrip)
    {receiver : Receiver} {calls : List (Int64 × String)} {counter : Int64}
    {text : String} {sender signing : KeyType} {timestamp : Int64}
    {bytes : Bytes}
    (hbytes : frame P frames (.chatMessage counter
      (encryptMessageForChat P text receiver.recvKey counter.toUInt64))
        sender signing timestamp = some bytes)
    (hmem : (counter, text) ∈ calls) (now : Int64) (evtOpen : Bool) :
    Authentic P frames receiver calls ⟨bytes, now, evtOpen⟩ := by
  have hslice := frame_fromSlice P hround hbytes
  intro pm opened messageBytes _ hgenuine hpayload _
  simp only [genuineFrame, hslice] at hgenuine
  split at hgenuine
  next =>
    cases hgenuine
    cases hpayload
    exact ⟨(counter, text), hmem, rfl, rfl⟩
  next => contradiction

def sampleSessionKey : KeyType :=
  (sessionKeys .transparent (Vector.replicate 32 3) true).2

def sampleReceiver : Receiver where
  recvKey := sampleSessionKey
  peerX := Vector.replicate 32 1
  verifying := Vector.replicate 32 2

def samplePeerSender : Sender where
  kind := .direct
  sendKey := sampleSessionKey
  myPub := Vector.replicate 32 1
  signing := Vector.replicate 32 2

def sampleChat (counter : Int64) (text : String) : P2PMessage :=
  .chatMessage counter
    (encryptMessageForChat .transparent text sampleSessionKey counter.toUInt64)

def sampleFrame (counter : Int64) (text : String) : Delivery where
  bytes := (frame .transparent transparentFrames (sampleChat counter text)
    samplePeerSender.myPub samplePeerSender.signing 1000).getD []
  now := 1000
  evtOpen := true

theorem sampleFrame_genuine (counter : Int64) (text : String) :
    genuineFrame .transparent transparentFrames sampleReceiver
        (sampleFrame counter text) =
      some (PeerMessage.new .transparent (sampleChat counter text)
        (Vector.replicate 32 1) (Vector.replicate 32 2) 1000) := by
  have hfresh : frameIsFresh 1000 1000 = true := by decide
  exact genuineFrame_new transparent_signatureCorrect
    transparentFrames_roundTrip (Vector.replicate 32 2) rfl hfresh true

theorem sampleFrame_opened (counter : Int64) (text : String) :
    openedChat .transparent transparentFrames sampleReceiver
        (sampleFrame counter text) = some ⟨counter, text, 1000⟩ := by
  have hdecrypt := decryptMessageFromChat_encrypt .transparent
    transparent_aeadCorrect text sampleSessionKey counter.toUInt64
  have hkey : sampleReceiver.recvKey = sampleSessionKey := rfl
  simp only [openedChat, sampleFrame_genuine, PeerMessage.new, sampleChat,
    hkey, hdecrypt]

theorem sampleFrame_authentic
    {calls : List (Int64 × String)} {counter : Int64} {text : String}
    (hmem : (counter, text) ∈ calls) :
    Authentic .transparent transparentFrames sampleReceiver calls
      (sampleFrame counter text) :=
  authentic_of_frame transparentFrames_roundTrip rfl hmem 1000 true

/-- The peer sends two texts; the second frame arrives first and again after
the first. -/
def sampleOutgoing : List (Outgoing × SendEnv) :=
  [(.text "one", ⟨1000, true⟩), (.text "two", ⟨1000, true⟩)]

theorem sampleOutgoing_calls :
    (sendLoop .transparent transparentFrames samplePeerSender .initial
      sampleOutgoing).calls = [(1, "one"), (2, "two")] := by
  rfl

theorem session_receive_safety_reordered :
    ((recvLoop .transparent transparentFrames sampleReceiver .initial
        [sampleFrame 2 "two", sampleFrame 1 "one",
          sampleFrame 2 "two"]).state.emitted.filterMap
        SessionEvent.text).Sublist ["one", "two"] := by
  have hfirst : amIFirst (Vector.replicate 32 4) (Vector.replicate 32 1) =
      true := by decide
  have hsecond : amIFirst (Vector.replicate 32 1) (Vector.replicate 32 4) =
      false := by decide
  have hrecv : sampleReceiver.recvKey =
      (sessionKeys .transparent (Vector.replicate 32 3)
        (amIFirst (Vector.replicate 32 4) (Vector.replicate 32 1))).2 := by
    rw [hfirst]
    rfl
  have hsend : samplePeerSender.sendKey =
      (sessionKeys .transparent (Vector.replicate 32 3)
        (amIFirst (Vector.replicate 32 1) (Vector.replicate 32 4))).1 := by
    rw [hsecond]
    rfl
  have hauth : ∀ delivery ∈
      [sampleFrame 2 "two", sampleFrame 1 "one", sampleFrame 2 "two"],
      Authentic .transparent transparentFrames sampleReceiver
        [(1, "one"), (2, "two")] delivery := by
    intro delivery hmem
    simp only [List.mem_cons, List.not_mem_nil, or_false] at hmem
    rcases hmem with rfl | rfl | rfl <;>
      exact sampleFrame_authentic (by decide)
  have hsafe := (session_receive_safety .transparent transparentFrames
    sampleReceiver).2.2 (Vector.replicate 32 3) (Vector.replicate 32 4)
    (Vector.replicate 32 1) samplePeerSender sampleOutgoing
    [sampleFrame 2 "two", sampleFrame 1 "one", sampleFrame 2 "two"]
    transparent_aeadCorrect (by decide) hrecv hsend
  rw [sampleOutgoing_calls] at hsafe
  exact (hsafe (by decide) hauth).2

/-- The reading which also counts frames with a negative counter. -/
def signedChatCounter (P : Primitives) (frames : Codec PeerMessage)
    (receiver : Receiver) (delivery : Delivery) : Option ℤ :=
  (openedChat P frames receiver delivery).map fun chat => chat.counter.toInt

/-- A peer's frame with counter `-5` opens and nothing precedes it, yet it is
dropped: the loop starts at `-1`. -/
theorem negative_counter_frame_dropped :
    ¬ ∀ (P : Primitives) (frames : Codec PeerMessage) (receiver : Receiver)
        (deliveries : List Delivery),
      (recvLoop P frames receiver .initial deliveries).stopped = false →
      (recvLoop P frames receiver .initial deliveries).state.emitted =
        (leaders (signedChatCounter P frames receiver) deliveries).filterMap
          (deliveredEvent P frames receiver) := by
  intro hall
  have hopen := sampleFrame_opened (-5) "hi"
  have hkey : chatCounter .transparent transparentFrames sampleReceiver
      (sampleFrame (-5) "hi") = none := by
    simp only [chatCounter, hopen]
    decide
  have hrun : recvLoop .transparent transparentFrames sampleReceiver .initial
      [sampleFrame (-5) "hi"] =
        ⟨.initial, [sampleFrame (-5) "hi"], false⟩ := by
    have hend : ¬ IsFreshEnd .transparent transparentFrames sampleReceiver
        (sampleFrame (-5) "hi") := by
      rintro ⟨pm, hgenuine, hpayload⟩
      rw [sampleFrame_genuine, Option.some_inj] at hgenuine
      subst hgenuine
      simp [PeerMessage.new, sampleChat] at hpayload
    have hstart : (recvLoop .transparent transparentFrames sampleReceiver
        .initial []).stopped = false := rfl
    have hleads : leads (chatCounter .transparent transparentFrames
        sampleReceiver) [] (sampleFrame (-5) "hi") = false := by
      simp [leads, hkey]
    have happend := recvLoop_append_of_not_leads hstart hleads hend
    exact happend
  have hemitted := hall .transparent transparentFrames sampleReceiver
    [sampleFrame (-5) "hi"] (by rw [hrun])
  rw [hrun] at hemitted
  have hevt : (sampleFrame (-5) "hi").evtOpen = true := rfl
  simp [leaders, leadersAfter, leads, signedChatCounter, deliveredEvent,
    hopen, hevt, RecvState.initial] at hemitted

end SechatClient
