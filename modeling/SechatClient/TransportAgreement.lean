import SechatClient.ReceiveLoops
import SechatClient.RelayConversation

/-!
# Texts over the two transports

The two receive loops of `start_session` are separate copies.  The relay loop
hands every frame to `handle_inbound_frame` as it arrived; the direct loop
reads each datagram into a buffer of 2048 bytes, so what is longer is cut off
and no longer decodes.  Both end when nothing has come for 45 seconds.

A conversation is given by the turns of the peer's send loop, each with the
arrival of its frame, if it arrives.  Frames may be lost but arrive in order
and unmodified.
-/

namespace SechatClient

open ByteStrings Watchdog

/-- The clock reading when a frame is handled, the instant at which it comes
in, in milliseconds since the receive loop was started, and the time its
handling takes. -/
structure Arrival where
  now : Int64
  instant : ℕ
  busy : ℕ

structure Transmission where
  outgoing : Outgoing
  sentAt : Int64
  arrival : Option Arrival

/-- Since when a receive loop waits, and its longest wait for a frame. -/
structure Waiting where
  since : ℕ
  longest : ℕ

def Waiting.initial : Waiting := ⟨0, 0⟩

theorem Waiting.initial_in_time :
    Waiting.initial.longest ≤ sessionIdleTimeoutMillis := Nat.zero_le _

def Waiting.after (waiting : Waiting) (arrival : Arrival) : Waiting :=
  ⟨max waiting.since arrival.instant + arrival.busy,
    max waiting.longest (arrival.instant - waiting.since)⟩

/-- A text whose frame arrives, with the counter it was sent under and the
longest wait of the receive loop up to its arrival. -/
structure TextArrival where
  counter : Int64
  text : String
  sentAt : Int64
  arrivedAt : Int64
  silence : ℕ

def TextArrival.event (arrival : TextArrival) : SessionEvent :=
  .message arrival.text arrival.sentAt

/-- The texts whose frames arrive; behind an `End` nothing is sent. -/
def textArrivals :
    Int64 → Waiting → List Transmission → List TextArrival
  | _, _, [] => []
  | counter, waiting, ⟨.text text, sentAt, some arrival⟩ :: rest =>
      ⟨counter + 1, text, sentAt, arrival.now,
          (waiting.after arrival).longest⟩ ::
        textArrivals (counter + 1) (waiting.after arrival) rest
  | counter, waiting, ⟨.text _, _, none⟩ :: rest =>
      textArrivals (counter + 1) waiting rest
  | counter, waiting, ⟨.heartbeat, _, some arrival⟩ :: rest =>
      textArrivals counter (waiting.after arrival) rest
  | counter, waiting, ⟨.heartbeat, _, none⟩ :: rest =>
      textArrivals counter waiting rest
  | _, _, ⟨.closed, _, _⟩ :: _ => []

section Loops

variable (P : Primitives) (frames : Codec PeerMessage)

variable (keys : Side → Keys) (sessionKey : KeyType) (side : Side)

def sendInputs (transmissions : List Transmission) :
    List (Outgoing × SendEnv) :=
  transmissions.map fun transmission =>
    (transmission.outgoing, ⟨transmission.sentAt, true⟩)

/-- The frames which the peer's send loop hands to its transport. -/
def peerFrames (kind : TransportKind) (transmissions : List Transmission) :
    List Bytes :=
  (sendLoop P frames (sessionSender P keys kind sessionKey side.other)
    .initial (sendInputs transmissions)).sent

/-- A frame that arrives while the event channel is open. -/
def Arrival.delivers (arrival : Arrival) (bytes : Bytes) : Timed Delivery :=
  ⟨⟨bytes, arrival.now, true⟩, arrival.instant, arrival.busy⟩

def arrivals (sent : List Bytes) (transmissions : List Transmission) :
    List (Timed Delivery) :=
  (sent.zip transmissions).filterMap fun pair =>
    pair.2.arrival.map fun arrival => arrival.delivers pair.1

@[simp] theorem arrivals_cons
    (bytes : Bytes) (sent : List Bytes) (transmission : Transmission)
    (rest : List Transmission) :
    arrivals (bytes :: sent) (transmission :: rest) =
      (transmission.arrival.map fun arrival =>
        arrival.delivers bytes).toList ++ arrivals sent rest := by
  cases harrival : transmission.arrival <;> simp [arrivals, harrival]

/-- What the buffer of the direct loop holds whole. -/
def fitsBuffer (bytes : Bytes) : Bool :=
  decide (bytes.length ≤ 2048)

def relayReceived (transmissions : List Transmission) : List SessionEvent :=
  (timedRecvLoop P frames (sessionReceiver P keys sessionKey side) 0
    (arrivals (peerFrames P frames keys sessionKey side .relay transmissions)
      transmissions)).state.emitted

def directReceived (remote : SocketAddr)
    (transmissions : List Transmission) : List SessionEvent :=
  (timedDirectRecvLoop P frames (sessionReceiver P keys sessionKey side)
    remote 0
    ((arrivals
      (peerFrames P frames keys sessionKey side .direct transmissions)
      transmissions).map (Timed.map (Delivery.datagram remote)))).state.emitted

def textPayload (sendKey : KeyType) (counter : Int64) (text : String) :
    P2PMessage :=
  .chatMessage counter
    (encryptMessageForChat P text sendKey counter.toUInt64)

/-- The frame of a text that arrives. -/
def TextArrival.bytes (mine : Keys) (sendKey : KeyType)
    (arrival : TextArrival) : Bytes :=
  itemBytes P frames mine
    (textPayload P sendKey arrival.counter arrival.text, arrival.sentAt)

end Loops

/-! ## What the peer sends -/

section Sent

variable {P : Primitives} {frames : Codec PeerMessage} {keys : Side → Keys}
  {sessionKey : KeyType} {side : Side}

/-- The frames of the remaining turns of the send loop. -/
def framesFrom (P : Primitives) (frames : Codec PeerMessage) (mine : Keys)
    (sendKey : KeyType) : Int64 → List Transmission → List Bytes
  | _, [] => []
  | counter, ⟨.text text, sentAt, _⟩ :: rest =>
      itemBytes P frames mine
          (textPayload P sendKey (counter + 1) text, sentAt) ::
        framesFrom P frames mine sendKey (counter + 1) rest
  | counter, ⟨.heartbeat, sentAt, _⟩ :: rest =>
      itemBytes P frames mine (.heartBeat, sentAt) ::
        framesFrom P frames mine sendKey counter rest
  | _, ⟨.closed, sentAt, _⟩ :: _ =>
      [itemBytes P frames mine (.endOfConversation, sentAt)]

theorem transmit_accepted
    (hround : frames.RoundTrip) (kind : TransportKind) (payload : P2PMessage)
    (now : Int64) (send : SendState) :
    transmit P frames (sessionSender P keys kind sessionKey side)
        ⟨now, true⟩ payload send =
      ({ send with
        sent := send.sent ++ [itemBytes P frames (keys side)
          (payload, now)] }, true) := by
  cases kind <;>
    simp only [transmit, sessionSender, frame_eq_itemBytes hround, if_true]

theorem sendLoop_sent
    (hround : frames.RoundTrip) (kind : TransportKind) (send : SendState)
    (transmissions : List Transmission) :
    (sendLoop P frames (sessionSender P keys kind sessionKey side) send
        (sendInputs transmissions)).sent =
      send.sent ++ framesFrom P frames (keys side)
        (sessionSender P keys kind sessionKey side).sendKey send.counter
        transmissions := by
  induction transmissions generalizing send with
  | nil => simp [sendInputs, sendLoop, framesFrom]
  | cons transmission rest ih =>
      obtain ⟨outgoing, sentAt, arrival⟩ := transmission
      simp only [sendInputs, List.map_cons] at ih ⊢
      cases outgoing with
      | text text =>
          simp only [sendLoop, sendStep, transmit_accepted hround, ih,
            framesFrom, textPayload, List.append_assoc,
            List.singleton_append]
      | heartbeat =>
          simp only [sendLoop, sendStep, transmit_accepted hround, ih,
            framesFrom, List.append_assoc, List.singleton_append]
      | closed =>
          simp only [sendLoop, sendStep, transmit_accepted hround, framesFrom]

end Sent

/-! ## The texts that are accepted -/

section Accepted

/-- The texts that are admitted and stand ahead of the last counter. -/
def acceptedTexts (admitted : TextArrival → Bool) :
    Int64 → List TextArrival → List TextArrival
  | _, [] => []
  | last, arrival :: rest =>
      if admitted arrival = true ∧ last < arrival.counter then
        arrival :: acceptedTexts admitted arrival.counter rest
      else
        acceptedTexts admitted last rest

/-- The counters of the texts go up from `last`. -/
def CountersAscend (last : Int64) (texts : List TextArrival) : Prop :=
  (last :: texts.map TextArrival.counter).IsChain (· < ·)

instance (last : Int64) (texts : List TextArrival) :
    Decidable (CountersAscend last texts) :=
  inferInstanceAs (Decidable (List.IsChain _ _))

variable {admitted : TextArrival → Bool}

theorem countersAscend_cons
    {last : Int64} {arrival : TextArrival} {texts : List TextArrival} :
    CountersAscend last (arrival :: texts) ↔
      last < arrival.counter ∧ CountersAscend arrival.counter texts := by
  simp only [CountersAscend, List.map_cons, List.isChain_cons_cons]

theorem CountersAscend.skip
    {last : Int64} {arrival : TextArrival} {texts : List TextArrival}
    (hascend : CountersAscend last (arrival :: texts)) :
    CountersAscend last texts := by
  obtain ⟨hlt, hrest⟩ := countersAscend_cons.1 hascend
  cases texts with
  | nil => exact List.isChain_singleton _
  | cons second rest =>
      obtain ⟨hnext, hrest⟩ := countersAscend_cons.1 hrest
      exact countersAscend_cons.2 ⟨Int64.lt_trans hlt hnext, hrest⟩

theorem acceptedTexts_sublist (last : Int64) (texts : List TextArrival) :
    (acceptedTexts admitted last texts).Sublist texts := by
  induction texts generalizing last with
  | nil => exact List.Sublist.refl _
  | cons arrival rest ih =>
      rw [acceptedTexts]
      split
      · exact (ih _).cons_cons _
      · exact (ih _).cons _

theorem acceptedTexts_eq_nil
    {texts : List TextArrival}
    (hnone : ∀ arrival ∈ texts, admitted arrival = false) (last : Int64) :
    acceptedTexts admitted last texts = [] := by
  induction texts with
  | nil => rfl
  | cons arrival rest ih =>
      rw [List.forall_mem_cons] at hnone
      rw [acceptedTexts, if_neg (by simp [hnone.1])]
      exact ih hnone.2

/-- All texts are accepted exactly if they are all admitted and their counters
go up. -/
theorem acceptedTexts_eq_self_iff
    (last : Int64) (texts : List TextArrival) :
    acceptedTexts admitted last texts = texts ↔
      (∀ arrival ∈ texts, admitted arrival = true) ∧
        CountersAscend last texts := by
  induction texts generalizing last with
  | nil => simp [acceptedTexts, CountersAscend]
  | cons arrival rest ih =>
      rw [acceptedTexts, List.forall_mem_cons, countersAscend_cons]
      split
      next haccepted =>
        rw [List.cons_inj_right, ih]
        tauto
      next hdropped =>
        constructor
        · intro heq
          have hlength : (acceptedTexts admitted last rest).length ≤ _ :=
            (acceptedTexts_sublist last rest).length_le
          rw [heq, List.length_cons] at hlength
          omega
        · rintro ⟨⟨hadmitted, _⟩, hlt, _⟩
          exact absurd ⟨hadmitted, hlt⟩ hdropped

theorem map_acceptedTexts_eq_iff (last : Int64) (texts : List TextArrival) :
    (acceptedTexts admitted last texts).map TextArrival.event =
        texts.map TextArrival.event ↔
      acceptedTexts admitted last texts = texts := by
  constructor
  · intro hevents
    have hlength : (acceptedTexts admitted last texts).length =
        texts.length := by
      simpa using congrArg List.length hevents
    exact (acceptedTexts_sublist last texts).eq_of_length hlength
  · intro heq
    rw [heq]

/-- While the counters go up, the texts accepted are those admitted. -/
theorem acceptedTexts_eq_filter
    {last : Int64} {texts : List TextArrival}
    (hascend : CountersAscend last texts) :
    acceptedTexts admitted last texts = texts.filter admitted := by
  induction texts generalizing last with
  | nil => rfl
  | cons arrival rest ih =>
      obtain ⟨hlt, hrest⟩ := countersAscend_cons.1 hascend
      rw [acceptedTexts]
      cases hadmitted : admitted arrival with
      | true => simp [hlt, hadmitted, ih hrest]
      | false => simp [hadmitted, ih hascend.skip]

theorem map_filter_eq_iff
    {weak : TextArrival → Bool}
    (hweak : ∀ arrival, admitted arrival = true → weak arrival = true)
    (texts : List TextArrival) :
    (texts.filter admitted).map TextArrival.event =
        (texts.filter weak).map TextArrival.event ↔
      ∀ arrival ∈ texts, weak arrival = true → admitted arrival = true := by
  have hsublist : (texts.filter admitted).Sublist (texts.filter weak) :=
    List.monotone_filter_right texts hweak
  constructor
  · intro hevents arrival hmem hadmits
    have hlength : (texts.filter admitted).length =
        (texts.filter weak).length := by
      simpa using congrArg List.length hevents
    have hmem : arrival ∈ texts.filter weak := List.mem_filter.2 ⟨hmem, hadmits⟩
    rw [← hsublist.eq_of_length hlength] at hmem
    exact (List.mem_filter.1 hmem).2
  · intro hall
    congr 1
    apply List.filter_congr
    intro arrival hmem
    exact Bool.eq_iff_iff.2 ⟨hweak arrival, hall arrival hmem⟩

theorem int64_toInt_succ
    {counter : Int64} (hcounter : 0 ≤ counter.toInt)
    (hbound : counter.toInt + 1 < 2 ^ 63) :
    (counter + 1).toInt = counter.toInt + 1 := by
  rw [Int64.toInt_add]
  apply Int.bmod_eq_of_le <;> simp <;> omega

/-- The counters go up while the send loop has made less than `2 ^ 63`
turns. -/
theorem textArrivals_ascend
    {transmissions : List Transmission} {counter last : Int64}
    (waiting : Waiting)
    (hcounter : 0 ≤ counter.toInt) (hlast : last.toInt ≤ counter.toInt)
    (hbound : counter.toInt + transmissions.length < 2 ^ 63) :
    CountersAscend last (textArrivals counter waiting transmissions) := by
  induction transmissions generalizing counter last waiting with
  | nil => simp [textArrivals, CountersAscend]
  | cons transmission rest ih =>
      obtain ⟨outgoing, sentAt, arrival⟩ := transmission
      simp only [List.length_cons, Nat.cast_add, Nat.cast_one] at hbound
      cases outgoing with
      | text text =>
          have hnext : (counter + 1).toInt = counter.toInt + 1 :=
            int64_toInt_succ hcounter (by omega)
          cases arrival with
          | none => exact ih waiting (by omega) (by omega) (by omega)
          | some arrival =>
              apply countersAscend_cons.2
              refine ⟨?_, ih _ (by omega) le_rfl (by omega)⟩
              rw [Int64.lt_iff_toInt_lt, hnext]
              omega
      | heartbeat =>
          cases arrival with
          | none => exact ih waiting hcounter hlast (by omega)
          | some arrival => exact ih _ hcounter hlast (by omega)
      | closed => simp [textArrivals, CountersAscend]

/-- The longest wait only grows. -/
theorem longest_le_silence
    {transmissions : List Transmission} {counter : Int64} {waiting : Waiting}
    {arrival : TextArrival}
    (hmem : arrival ∈ textArrivals counter waiting transmissions) :
    waiting.longest ≤ arrival.silence := by
  induction transmissions generalizing counter waiting with
  | nil => simp [textArrivals] at hmem
  | cons transmission rest ih =>
      obtain ⟨outgoing, sentAt, came⟩ := transmission
      have hafter : ∀ came, waiting.longest ≤ (waiting.after came).longest :=
        fun _ => le_max_left _ _
      cases outgoing with
      | text text =>
          cases came with
          | none => exact ih hmem
          | some came =>
              rcases List.mem_cons.mp hmem with rfl | hmem
              · exact hafter came
              · exact (hafter came).trans (ih hmem)
      | heartbeat =>
          cases came with
          | none => exact ih hmem
          | some came => exact (hafter came).trans (ih hmem)
      | closed => simp [textArrivals] at hmem

end Accepted

/-! ## What the receive loops make of it -/

section Received

variable {P : Primitives} {frames : Codec PeerMessage} {mine : Keys}
  {receiver : Receiver}

/-- `read` is what a transport hands over of a frame: the frames that `fits`
selects unchanged, the others so that they do not decode. -/
def ReadsFrames (P : Primitives) (frames : Codec PeerMessage) (mine : Keys)
    (read : Bytes → Bytes) (fits : Bytes → Bool) : Prop :=
  ∀ item,
    (fits (itemBytes P frames mine item) = true →
      read (itemBytes P frames mine item) = itemBytes P frames mine item) ∧
    (fits (itemBytes P frames mine item) = false →
      (frames.fromSlice (read (itemBytes P frames mine item))).toOption =
        none)

/-- A text is admitted if its frame is handed over unchanged and is fresh when
it arrives, and the loop has not timed out before. -/
def admits (P : Primitives) (frames : Codec PeerMessage) (mine : Keys)
    (sendKey : KeyType) (fits : Bytes → Bool) (arrival : TextArrival) :
    Bool :=
  fits (arrival.bytes P frames mine sendKey) &&
    (frameIsFresh arrival.sentAt arrival.arrivedAt &&
      decide (arrival.silence ≤ sessionIdleTimeoutMillis))

theorem readsFrames_id :
    ReadsFrames P frames mine id (fun _ => true) := by
  intro item
  exact ⟨fun _ => rfl, fun hfalse => by contradiction⟩

theorem readsFrames_recvFrom
    (hround : frames.RoundTrip) (htruncated : frames.RejectsTruncated) :
    ReadsFrames P frames mine (recvFrom 2048)
      fitsBuffer := by
  intro item
  constructor
  · intro hfits
    exact List.take_of_length_le (of_decide_eq_true hfits)
  · intro hlong
    have hlt : 2048 < (itemBytes P frames mine item).length := by
      simpa [fitsBuffer] using hlong
    exact htruncated _ _ 2048 (hround.toVec_eq _) hlt

theorem handleInboundFrame_unreadable
    {delivery : Delivery}
    (hread : (frames.fromSlice delivery.bytes).toOption = none)
    (recv : RecvState) :
    handleInboundFrame P frames receiver recv delivery = (recv, true) := by
  cases hslice : frames.fromSlice delivery.bytes with
  | error e => simp [handleInboundFrame, hslice]
  | ok pm => simp [hslice, Except.toOption] at hread

variable (hsig : P.SignatureCorrect) (hround : frames.RoundTrip)
  (hmine : mine.Genuine P) (hpeer : receiver.peerX = mine.x25519Pub)
  (hverifying : receiver.verifying = mine.ed25519Verifying)

include hsig hround hmine hpeer hverifying

theorem itemBytes_accepted (item : P2PMessage × Int64) :
    frames.fromSlice (itemBytes P frames mine item) =
        .ok (PeerMessage.new P item.1 mine.x25519Pub mine.ed25519Signing
          item.2) ∧
      (PeerMessage.new P item.1 mine.x25519Pub mine.ed25519Signing
        item.2).verify P receiver.peerX receiver.verifying = true := by
  constructor
  · exact frame_fromSlice P hround
      (frame_eq_itemBytes hround mine item.1 item.2)
  · rw [hpeer, hverifying, hmine.ed25519]
    exact PeerMessage.verify_new P hsig item.1 mine.x25519Pub
      mine.ed25519Signing item.2

theorem handleInboundFrame_text
    (haead : P.AeadCorrect) (counter sentAt now : Int64) (text : String)
    (recv : RecvState) :
    handleInboundFrame P frames receiver recv
        ⟨itemBytes P frames mine
          (textPayload P receiver.recvKey counter text, sentAt), now, true⟩ =
      if frameIsFresh sentAt now = true ∧ recv.lastCounter < counter then
        (⟨counter, recv.emitted ++ [.message text sentAt]⟩, true)
      else
        (recv, true) := by
  obtain ⟨hslice, hverify⟩ := itemBytes_accepted hsig hround hmine hpeer
    hverifying (textPayload P receiver.recvKey counter text, sentAt)
  have hdecrypt := decryptMessageFromChat_encrypt P haead text
    receiver.recvKey counter.toUInt64
  simp only [handleInboundFrame, hslice, hverify, Bool.true_eq_false,
    if_false]
  by_cases hfresh : frameIsFresh sentAt now = true
  · by_cases hlt : recv.lastCounter < counter
    · have hle : ¬ counter ≤ recv.lastCounter := Int64.not_le.mpr hlt
      simp [PeerMessage.new, textPayload, hfresh, hlt, hle, hdecrypt]
    · have hle : counter ≤ recv.lastCounter := Int64.not_lt.mp hlt
      simp [PeerMessage.new, textPayload, hfresh, hlt, hle]
  · simp [PeerMessage.new, hfresh]

theorem handleInboundFrame_heartBeat_read
    {read : Bytes → Bytes} {fits : Bytes → Bool}
    (hreads : ReadsFrames P frames mine read fits) (sentAt now : Int64)
    (recv : RecvState) :
    handleInboundFrame P frames receiver recv
        ⟨read (itemBytes P frames mine (.heartBeat, sentAt)), now, true⟩ =
      (recv, true) := by
  cases hfits : fits (itemBytes P frames mine (.heartBeat, sentAt)) with
  | true =>
      obtain ⟨hslice, hverify⟩ := itemBytes_accepted hsig hround hmine hpeer
        hverifying (.heartBeat, sentAt)
      rw [(hreads _).1 hfits]
      simp only [handleInboundFrame, hslice, hverify, Bool.true_eq_false,
        if_false]
      by_cases hfresh : frameIsFresh sentAt now = true <;>
        simp [PeerMessage.new, hfresh]
  | false => exact handleInboundFrame_unreadable ((hreads _).2 hfits) recv

theorem handleInboundFrame_end_read
    {read : Bytes → Bytes} {fits : Bytes → Bool}
    (hreads : ReadsFrames P frames mine read fits) (sentAt now : Int64)
    (recv : RecvState) :
    (handleInboundFrame P frames receiver recv
      ⟨read (itemBytes P frames mine (.endOfConversation, sentAt)), now,
        true⟩).1 = recv := by
  cases hfits : fits (itemBytes P frames mine
      (.endOfConversation, sentAt)) with
  | true =>
      obtain ⟨hslice, hverify⟩ := itemBytes_accepted hsig hround hmine hpeer
        hverifying (.endOfConversation, sentAt)
      rw [(hreads _).1 hfits]
      simp only [handleInboundFrame, hslice, hverify, Bool.true_eq_false,
        if_false]
      by_cases hfresh : frameIsFresh sentAt now = true <;>
        simp [PeerMessage.new, hfresh]
  | false => rw [handleInboundFrame_unreadable ((hreads _).2 hfits) recv]

/-- A text that arrives in time is emitted if it is admitted and ahead of the
last counter, and changes nothing otherwise. -/
theorem handleInboundFrame_arrival
    (haead : P.AeadCorrect) {read : Bytes → Bytes} {fits : Bytes → Bool}
    (hreads : ReadsFrames P frames mine read fits) (arrival : TextArrival)
    (hin : arrival.silence ≤ sessionIdleTimeoutMillis) (recv : RecvState) :
    handleInboundFrame P frames receiver recv
        ⟨read (arrival.bytes P frames mine receiver.recvKey),
          arrival.arrivedAt, true⟩ =
      if admits P frames mine receiver.recvKey fits arrival = true ∧
          recv.lastCounter < arrival.counter then
        (⟨arrival.counter, recv.emitted ++ [arrival.event]⟩, true)
      else
        (recv, true) := by
  cases hfits : fits (arrival.bytes P frames mine receiver.recvKey) with
  | true =>
      have hintact : read (arrival.bytes P frames mine receiver.recvKey) =
          arrival.bytes P frames mine receiver.recvKey := (hreads _).1 hfits
      rw [hintact, admits, hfits, Bool.true_and, decide_eq_true hin,
        Bool.and_true]
      exact handleInboundFrame_text hsig hround hmine hpeer hverifying haead
        arrival.counter arrival.sentAt arrival.arrivedAt arrival.text recv
  | false =>
      have hunreadable := (hreads _).2 hfits
      simpa [admits, hfits] using
        handleInboundFrame_unreadable hunreadable recv

omit hsig hround hmine hpeer hverifying in
/-- Once the loop has timed out no text is admitted any more. -/
theorem acceptedTexts_of_late
    {sendKey : KeyType} {fits : Bytes → Bool} {waiting : Waiting}
    (hlate : sessionIdleTimeoutMillis < waiting.longest)
    (last counter : Int64) (transmissions : List Transmission) :
    acceptedTexts (admits P frames mine sendKey fits) last
      (textArrivals counter waiting transmissions) = [] := by
  apply acceptedTexts_eq_nil
  intro arrival hmem
  have hsilence := longest_le_silence hmem
  simp [admits, Nat.not_le.mpr (lt_of_lt_of_le hlate hsilence)]

/-- The receive loop that still waits emits exactly the texts that it
accepts. -/
theorem guarded_arrivals
    (haead : P.AeadCorrect) {read : Bytes → Bytes} {fits : Bytes → Bool}
    (hreads : ReadsFrames P frames mine read fits)
    (transmissions : List Transmission) (counter : Int64)
    {waiting : Waiting} (hwaits : waiting.longest ≤ sessionIdleTimeoutMillis)
    (recv : RecvState) :
    (guarded sessionIdleTimeoutMillis (handleInboundFrame P frames receiver)
      waiting.since recv
      ((arrivals (framesFrom P frames mine receiver.recvKey counter
        transmissions) transmissions).map (Timed.map
          (Delivery.readWith read)))).state.emitted =
      recv.emitted ++ (acceptedTexts
        (admits P frames mine receiver.recvKey fits) recv.lastCounter
        (textArrivals counter waiting transmissions)).map
          TextArrival.event := by
  induction transmissions generalizing counter waiting recv with
  | nil =>
      simp [arrivals, guarded, framesFrom, textArrivals, acceptedTexts]
  | cons transmission rest ih =>
      obtain ⟨outgoing, sentAt, came⟩ := transmission
      cases outgoing with
      | text text =>
          cases came with
          | none =>
              simpa [framesFrom, textArrivals] using
                ih (counter + 1) hwaits recv
          | some came =>
              let arrival : TextArrival := ⟨counter + 1, text, sentAt, came.now,
                (waiting.after came).longest⟩
              simp only [framesFrom, arrivals_cons, Option.map_some,
                Option.toList_some, List.singleton_append, List.map_cons]
              by_cases hin : came.instant ≤
                  waiting.since + sessionIdleTimeoutMillis
              · have hafter : (waiting.after came).longest ≤
                    sessionIdleTimeoutMillis :=
                  max_le hwaits (by omega)
                have hstep := handleInboundFrame_arrival hsig hround hmine
                  hpeer hverifying haead hreads arrival hafter recv
                simp only [textArrivals, acceptedTexts]
                split at hstep
                next haccepted =>
                  rw [guarded_of_next hin hstep, if_pos haccepted]
                  refine (ih (counter + 1) hafter _).trans ?_
                  simp [arrival]
                next haccepted =>
                  rw [guarded_of_next hin hstep, if_neg haccepted]
                  exact ih (counter + 1) hafter _
              · rw [guarded_of_late _ _ (Nat.not_le.mp hin)]
                have hlate : sessionIdleTimeoutMillis <
                    (waiting.after came).longest :=
                  lt_max_of_lt_right (by omega)
                simp only [textArrivals, acceptedTexts]
                rw [if_neg (by simp [admits, Nat.not_le.mpr hlate]),
                  acceptedTexts_of_late hlate]
                simp
      | heartbeat =>
          cases came with
          | none => simpa [framesFrom, textArrivals] using ih counter hwaits recv
          | some came =>
              simp only [framesFrom, textArrivals, arrivals_cons,
                Option.map_some, Option.toList_some, List.singleton_append,
                List.map_cons]
              by_cases hin : came.instant ≤
                  waiting.since + sessionIdleTimeoutMillis
              · have hstep := handleInboundFrame_heartBeat_read hsig hround
                  hmine hpeer hverifying hreads sentAt came.now recv
                have hafter : (waiting.after came).longest ≤
                    sessionIdleTimeoutMillis :=
                  max_le hwaits (by omega)
                rw [guarded_of_next hin hstep]
                exact ih counter hafter recv
              · rw [guarded_of_late _ _ (Nat.not_le.mp hin),
                  acceptedTexts_of_late (lt_max_of_lt_right (by omega))]
                simp
      | closed =>
          cases came with
          | none =>
              simp [framesFrom, arrivals, guarded, textArrivals, acceptedTexts]
          | some came =>
              simp only [framesFrom, textArrivals, arrivals_cons,
                Option.map_some, Option.toList_some, List.singleton_append,
                List.map_cons]
              by_cases hin : came.instant ≤
                  waiting.since + sessionIdleTimeoutMillis
              · have hstep := handleInboundFrame_end_read hsig hround hmine
                  hpeer hverifying hreads sentAt came.now recv
                simp only [arrivals, List.zip_nil_left, List.filterMap_nil,
                  List.map_nil, acceptedTexts, List.append_nil]
                rw [guarded_singleton_state hin]
                exact congrArg RecvState.emitted hstep
              · rw [guarded_of_late _ _ (Nat.not_le.mp hin)]
                simp [acceptedTexts]

end Received

/-! ## The two transports -/

section Agreement

variable {P : Primitives} {frames : Codec PeerMessage} {keys : Side → Keys}

theorem peerFrames_eq
    (hround : frames.RoundTrip)
    (hne : (keys .left).x25519Pub ≠ (keys .right).x25519Pub)
    (sessionKey : KeyType) (side : Side) (kind : TransportKind)
    (transmissions : List Transmission) :
    peerFrames P frames keys sessionKey side kind transmissions =
      framesFrom P frames (keys side.other)
        (sessionReceiver P keys sessionKey side).recvKey 0 transmissions := by
  rw [peerFrames, sendLoop_sent hround, sessionSender_sendKey hne]
  rfl

variable (hsig : P.SignatureCorrect) (haead : P.AeadCorrect)
  (hround : frames.RoundTrip)
  (hne : (keys .left).x25519Pub ≠ (keys .right).x25519Pub)
  (sessionKey : KeyType) {side : Side}
  (hgenuine : (keys side.other).Genuine P)
  (transmissions : List Transmission)

include hsig haead hround hne hgenuine

theorem relayReceived_eq :
    relayReceived P frames keys sessionKey side transmissions =
      (acceptedTexts (admits P frames (keys side.other)
        (sessionReceiver P keys sessionKey side).recvKey (fun _ => true))
        (-1) (textArrivals 0 .initial transmissions)).map TextArrival.event := by
  have hgot := guarded_arrivals hsig hround hgenuine
    (show (sessionReceiver P keys sessionKey side).peerX = _ from rfl) rfl
    haead readsFrames_id transmissions 0 Waiting.initial_in_time .initial
  rw [guarded_map fun _ _ => rfl] at hgot
  rw [relayReceived, peerFrames_eq hround hne]
  exact hgot

theorem relayReceived_eq_texts_iff :
    relayReceived P frames keys sessionKey side transmissions =
        (textArrivals 0 .initial transmissions).map TextArrival.event ↔
      (∀ arrival ∈ textArrivals 0 .initial transmissions,
        admits P frames (keys side.other)
          (sessionReceiver P keys sessionKey side).recvKey (fun _ => true)
          arrival = true) ∧
        CountersAscend (-1) (textArrivals 0 .initial transmissions) := by
  rw [relayReceived_eq hsig haead hround hne sessionKey hgenuine,
    map_acceptedTexts_eq_iff, acceptedTexts_eq_self_iff]

theorem directReceived_eq
    (htruncated : frames.RejectsTruncated) (remote : SocketAddr) :
    directReceived P frames keys sessionKey side remote transmissions =
      (acceptedTexts (admits P frames (keys side.other)
        (sessionReceiver P keys sessionKey side).recvKey fitsBuffer)
        (-1) (textArrivals 0 .initial transmissions)).map TextArrival.event := by
  have hgot := guarded_arrivals hsig hround hgenuine
    (show (sessionReceiver P keys sessionKey side).peerX = _ from rfl) rfl
    haead (readsFrames_recvFrom hround htruncated) transmissions 0
    Waiting.initial_in_time .initial
  rw [directReceived, peerFrames_eq hround hne, timedDirectRecvLoop_eq]
  exact hgot

theorem directReceived_eq_texts_iff
    (htruncated : frames.RejectsTruncated) (remote : SocketAddr) :
    directReceived P frames keys sessionKey side remote transmissions =
        (textArrivals 0 .initial transmissions).map TextArrival.event ↔
      (∀ arrival ∈ textArrivals 0 .initial transmissions,
        admits P frames (keys side.other)
          (sessionReceiver P keys sessionKey side).recvKey fitsBuffer
          arrival = true) ∧
        CountersAscend (-1) (textArrivals 0 .initial transmissions) := by
  rw [directReceived_eq hsig haead hround hne sessionKey hgenuine _
    htruncated, map_acceptedTexts_eq_iff, acceptedTexts_eq_self_iff]

/-- While the counters go up, both transports deliver the same texts exactly
if no frame that is fresh and in time is longer than the buffer of the direct
loop. -/
theorem directReceived_eq_relayReceived_iff
    (htruncated : frames.RejectsTruncated) (remote : SocketAddr)
    (hascend : CountersAscend (-1) (textArrivals 0 .initial transmissions)) :
    directReceived P frames keys sessionKey side remote transmissions =
        relayReceived P frames keys sessionKey side transmissions ↔
      ∀ arrival ∈ textArrivals 0 .initial transmissions,
        frameIsFresh arrival.sentAt arrival.arrivedAt = true →
        arrival.silence ≤ sessionIdleTimeoutMillis →
          (arrival.bytes P frames (keys side.other)
            (sessionReceiver P keys sessionKey side).recvKey).length ≤
              2048 := by
  rw [relayReceived_eq hsig haead hround hne sessionKey hgenuine,
    directReceived_eq hsig haead hround hne sessionKey hgenuine _ htruncated,
    acceptedTexts_eq_filter hascend, acceptedTexts_eq_filter hascend,
    map_filter_eq_iff]
  · simp only [admits, fitsBuffer, Bool.true_and, Bool.and_eq_true,
      decide_eq_true_eq]
    constructor
    · intro hall arrival hmem hfresh hin
      exact (hall arrival hmem ⟨hfresh, hin⟩).1
    · intro hall arrival hmem hadmitted
      exact ⟨hall arrival hmem hadmitted.1 hadmitted.2, hadmitted⟩
  · intro arrival hadmitted
    simp only [admits, Bool.and_eq_true] at hadmitted ⊢
    exact ⟨trivial, hadmitted.2⟩

end Agreement

/-- The texts which arrive over either transport are all emitted exactly if
their frames are fresh on arrival and fit into the buffer of the direct loop,
neither loop has timed out before, and their counters go up, which they do for
`2 ^ 63` turns of the send loop; then the two transports agree exactly if all
frames that are fresh and in time fit.  On frames that fit, whoever made them
and whenever they come, the two receive loops are the same. -/
theorem delivered_texts_emitted_iff
    {P : Primitives} (hsig : P.SignatureCorrect) (haead : P.AeadCorrect)
    {frames : Codec PeerMessage} (hround : frames.RoundTrip)
    (htruncated : frames.RejectsTruncated) {keys : Side → Keys}
    (hne : (keys .left).x25519Pub ≠ (keys .right).x25519Pub)
    (sessionKey : KeyType) {side : Side}
    (hgenuine : (keys side.other).Genuine P) (remote : SocketAddr) :
    (∀ transmissions,
      (directReceived P frames keys sessionKey side remote transmissions =
            (textArrivals 0 .initial transmissions).map TextArrival.event ∧
          relayReceived P frames keys sessionKey side transmissions =
            (textArrivals 0 .initial transmissions).map TextArrival.event ↔
        (∀ arrival ∈ textArrivals 0 .initial transmissions,
          frameIsFresh arrival.sentAt arrival.arrivedAt = true ∧
            arrival.silence ≤ sessionIdleTimeoutMillis ∧
            (arrival.bytes P frames (keys side.other)
              (sessionReceiver P keys sessionKey side).recvKey).length ≤
                2048) ∧
          CountersAscend (-1) (textArrivals 0 .initial transmissions)) ∧
      (transmissions.length < 2 ^ 63 →
        CountersAscend (-1) (textArrivals 0 .initial transmissions) ∧
        (directReceived P frames keys sessionKey side remote transmissions =
            relayReceived P frames keys sessionKey side transmissions ↔
          ∀ arrival ∈ textArrivals 0 .initial transmissions,
            frameIsFresh arrival.sentAt arrival.arrivedAt = true →
            arrival.silence ≤ sessionIdleTimeoutMillis →
              (arrival.bytes P frames (keys side.other)
                (sessionReceiver P keys sessionKey side).recvKey).length ≤
                  2048))) ∧
      ∀ receiver armed inbound,
        (∀ timed ∈ inbound, timed.item.bytes.length ≤ 2048) →
          timedDirectRecvLoop P frames receiver remote armed
              (inbound.map (Timed.map (Delivery.datagram remote))) =
            timedRecvLoop P frames receiver armed inbound := by
  refine ⟨fun transmissions => ⟨?_, fun hbound => ?_⟩,
    fun receiver armed inbound =>
      timedDirectRecvLoop_eq_timedRecvLoop remote armed⟩
  · rw [directReceived_eq_texts_iff hsig haead hround hne sessionKey hgenuine
        _ htruncated,
      relayReceived_eq_texts_iff hsig haead hround hne sessionKey hgenuine]
    simp only [admits, fitsBuffer, Bool.and_eq_true, decide_eq_true_eq,
      Bool.true_and]
    constructor
    · rintro ⟨⟨hadmitted, hascend⟩, _⟩
      refine ⟨fun arrival hmem => ?_, hascend⟩
      obtain ⟨hfits, hfresh, hin⟩ := hadmitted arrival hmem
      exact ⟨hfresh, hin, hfits⟩
    · rintro ⟨hadmitted, hascend⟩
      refine ⟨⟨fun arrival hmem => ?_, hascend⟩,
        fun arrival hmem => ?_, hascend⟩
      · obtain ⟨hfresh, hin, hfits⟩ := hadmitted arrival hmem
        exact ⟨hfits, hfresh, hin⟩
      · obtain ⟨hfresh, hin, _⟩ := hadmitted arrival hmem
        exact ⟨hfresh, hin⟩
  · have hascend : CountersAscend (-1)
        (textArrivals 0 .initial transmissions) :=
      textArrivals_ascend _ (by decide) (by decide)
        (by simpa using Int.ofNat_lt.mpr hbound)
    exact ⟨hascend, directReceived_eq_relayReceived_iff hsig haead hround hne
      sessionKey hgenuine _ htruncated remote hascend⟩

/-! ## A text that is too long -/

theorem transparent_frame_length
    (mine : Keys) (sendKey : KeyType) (arrival : TextArrival) :
    (arrival.bytes .transparent transparentFrames mine sendKey).length =
      320 + 2 * (utf8 arrival.text).length := by
  have hcipher : (encryptMessageForChat .transparent arrival.text sendKey
      arrival.counter.toUInt64).length = 44 + (utf8 arrival.text).length := by
    simp [encryptMessageForChat, Primitives.transparent, transparentEncrypt]
    omega
  have hbytes : arrival.bytes .transparent transparentFrames mine sendKey =
      packFields (i64ToLeBytes arrival.sentAt :: mine.x25519Pub.toList ::
        (PeerMessage.new .transparent
          (textPayload .transparent sendKey arrival.counter arrival.text)
          mine.x25519Pub mine.ed25519Signing arrival.sentAt).signature ::
        (textPayload .transparent sendKey arrival.counter
          arrival.text).transparentFields) := rfl
  rw [hbytes, packFields_length]
  simp [PeerMessage.new, textPayload, P2PMessage.transparentFields, hcipher]
  omega

def sampleTransmission (text : String) : Transmission :=
  ⟨.text text, 1000, some ⟨1010, 3000, 5⟩⟩

theorem textArrivals_sample (text : String) :
    textArrivals 0 .initial [sampleTransmission text] =
      [⟨1, text, 1000, 1010, 3000⟩] :=
  rfl

/-- A text, the heartbeats of the next minute, of which one is lost, and a
second text. -/
def sampleTransmissions : List Transmission :=
  [sampleTransmission "hi", ⟨.heartbeat, 1015, none⟩,
    ⟨.heartbeat, 1030, some ⟨1031, 31000, 0⟩⟩,
    ⟨.heartbeat, 1045, some ⟨1046, 46000, 0⟩⟩,
    ⟨.text "ho", 1060, some ⟨1061, 61000, 5⟩⟩]

theorem textArrivals_sampleTransmissions :
    textArrivals 0 .initial sampleTransmissions =
      [⟨1, "hi", 1000, 1010, 3000⟩, ⟨2, "ho", 1060, 1061, 27995⟩] :=
  rfl

theorem utf8_replicate_length (n : ℕ) :
    (utf8 (String.ofList (List.replicate n 'a'))).length = n := by
  have hchar : 'a'.utf8Size = 1 := by decide
  simp [utf8, List.utf8Encode, List.length_flatMap, hchar]

/-- Two short texts a minute apart are emitted on either transport. -/
theorem short_text_delivered :
    directReceived .transparent transparentFrames samplePair
        (Vector.replicate 32 2) .left "203.0.113.5:4000"
        sampleTransmissions = [.message "hi" 1000, .message "ho" 1060] ∧
      relayReceived .transparent transparentFrames samplePair
        (Vector.replicate 32 2) .left sampleTransmissions =
          [.message "hi" 1000, .message "ho" 1060] := by
  have hiff := ((delivered_texts_emitted_iff transparent_signatureCorrect
    transparent_aeadCorrect transparentFrames_roundTrip
    transparentFrames_rejectsTruncated samplePair_ne (Vector.replicate 32 2)
    (samplePair_genuine Side.left.other) "203.0.113.5:4000").1
    sampleTransmissions).1
  rw [textArrivals_sampleTransmissions] at hiff
  refine hiff.2 ⟨?_, by decide⟩
  intro arrival hmem
  simp only [List.mem_cons, List.not_mem_nil, or_false] at hmem
  rcases hmem with rfl | rfl
  · refine ⟨by decide, by decide, ?_⟩
    rw [transparent_frame_length]
    decide
  · refine ⟨by decide, by decide, ?_⟩
    rw [transparent_frame_length]
    decide

def longText : String := String.ofList (List.replicate 2100 'a')

/-- A text of 2100 letters is emitted over the relay and lost on the direct
transport. -/
theorem long_text_lost_on_direct :
    directReceived .transparent transparentFrames samplePair
        (Vector.replicate 32 2) .left "203.0.113.5:4000"
        [sampleTransmission longText] = [] ∧
      relayReceived .transparent transparentFrames samplePair
        (Vector.replicate 32 2) .left [sampleTransmission longText] =
          [.message longText 1000] := by
  have hlong (mine : Keys) (sendKey : KeyType) :
      fitsBuffer (TextArrival.bytes .transparent transparentFrames mine sendKey
        ⟨1, longText, 1000, 1010, 3000⟩) = false := by
    have hlength : (utf8 longText).length = 2100 := utf8_replicate_length 2100
    simp [fitsBuffer, transparent_frame_length, hlength]
  have hfresh : frameIsFresh 1000 1010 = true := by decide
  have hin : 3000 ≤ sessionIdleTimeoutMillis := by decide
  have hlt : (-1 : Int64) < 1 := by decide
  constructor
  · rw [directReceived_eq transparent_signatureCorrect transparent_aeadCorrect
        transparentFrames_roundTrip samplePair_ne _
        (samplePair_genuine Side.left.other) _
        transparentFrames_rejectsTruncated, textArrivals_sample]
    simp [acceptedTexts, admits, hlong]
  · rw [relayReceived_eq transparent_signatureCorrect transparent_aeadCorrect
        transparentFrames_roundTrip samplePair_ne _
        (samplePair_genuine Side.left.other), textArrivals_sample]
    simp [acceptedTexts, admits, hfresh, hin, hlt, TextArrival.event]

end SechatClient
