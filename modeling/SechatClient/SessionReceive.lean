import SechatClient.SessionSend
import SechatClient.RunningMaxima

/-!
# Receive loop of a session

`handle_inbound_frame` and the loop around it, fed with any byte strings.  A
delivery is a byte string with the clock reading at its arrival and whether
the event channel is still open.  The emitted messages are the frames that
open and whose counter leads: it exceeds the counter of every earlier frame
that opens.
-/

namespace SechatClient

open ByteStrings RunningMaxima

inductive SessionEvent where
  | message (text : String) (timestamp : Int64)
  | closed
  deriving DecidableEq

structure Delivery where
  bytes : Bytes
  now : Int64
  evtOpen : Bool

structure Receiver where
  recvKey : KeyType
  peerX : KeyType
  verifying : KeyType

structure RecvState where
  lastCounter : Int64
  emitted : List SessionEvent

def RecvState.initial : RecvState := ⟨-1, []⟩

variable (P : Primitives) (frames : Codec PeerMessage) (receiver : Receiver)

/-- The returned flag tells whether the loop goes on. -/
def handleInboundFrame (state : RecvState) (delivery : Delivery) :
    RecvState × Bool :=
  match frames.fromSlice delivery.bytes with
  | .error _ => (state, true)
  | .ok pm =>
      if pm.verify P receiver.peerX receiver.verifying = false then
        (state, true)
      else if frameIsFresh pm.timestamp delivery.now = false then
        (state, true)
      else
        match pm.payload with
        | .chatMessage counter messageBytes =>
            if counter ≤ state.lastCounter then
              (state, true)
            else
              match decryptMessageFromChat P messageBytes receiver.recvKey
                  counter.toUInt64 with
              | .error _ => (state, true)
              | .ok text =>
                  -- the counter advances even if the event is then refused
                  if delivery.evtOpen then
                    (⟨counter,
                      state.emitted ++ [.message text pm.timestamp]⟩, true)
                  else
                    (⟨counter, state.emitted⟩, false)
        | .endOfConversation => (state, false)
        | _ => (state, true)

/-- A run of the receive loop: its state, the deliveries fed to
`handle_inbound_frame`, and whether a frame stopped it. -/
structure RecvRun where
  state : RecvState
  fed : List Delivery
  stopped : Bool

def recvLoop : RecvState → List Delivery → RecvRun
  | state, [] => ⟨state, [], false⟩
  | state, delivery :: rest =>
      match handleInboundFrame P frames receiver state delivery with
      | (next, true) =>
          let run := recvLoop next rest
          ⟨run.state, delivery :: run.fed, run.stopped⟩
      | (next, false) => ⟨next, [delivery], true⟩

/-! ## What a frame opens to -/

def genuineFrame (delivery : Delivery) : Option PeerMessage :=
  match frames.fromSlice delivery.bytes with
  | .error _ => none
  | .ok pm =>
      if pm.verify P receiver.peerX receiver.verifying = true ∧
          frameIsFresh pm.timestamp delivery.now = true then
        some pm
      else
        none

structure OpenedChat where
  counter : Int64
  text : String
  timestamp : Int64

/-- The chat message of a frame that decodes, verifies, is fresh and decrypts
under the receive key at its own counter. -/
def openedChat (delivery : Delivery) : Option OpenedChat :=
  match genuineFrame P frames receiver delivery with
  | none => none
  | some pm =>
      match pm.payload with
      | .chatMessage counter messageBytes =>
          match decryptMessageFromChat P messageBytes receiver.recvKey
              counter.toUInt64 with
          | .error _ => none
          | .ok text => some ⟨counter, text, pm.timestamp⟩
      | _ => none

def IsFreshEnd (delivery : Delivery) : Prop :=
  ∃ pm, genuineFrame P frames receiver delivery = some pm ∧
    pm.payload = .endOfConversation

/-- The counter of a frame that opens with a counter of at least zero. -/
def chatCounter (delivery : Delivery) : Option ℤ :=
  match openedChat P frames receiver delivery with
  | none => none
  | some chat => if 0 ≤ chat.counter.toInt then some chat.counter.toInt else none

def deliveredEvent (delivery : Delivery) : Option SessionEvent :=
  if delivery.evtOpen then
    (openedChat P frames receiver delivery).map fun chat =>
      .message chat.text chat.timestamp
  else
    none

/-- The specification of the emitted list: the events of the leading
deliveries, in order. -/
def deliveredEvents (deliveries : List Delivery) : List SessionEvent :=
  (leaders (chatCounter P frames receiver) deliveries).filterMap
    (deliveredEvent P frames receiver)

/-! ## One frame -/

section Step

variable {P frames receiver}

variable (P frames receiver) in
/-- Everything `handle_inbound_frame` can do with a frame. -/
theorem handleInboundFrame_cases (state : RecvState) (delivery : Delivery) :
    (∃ chat, openedChat P frames receiver delivery = some chat ∧
        state.lastCounter.toInt < chat.counter.toInt ∧
        handleInboundFrame P frames receiver state delivery =
          if delivery.evtOpen then
            (⟨chat.counter,
              state.emitted ++ [.message chat.text chat.timestamp]⟩, true)
          else
            (⟨chat.counter, state.emitted⟩, false)) ∨
      ((∀ chat, openedChat P frames receiver delivery = some chat →
          chat.counter.toInt ≤ state.lastCounter.toInt) ∧
        ((IsFreshEnd P frames receiver delivery ∧
            handleInboundFrame P frames receiver state delivery =
              (state, false)) ∨
          (¬ IsFreshEnd P frames receiver delivery ∧
            handleInboundFrame P frames receiver state delivery =
              (state, true)))) := by
  cases hslice : frames.fromSlice delivery.bytes with
  | error e =>
      simp [handleInboundFrame, openedChat, IsFreshEnd, genuineFrame, hslice]
  | ok pm =>
      by_cases hverify :
          pm.verify P receiver.peerX receiver.verifying = true
      swap
      · simp [handleInboundFrame, openedChat, IsFreshEnd, genuineFrame,
          hslice, hverify]
      by_cases hfresh : frameIsFresh pm.timestamp delivery.now = true
      swap
      · simp [handleInboundFrame, openedChat, IsFreshEnd, genuineFrame,
          hslice, hverify, hfresh]
      have hgenuine : genuineFrame P frames receiver delivery = some pm := by
        simp [genuineFrame, hslice, hverify, hfresh]
      cases hpayload : pm.payload with
      | chatMessage counter messageBytes =>
          cases hdecrypt : decryptMessageFromChat P messageBytes
              receiver.recvKey counter.toUInt64 with
          | error e =>
              simp [handleInboundFrame, openedChat, IsFreshEnd, hgenuine,
                hslice, hverify, hfresh, hpayload, hdecrypt]
          | ok text =>
              by_cases hle : counter ≤ state.lastCounter
              · have hleInt := Int64.le_iff_toInt_le.mp hle
                simp [handleInboundFrame, openedChat, IsFreshEnd, hgenuine,
                  hslice, hverify, hfresh, hpayload, hdecrypt, hle, hleInt]
              · left
                have hlt : state.lastCounter.toInt < counter.toInt := by
                  rw [Int64.le_iff_toInt_le] at hle
                  exact not_le.mp hle
                refine ⟨⟨counter, text, pm.timestamp⟩, ?_, hlt, ?_⟩
                · simp [openedChat, hgenuine, hpayload, hdecrypt]
                · simp [handleInboundFrame, hslice, hverify, hfresh,
                    hpayload, hdecrypt, hle]
      | init ephermal =>
          simp [handleInboundFrame, openedChat, IsFreshEnd, hgenuine,
            hslice, hverify, hfresh, hpayload]
      | heartBeat =>
          simp [handleInboundFrame, openedChat, IsFreshEnd, hgenuine,
            hslice, hverify, hfresh, hpayload]
      | syncRequest lastTimestamp =>
          simp [handleInboundFrame, openedChat, IsFreshEnd, hgenuine,
            hslice, hverify, hfresh, hpayload]
      | syncResponse messages =>
          simp [handleInboundFrame, openedChat, IsFreshEnd, hgenuine,
            hslice, hverify, hfresh, hpayload]
      | endOfConversation =>
          simp [handleInboundFrame, openedChat, IsFreshEnd, hgenuine,
            hslice, hverify, hfresh, hpayload]

/-- The counter and the emitted list after the deliveries `before`. -/
structure RecvInvariant (P : Primitives) (frames : Codec PeerMessage)
    (receiver : Receiver) (before : List Delivery) (state : RecvState) :
    Prop where
  tracks : Tracks (chatCounter P frames receiver) (-1) before
    state.lastCounter.toInt
  emitted : state.emitted = deliveredEvents P frames receiver before

theorem RecvInvariant.initial :
    RecvInvariant P frames receiver [] RecvState.initial where
  tracks := Tracks.nil (-1)
  emitted := rfl

theorem deliveredEvents_append (before : List Delivery) (delivery : Delivery) :
    deliveredEvents P frames receiver (before ++ [delivery]) =
      deliveredEvents P frames receiver before ++
        (if leads (chatCounter P frames receiver) before delivery then
          (deliveredEvent P frames receiver delivery).toList
        else
          []) := by
  unfold deliveredEvents
  rw [leaders_append, List.filterMap_append]
  congr 1
  by_cases hleads : leads (chatCounter P frames receiver) before delivery
  · rw [if_pos hleads, if_pos hleads]
    cases hevent : deliveredEvent P frames receiver delivery <;>
      simp [hevent]
  · rw [if_neg hleads, if_neg hleads]
    rfl

theorem chatCounter_of_openedChat
    {delivery : Delivery} {chat : OpenedChat}
    (hopen : openedChat P frames receiver delivery = some chat)
    (hcounter : 0 ≤ chat.counter.toInt) :
    chatCounter P frames receiver delivery = some chat.counter.toInt := by
  simp [chatCounter, hopen, hcounter]

theorem chatCounter_eq_some
    {delivery : Delivery} {counter : ℤ}
    (hcounter : chatCounter P frames receiver delivery = some counter) :
    ∃ chat, openedChat P frames receiver delivery = some chat ∧
      chat.counter.toInt = counter ∧ 0 ≤ counter := by
  unfold chatCounter at hcounter
  cases hopen : openedChat P frames receiver delivery with
  | none => simp [hopen] at hcounter
  | some chat =>
      rw [hopen] at hcounter
      simp only at hcounter
      split at hcounter
      next hnonneg =>
        cases hcounter
        exact ⟨chat, rfl, rfl, hnonneg⟩
      next => simp at hcounter

theorem RecvInvariant.not_leads
    {before : List Delivery} {state : RecvState}
    (hinv : RecvInvariant P frames receiver before state)
    {delivery : Delivery}
    (hlow : ∀ chat, openedChat P frames receiver delivery = some chat →
      chat.counter.toInt ≤ state.lastCounter.toInt) :
    leads (chatCounter P frames receiver) before delivery = false := by
  rw [Bool.eq_false_iff]
  intro hleads
  obtain ⟨top, htop, _⟩ := leads_eq_true_iff.mp hleads
  obtain ⟨chat, hopen, rfl, hnonneg⟩ := chatCounter_eq_some htop
  have hlt := (hinv.tracks.leads_iff htop (by omega)).mp hleads
  have hle := hlow chat hopen
  omega

theorem RecvInvariant.step
    {before : List Delivery} {state : RecvState}
    (hinv : RecvInvariant P frames receiver before state)
    (delivery : Delivery) :
    RecvInvariant P frames receiver (before ++ [delivery])
      (handleInboundFrame P frames receiver state delivery).1 := by
  rcases handleInboundFrame_cases P frames receiver state delivery with
    ⟨chat, hopen, hlt, hresult⟩ | ⟨hlow, hrest⟩
  · have hfloor := hinv.tracks.floor_le
    have hnonneg : 0 ≤ chat.counter.toInt := by omega
    have hkey := chatCounter_of_openedChat hopen hnonneg
    have hleads : leads (chatCounter P frames receiver) before delivery =
        true := (hinv.tracks.leads_iff hkey (by omega)).mpr hlt
    rw [hresult]
    cases hevt : delivery.evtOpen with
    | true =>
        refine ⟨hinv.tracks.append_leading hkey hlt, ?_⟩
        rw [deliveredEvents_append, if_pos hleads, ← hinv.emitted]
        simp [deliveredEvent, hevt, hopen]
    | false =>
        refine ⟨hinv.tracks.append_leading hkey hlt, ?_⟩
        rw [deliveredEvents_append, if_pos hleads, ← hinv.emitted]
        simp [deliveredEvent, hevt]
  · have hstate :
        (handleInboundFrame P frames receiver state delivery).1 = state := by
      rcases hrest with ⟨_, hresult⟩ | ⟨_, hresult⟩ <;> rw [hresult]
    rw [hstate]
    refine ⟨hinv.tracks.append_trailing ?_, ?_⟩
    · intro top htop
      obtain ⟨chat, hopen, rfl, _⟩ := chatCounter_eq_some htop
      exact hlow chat hopen
    · rw [deliveredEvents_append, hinv.not_leads hlow, ← hinv.emitted]
      simp

theorem RecvInvariant.handle_eq_of_not_leads
    {before : List Delivery} {state : RecvState}
    (hinv : RecvInvariant P frames receiver before state)
    {delivery : Delivery}
    (hleads : leads (chatCounter P frames receiver) before delivery = false)
    (hend : ¬ IsFreshEnd P frames receiver delivery) :
    handleInboundFrame P frames receiver state delivery = (state, true) := by
  rcases handleInboundFrame_cases P frames receiver state delivery with
    ⟨chat, hopen, hlt, _⟩ | ⟨_, hfreshEnd | hresult⟩
  · have hfloor := hinv.tracks.floor_le
    have hkey := chatCounter_of_openedChat hopen (by omega)
    have hcontra := (hinv.tracks.leads_iff hkey (by omega)).mpr hlt
    rw [hleads] at hcontra
    contradiction
  · exact absurd hfreshEnd.1 hend
  · exact hresult.2

end Step

/-! ## Whole runs -/

section Run

variable {P frames receiver}

theorem recvLoop_fed_prefix_deliveries (state : RecvState) (deliveries : List Delivery) :
    (recvLoop P frames receiver state deliveries).fed <+: deliveries := by
  induction deliveries generalizing state with
  | nil => exact List.prefix_refl _
  | cons delivery rest ih =>
      unfold recvLoop
      cases hresult : handleInboundFrame P frames receiver state delivery with
      | mk next goesOn =>
          cases goesOn with
          | true => exact (List.prefix_cons_inj delivery).mpr (ih next)
          | false => exact List.prefix_append [delivery] rest

theorem recvLoop_fed_of_not_stopped
    {state : RecvState} {deliveries : List Delivery}
    (hrun : (recvLoop P frames receiver state deliveries).stopped = false) :
    (recvLoop P frames receiver state deliveries).fed = deliveries := by
  induction deliveries generalizing state with
  | nil => rfl
  | cons delivery rest ih =>
      unfold recvLoop at hrun ⊢
      cases hresult : handleInboundFrame P frames receiver state delivery with
      | mk next goesOn =>
          cases goesOn with
          | true =>
              simp only [hresult] at hrun ⊢
              rw [ih hrun]
          | false => simp [hresult] at hrun

theorem recvLoop_invariant
    {before : List Delivery} {state : RecvState}
    (hinv : RecvInvariant P frames receiver before state)
    (deliveries : List Delivery) :
    RecvInvariant P frames receiver
      (before ++ (recvLoop P frames receiver state deliveries).fed)
      (recvLoop P frames receiver state deliveries).state := by
  induction deliveries generalizing before state with
  | nil => simpa [recvLoop] using hinv
  | cons delivery rest ih =>
      have hstep := hinv.step delivery
      unfold recvLoop
      cases hresult : handleInboundFrame P frames receiver state delivery with
      | mk next goesOn =>
          rw [hresult] at hstep
          cases goesOn with
          | true =>
              have hrest := ih hstep
              simpa [List.append_assoc] using hrest
          | false => exact hstep

theorem handleInboundFrame_stops
    {state : RecvState} {delivery : Delivery}
    (hstop : (handleInboundFrame P frames receiver state delivery).2 = false) :
    IsFreshEnd P frames receiver delivery ∨ delivery.evtOpen = false := by
  rcases handleInboundFrame_cases P frames receiver state delivery with
    ⟨chat, _, _, hresult⟩ | ⟨_, hfreshEnd | ⟨_, hresult⟩⟩
  · right
    rw [hresult] at hstop
    cases hevt : delivery.evtOpen with
    | true => simp [hevt] at hstop
    | false => rfl
  · exact Or.inl hfreshEnd.1
  · rw [hresult] at hstop
    contradiction

theorem recvLoop_stopped
    {state : RecvState} {deliveries : List Delivery}
    (hrun : (recvLoop P frames receiver state deliveries).stopped = true) :
    ∃ front last,
      (recvLoop P frames receiver state deliveries).fed = front ++ [last] ∧
        (IsFreshEnd P frames receiver last ∨ last.evtOpen = false) := by
  induction deliveries generalizing state with
  | nil => simp [recvLoop] at hrun
  | cons delivery rest ih =>
      unfold recvLoop at hrun ⊢
      cases hresult : handleInboundFrame P frames receiver state delivery with
      | mk next goesOn =>
          cases goesOn with
          | true =>
              simp only [hresult] at hrun ⊢
              obtain ⟨front, last, hfed, hlast⟩ := ih hrun
              refine ⟨delivery :: front, last, ?_, hlast⟩
              rw [hfed, List.cons_append]
          | false =>
              refine ⟨[], delivery, rfl, ?_⟩
              have hstop : (handleInboundFrame P frames receiver state
                  delivery).2 = false := by rw [hresult]
              exact handleInboundFrame_stops hstop

theorem recvLoop_append
    {state : RecvState} {before : List Delivery}
    (hrun : (recvLoop P frames receiver state before).stopped = false)
    (delivery : Delivery) :
    recvLoop P frames receiver state (before ++ [delivery]) =
      ⟨(handleInboundFrame P frames receiver
          (recvLoop P frames receiver state before).state delivery).1,
        before ++ [delivery],
        !(handleInboundFrame P frames receiver
          (recvLoop P frames receiver state before).state delivery).2⟩ := by
  induction before generalizing state with
  | nil =>
      simp only [recvLoop, List.nil_append]
      cases handleInboundFrame P frames receiver state delivery with
      | mk next goesOn => cases goesOn <;> rfl
  | cons head rest ih =>
      cases hresult : handleInboundFrame P frames receiver state head with
      | mk next goesOn =>
          cases goesOn with
          | true =>
              simp only [recvLoop, hresult] at hrun
              simp only [List.cons_append, recvLoop, hresult, ih hrun]
          | false => simp [recvLoop, hresult] at hrun

theorem recvLoop_append_of_not_leads
    {before : List Delivery} {delivery : Delivery}
    (hrun : (recvLoop P frames receiver .initial before).stopped = false)
    (hleads : leads (chatCounter P frames receiver) before delivery = false)
    (hend : ¬ IsFreshEnd P frames receiver delivery) :
    recvLoop P frames receiver .initial (before ++ [delivery]) =
      ⟨(recvLoop P frames receiver .initial before).state,
        before ++ [delivery], false⟩ := by
  have hinitial : RecvInvariant P frames receiver [] .initial := .initial
  have hinv := recvLoop_invariant hinitial before
  rw [recvLoop_fed_of_not_stopped hrun, List.nil_append] at hinv
  rw [recvLoop_append hrun, hinv.handle_eq_of_not_leads hleads hend]
  rfl

end Run

end SechatClient
