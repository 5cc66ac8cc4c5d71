import SechatClient.PeerFrames

/-!
# Send loops of a session

`start_session` derives one key per direction and spawns a send loop per
transport.  The two loops are separate copies in the source and differ when a
frame fails to serialise: the direct loop ends, the relay loop goes on.
-/

namespace SechatClient

open ByteStrings

/-- The two peers of a session. -/
inductive Side where
  | left
  | right
  deriving DecidableEq, Repr

def Side.other : Side → Side
  | .left => .right
  | .right => .left

@[simp] theorem Side.other_other (side : Side) : side.other.other = side := by
  cases side <;> rfl

theorem Side.eq_or_eq_other (side other : Side) :
    other = side ∨ other = side.other := by
  cases side <;> cases other <;> simp [Side.other]

@[simp] theorem Side.other_ne (side : Side) : side.other ≠ side := by
  cases side <;> simp [Side.other]

inductive TransportKind where
  | direct
  | relay
  deriving DecidableEq, Repr

def amIFirst (mypubkey remotePubkey : KeyType) : Bool :=
  decide (remotePubkey.toList < mypubkey.toList)

variable (P : Primitives)

def sessionKeys (sessionKey : KeyType) (amFirst : Bool) : KeyType × KeyType :=
  let labels :=
    if amFirst then (utf8 "a2b", utf8 "b2a") else (utf8 "b2a", utf8 "a2b")
  (deriveDirectionalKey P sessionKey labels.1,
    deriveDirectionalKey P sessionKey labels.2)

theorem sessionKeys_swap (sessionKey : KeyType) (amFirst : Bool) :
    (sessionKeys P sessionKey (!amFirst)).1 =
      (sessionKeys P sessionKey amFirst).2 := by
  cases amFirst <;> rfl

inductive Outgoing where
  | text (text : String)
  | closed
  | heartbeat

/-- Clock reading of a new frame, and whether the transport takes it. -/
structure SendEnv where
  now : Int64
  accepted : Bool

/-- The counter, the calls made to `encrypt_message_for_chat` so far, the key
and nonce which each of them handed to the cipher, and the frames handed to
the transport. -/
structure SendState where
  counter : Int64
  calls : List (Int64 × String)
  sealedUnder : List (KeyType × Nonce)
  sent : List Bytes

def SendState.initial : SendState := ⟨0, [], [], []⟩

structure Sender where
  kind : TransportKind
  sendKey : KeyType
  myPub : KeyType
  signing : KeyType

/-- The sender which `start_session` sets up on one side. -/
def sessionSender (keys : Side → Keys) (kind : TransportKind)
    (sessionKey : KeyType) (side : Side) : Sender where
  kind := kind
  sendKey := (sessionKeys P sessionKey
    (amIFirst (keys side).x25519Pub (keys side.other).x25519Pub)).1
  myPub := (keys side).x25519Pub
  signing := (keys side).ed25519Signing

variable (frames : Codec PeerMessage)

/-- Serialise, sign and hand over one payload; the flag tells whether the
loop goes on. -/
def transmit (sender : Sender) (env : SendEnv) (payload : P2PMessage)
    (state : SendState) : SendState × Bool :=
  match sender.kind, frame P frames payload sender.myPub sender.signing
      env.now with
  | .direct, none => (state, false)
  | .relay, none => (state, true)
  | _, some bytes =>
      if env.accepted then
        ({ state with sent := state.sent ++ [bytes] }, true)
      else
        (state, false)

/-- One turn of the send loop.  The 64-bit counter wraps in a release build. -/
def sendStep (sender : Sender) (state : SendState) :
    Outgoing × SendEnv → SendState × Bool
  | (.text text, env) =>
      let counter := state.counter + 1
      let cipher :=
        encryptMessageForChat P text sender.sendKey counter.toUInt64
      transmit P frames sender env (.chatMessage counter cipher)
        { state with
          counter := counter
          calls := state.calls ++ [(counter, text)]
          sealedUnder := state.sealedUnder ++
            [chatCipherInputs P sender.sendKey counter.toUInt64] }
  | (.closed, env) =>
      ((transmit P frames sender env .endOfConversation state).1, false)
  | (.heartbeat, env) => transmit P frames sender env .heartBeat state

def sendLoop (sender : Sender) :
    SendState → List (Outgoing × SendEnv) → SendState
  | state, [] => state
  | state, input :: rest =>
      match sendStep P frames sender state input with
      | (next, true) => sendLoop sender next rest
      | (next, false) => next

/-! ## Counters of the encryption calls -/

/-- The calls so far used the counters `1, 2, …` in order. -/
structure SendState.Numbered (state : SendState) : Prop where
  counter : state.counter = Int64.ofNat state.calls.length
  calls : state.calls.map Prod.fst =
    (List.range state.calls.length).map fun i => Int64.ofNat (i + 1)

theorem SendState.initial_numbered : SendState.initial.Numbered :=
  ⟨rfl, rfl⟩

@[simp] theorem transmit_counter
    (sender : Sender) (env : SendEnv) (payload : P2PMessage)
    (state : SendState) :
    (transmit P frames sender env payload state).1.counter =
      state.counter := by
  unfold transmit
  split <;> try rfl
  split <;> rfl

@[simp] theorem transmit_calls
    (sender : Sender) (env : SendEnv) (payload : P2PMessage)
    (state : SendState) :
    (transmit P frames sender env payload state).1.calls = state.calls := by
  unfold transmit
  split <;> try rfl
  split <;> rfl

@[simp] theorem transmit_sealedUnder
    (sender : Sender) (env : SendEnv) (payload : P2PMessage)
    (state : SendState) :
    (transmit P frames sender env payload state).1.sealedUnder =
      state.sealedUnder := by
  unfold transmit
  split <;> try rfl
  split <;> rfl

/-- What is handed over is the frame of the payload, or nothing. -/
theorem transmit_sent
    (sender : Sender) (env : SendEnv) (payload : P2PMessage)
    (state : SendState) {bytes : Bytes}
    (hmem : bytes ∈ (transmit P frames sender env payload state).1.sent) :
    bytes ∈ state.sent ∨
      frame P frames payload sender.myPub sender.signing env.now =
        some bytes := by
  unfold transmit at hmem
  split at hmem
  next => exact Or.inl hmem
  next => exact Or.inl hmem
  next written hframe =>
    split at hmem
    next =>
      rcases List.mem_append.mp hmem with hold | hnew
      · exact Or.inl hold
      · rw [List.mem_singleton.mp hnew]
        exact Or.inr hframe
    next => exact Or.inl hmem

theorem SendState.Numbered.of_eq
    {state next : SendState} (hnumbered : state.Numbered)
    (hcounter : next.counter = state.counter)
    (hcalls : next.calls = state.calls) : next.Numbered := by
  constructor
  · rw [hcounter, hcalls, hnumbered.counter]
  · rw [hcalls, hnumbered.calls]

theorem SendState.Numbered.counter_succ
    {state : SendState} (hnumbered : state.Numbered) :
    state.counter + 1 = Int64.ofNat (state.calls.length + 1) := by
  rw [hnumbered.counter, Int64.ofNat_add]
  rfl

theorem SendState.Numbered.push
    {state next : SendState} (hnumbered : state.Numbered) (text : String)
    (hcounter : next.counter = state.counter + 1)
    (hcalls : next.calls = state.calls ++ [(state.counter + 1, text)]) :
    next.Numbered := by
  have hnext := hnumbered.counter_succ
  constructor
  · rw [hcounter, hcalls, hnext]
    simp
  · rw [hcalls, List.length_append, List.length_singleton, List.range_succ,
      List.map_append, List.map_append, hnumbered.calls, hnext]
    rfl

theorem sendStep_numbered
    (sender : Sender) {state : SendState} (hnumbered : state.Numbered)
    (input : Outgoing × SendEnv) :
    (sendStep P frames sender state input).1.Numbered := by
  obtain ⟨outgoing, env⟩ := input
  cases outgoing with
  | text text => exact hnumbered.push text (by simp [sendStep]) (by simp [sendStep])
  | closed => exact hnumbered.of_eq (by simp [sendStep]) (by simp [sendStep])
  | heartbeat => exact hnumbered.of_eq (by simp [sendStep]) (by simp [sendStep])

theorem sendLoop_numbered
    (sender : Sender) {state : SendState} (hnumbered : state.Numbered)
    (inputs : List (Outgoing × SendEnv)) :
    (sendLoop P frames sender state inputs).Numbered := by
  induction inputs generalizing state with
  | nil => exact hnumbered
  | cons input rest ih =>
      have hstep := sendStep_numbered P frames sender hnumbered input
      unfold sendLoop
      cases hresult : sendStep P frames sender state input with
      | mk next goesOn =>
          rw [hresult] at hstep
          cases goesOn with
          | true => exact ih hstep
          | false => exact hstep

theorem SendState.Numbered.calls_pairwise
    {state : SendState} (hnumbered : state.Numbered)
    (hbound : state.calls.length < 2 ^ 63) :
    state.calls.Pairwise fun x y => x.1.toInt < y.1.toInt := by
  have hcounters : (state.calls.map Prod.fst).Pairwise
      fun x y => x.toInt < y.toInt := by
    rw [hnumbered.calls, List.pairwise_map]
    refine List.Pairwise.imp_of_mem ?_ List.pairwise_lt_range
    intro i j hi hj hlt
    rw [List.mem_range] at hi hj
    rw [Int64.toInt_ofNat_of_lt (by omega), Int64.toInt_ofNat_of_lt (by omega)]
    omega
  rwa [List.pairwise_map] at hcounters

def samplePair : Side → Keys
  | .left => sampleKeys 1
  | .right => sampleKeys 3

theorem samplePair_genuine (side : Side) :
    (samplePair side).Genuine .transparent := by
  cases side <;> exact sampleKeys_genuine _

theorem samplePair_ne :
    (samplePair .left).x25519Pub ≠ (samplePair .right).x25519Pub := by
  decide

end SechatClient
