import SechatClient.Datagrams
import SechatClient.SessionReceive
import SechatClient.StepSystem

/-!
# Readers of the shared socket

All direct sessions, hole punches, handshakes and the STUN discovery of one
client read from one UDP socket.  A datagram is removed from the socket by
whichever reader gets it, and only then does that reader look at its source
or content; what it does not want is dropped.
-/

namespace SechatClient

open ByteStrings StepSystem

/-- What a task waits for on the socket.  A connect attempt punches, shakes
hands and ends as a session's receive loop. -/
inductive SocketReader where
  | punching (peer : PeerPublic) (timestamp : UInt64) (ephPriv : KeyType)
  | handshaking (peer : PeerPublic) (ephPriv : KeyType) (remote : SocketAddr)
  | session (remote : SocketAddr) (receiver : Receiver) (recv : RecvState)
  | discovering (tries : ℕ)

/-- `handled` lists the calls of `handle_inbound_frame`, with the task whose
session made them. -/
structure SocketState where
  readers : ℕ → Option SocketReader
  handled : List (ℕ × Delivery)

def SocketState.initial : SocketState := ⟨fun _ => none, []⟩

/-- A datagram with the clock reading and the state of the session's event
channel when it is read. -/
structure Datagram where
  src : SocketAddr
  bytes : Bytes
  now : Int64
  evtOpen : Bool

inductive SocketLabel where
  | connect (task : ℕ) (peer : PeerPublic) (timestamp : UInt64)
      (ephPriv : KeyType)
  | discover (task : ℕ)
  | datagram (datagram : Datagram) (task : ℕ)
  | timeout (task : ℕ)

section Steps

variable (P : Primitives) (frames : Codec PeerMessage) (pings : Codec Ping)
  (replies : Codec StunReply) (keys : Keys)

def SocketReader.started (peer : PeerPublic) (key : KeyType)
    (remote : SocketAddr) : SocketReader :=
  .session remote
    { recvKey := (sessionKeys P key
        (amIFirst keys.x25519Pub peer.publicKey)).2
      peerX := peer.publicKey
      verifying := peer.verifying } .initial

def Datagram.delivery (datagram : Datagram) : Delivery :=
  ⟨recvFrom 2048 datagram.bytes, datagram.now, datagram.evtOpen⟩

/-- What a reader does with a datagram it got: what it waits for next, if it
stays on the socket, and what it handed to `handle_inbound_frame`. -/
def SocketReader.read (datagram : Datagram) :
    SocketReader → Option SocketReader × Option Delivery
  | .punching peer timestamp ephPriv =>
      match punchHoleRecv pings timestamp peer.publicKey datagram.src
          (recvFrom 1024 datagram.bytes) with
      | none => (some (.punching peer timestamp ephPriv), none)
      | some remote => (some (.handshaking peer ephPriv remote), none)
  | .handshaking peer ephPriv remote =>
      match handshakeRecv P frames peer ephPriv datagram.now
          (recvFrom 1024 datagram.bytes) with
      | none => (some (.handshaking peer ephPriv remote), none)
      | some key => (some (.started P keys peer key remote), none)
  | .session remote receiver recv =>
      if datagram.src ≠ remote then
        (some (.session remote receiver recv), none)
      else
        match handleInboundFrame P frames receiver recv datagram.delivery with
        | (next, true) =>
            (some (.session remote receiver next), some datagram.delivery)
        | (_, false) => (none, some datagram.delivery)
  | .discovering tries =>
      match stunRecv replies (recvFrom 512 datagram.bytes) with
      | some _ => (none, none)
      | none =>
          if 1 < tries then (some (.discovering (tries - 1)), none)
          else (none, none)

def SocketReader.expire : SocketReader → Option SocketReader
  | .discovering tries =>
      if 1 < tries then some (.discovering (tries - 1)) else none
  | _ => none

def SocketState.setReader (state : SocketState) (task : ℕ)
    (reader : Option SocketReader) : SocketState :=
  { state with readers := Function.update state.readers task reader }

def socketStep (state : SocketState) : SocketLabel → Option SocketState
  | .connect task peer timestamp ephPriv =>
      match state.readers task with
      | none =>
          some (state.setReader task (some (.punching peer timestamp ephPriv)))
      | some _ => none
  | .discover task =>
      match state.readers task with
      | none => some (state.setReader task (some (.discovering 3)))
      | some _ => none
  | .datagram datagram task =>
      match state.readers task with
      | none => none
      | some reader =>
          let result := reader.read P frames pings replies keys datagram
          some { state.setReader task result.1 with
            handled := state.handled ++
              result.2.toList.map fun delivery => (task, delivery) }
  | .timeout task =>
      match state.readers task with
      | none => none
      | some reader => some (state.setReader task reader.expire)

def FromSession (state : SocketState) (datagram : Datagram) (session : ℕ) :
    Prop :=
  ∃ receiver recv,
    state.readers session = some (.session datagram.src receiver recv)

/-- A datagram of a live session that is read now is handed to that session. -/
def SessionDatagramHandled (state : SocketState) (label : SocketLabel) :
    Prop :=
  ∀ datagram task, label = .datagram datagram task →
    ∀ session, FromSession state datagram session →
      ∀ next, socketStep P frames pings replies keys state label = some next →
        next.handled = state.handled ++ [(session, datagram.delivery)]

end Steps

/-- When a datagram of a live session is read, the session is the only
reader of the socket. -/
def SoleReader (state : SocketState) (label : SocketLabel) : Prop :=
  ∀ datagram task, label = .datagram datagram task →
    ∀ session, FromSession state datagram session →
      ∀ other, state.readers other ≠ none → other = session

/-! ## One datagram -/

section Step

variable {P : Primitives} {frames : Codec PeerMessage} {pings : Codec Ping}
  {replies : Codec StunReply} {keys : Keys}

theorem read_session
    (datagram : Datagram) (receiver : Receiver) (recv : RecvState) :
    ((SocketReader.session datagram.src receiver recv).read P frames pings
      replies keys datagram).2 = some datagram.delivery := by
  simp only [SocketReader.read, ne_eq, not_true_eq_false, if_false]
  split <;> rfl

theorem socketStep_datagram
    {state next : SocketState} {datagram : Datagram} {task : ℕ}
    (hstep : socketStep P frames pings replies keys state
      (.datagram datagram task) = some next) :
    ∃ reader, state.readers task = some reader ∧
      next.handled = state.handled ++
        (reader.read P frames pings replies keys datagram).2.toList.map
          fun delivery => (task, delivery) := by
  simp only [socketStep] at hstep
  split at hstep
  next => contradiction
  next reader hreader =>
    cases hstep
    exact ⟨reader, hreader, rfl⟩

theorem handled_iff_own_loop
    {state next : SocketState} {datagram : Datagram} {task session : ℕ}
    (hfrom : FromSession state datagram session)
    (hstep : socketStep P frames pings replies keys state
      (.datagram datagram task) = some next) :
    next.handled = state.handled ++ [(session, datagram.delivery)] ↔
      task = session := by
  obtain ⟨reader, hreader, hhandled⟩ := socketStep_datagram hstep
  rw [hhandled, List.append_cancel_left_eq]
  constructor
  · intro heq
    cases hread : (reader.read P frames pings replies keys datagram).2 with
    | none => simp [hread] at heq
    | some delivery =>
        simp only [hread, Option.toList_some, List.map_cons, List.map_nil,
          List.cons.injEq, Prod.mk.injEq] at heq
        exact heq.1.1
  · rintro rfl
    obtain ⟨receiver, recv, hsession⟩ := hfrom
    rw [hsession, Option.some_inj] at hreader
    subst hreader
    simp [read_session]

/-- Every assignment of the datagram to a reader hands it to its session
exactly when no other task reads from the socket. -/
theorem handled_by_every_reader_iff
    {state : SocketState} {datagram : Datagram} {session : ℕ}
    (hfrom : FromSession state datagram session) :
    (∀ task next, socketStep P frames pings replies keys state
        (.datagram datagram task) = some next →
      next.handled = state.handled ++ [(session, datagram.delivery)]) ↔
      ∀ other, state.readers other ≠ none → other = session := by
  constructor
  · intro hall other hother
    obtain ⟨reader, hreader⟩ := Option.ne_none_iff_exists'.mp hother
    have hstep : ∃ next, socketStep P frames pings replies keys state
        (.datagram datagram other) = some next := by
      simp [socketStep, hreader]
    obtain ⟨next, hstep⟩ := hstep
    exact (handled_iff_own_loop hfrom hstep).mp (hall other next hstep)
  · intro hsole task next hstep
    obtain ⟨reader, hreader, _⟩ := socketStep_datagram hstep
    refine (handled_iff_own_loop hfrom hstep).mpr (hsole task ?_)
    simp [hreader]

end Step

section Run

variable (P : Primitives) (frames : Codec PeerMessage) (pings : Codec Ping)
  (replies : Codec StunReply) (keys : Keys)

/-- In a run in which a session is the only reader whenever one of its
datagrams is read, every such datagram is handed to its session.  And in any
state reached, every reader may get the datagram without loss exactly when
the session is the only one. -/
theorem session_datagrams_handled_iff (labels : List SocketLabel) :
    (AllSteps (socketStep P frames pings replies keys) SoleReader .initial
        labels →
      AllSteps (socketStep P frames pings replies keys)
        (SessionDatagramHandled P frames pings replies keys) .initial
        labels) ∧
    ∀ state, runFrom (socketStep P frames pings replies keys) .initial
        labels = some state →
      ∀ datagram session, FromSession state datagram session →
        ((∀ task next, socketStep P frames pings replies keys state
            (.datagram datagram task) = some next →
          next.handled = state.handled ++ [(session, datagram.delivery)]) ↔
          ∀ other, state.readers other ≠ none → other = session) := by
  refine ⟨?_, ?_⟩
  · apply allSteps_mono
    rintro state label hsole datagram task rfl session hfrom next hstep
    exact (handled_by_every_reader_iff hfrom).mpr
      (hsole datagram task rfl session hfrom) task next hstep
  · intro state _ datagram session hfrom
    exact handled_by_every_reader_iff hfrom

end Run

/-! ## A second reader -/

def directSessionRun : List SocketLabel :=
  [.connect 0 (sampleKeys 2).publicPart 77 (Vector.replicate 32 5),
    .datagram ⟨"203.0.113.7:4000", samplePing, 1000, true⟩ 0,
    .datagram ⟨"203.0.113.7:4000", sampleInit, 1000, true⟩ 0]

def directSessionState : SocketState where
  readers := Function.update (fun _ => none) 0
    (some (.started .transparent (sampleKeys 1) (sampleKeys 2).publicPart
      (deriveSessionKey .transparent (Vector.replicate 32 5)
        (Vector.replicate 32 9)) "203.0.113.7:4000"))
  handled := []

theorem directSessionRun_eq :
    runFrom (socketStep .transparent transparentFrames transparentPings
      transparentReplies (sampleKeys 1)) .initial directSessionRun =
        some directSessionState := by
  simp [directSessionRun, directSessionState, runFrom, socketStep,
    SocketState.initial, SocketState.setReader, SocketReader.read,
    samplePing_accepted, sampleInit_fits, sampleInit_accepted]

def sampleDatagram : Datagram := ⟨"203.0.113.7:4000", [], 1001, true⟩

theorem directSession_reader {state : SocketState}
    (hreader : state.readers 0 = directSessionState.readers 0) :
    FromSession state sampleDatagram 0 :=
  ⟨_, _, hreader⟩

theorem sole_session_handles_datagram :
    ∀ task next, socketStep .transparent transparentFrames transparentPings
        transparentReplies (sampleKeys 1) directSessionState
        (.datagram sampleDatagram task) = some next →
      next.handled =
        directSessionState.handled ++ [(0, sampleDatagram.delivery)] := by
  refine ((session_datagrams_handled_iff .transparent transparentFrames
    transparentPings transparentReplies (sampleKeys 1) directSessionRun).2
    directSessionState directSessionRun_eq sampleDatagram 0
    (directSession_reader rfl)).mpr ?_
  intro other hother
  by_contra hne
  apply hother
  simp [directSessionState, Function.update_of_ne hne]

/-- After a reconnect the STUN discovery reads from the socket as well; a
datagram of the session which it gets is lost. -/
theorem discovery_swallows_session_datagram :
    ¬ ∀ labels, AllSteps (socketStep .transparent transparentFrames
        transparentPings transparentReplies (sampleKeys 1))
      (SessionDatagramHandled .transparent transparentFrames transparentPings
        transparentReplies (sampleKeys 1)) .initial labels := by
  intro hall
  have hsteps := allSteps_append
    (hall (directSessionRun ++ [.discover 1, .datagram sampleDatagram 1]))
    directSessionRun_eq
  let state : SocketState :=
    directSessionState.setReader 1 (some (.discovering 3))
  have hfrom : FromSession state sampleDatagram 0 := directSession_reader rfl
  have hdiscover : socketStep .transparent transparentFrames transparentPings
      transparentReplies (sampleKeys 1) directSessionState (.discover 1) =
        some state := rfl
  obtain ⟨next, hstep⟩ : ∃ next, socketStep .transparent transparentFrames
      transparentPings transparentReplies (sampleKeys 1) state
      (.datagram sampleDatagram 1) = some next := ⟨_, rfl⟩
  have hhandled := (hsteps.2 state hdiscover).1 sampleDatagram 1 rfl 0 hfrom
    next hstep
  have hown := (handled_iff_own_loop hfrom hstep).mp hhandled
  contradiction

end SechatClient
