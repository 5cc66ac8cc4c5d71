import SechatClient.BoundedQueue
import SechatClient.Datagrams
import SechatClient.SessionReceive

/-!
# Connect attempts and live sessions

The tasks which `orchestrate` shares its `SessionMap` and `Connecting` set
with: `connect_session` from its spawn to its return, the receive loop which
`start_session` spawns, and the event task which removes the session's entry.
Each section under a mutex is one step and so is each await that returns.
What the network decides (the outcome of a hole punch or of the direct
handshake, the deadlines) is chosen by the label.
-/

namespace SechatClient

open ByteStrings

/-- The transport of a session; a relay session owns the inbound channel
which its task made. -/
inductive SessionTransport where
  | direct (remote : SocketAddr)
  | relay
  deriving DecidableEq

inductive ConnectPhase where
  | checking
  | reserving (live : Bool)
  | punching (ephPriv : KeyType)
  | handshaking (ephPriv : KeyType) (remote : SocketAddr)
  | relaying (ephPriv : KeyType)
  | starting (transport : SessionTransport)
  | inserted
  | failed
  | returned
  deriving DecidableEq

structure Attempt where
  peer : PeerPublic
  phase : ConnectPhase

inductive LoopPhase where
  | receiving
  | closed
  | ended
  deriving DecidableEq

/-- A started session: its receive loop until it closes, then its event task. -/
structure Session where
  peer : PeerPublic
  transport : SessionTransport
  receiver : Receiver
  recv : RecvState
  loop : LoopPhase

/-- A `SessionEntry`: both senders are named by the task that made them. -/
structure SessionEntry where
  outbound : ℕ
  relayIn : Option ℕ
  deriving DecidableEq

abbrev RelayChannel := BoundedQueue Bytes 100

structure ClientState where
  spawned : ℕ
  attempts : ℕ → Option Attempt
  sessions : ℕ → Option Session
  sessionMap : KeyType → Option SessionEntry
  connecting : Finset KeyType
  /-- the relay channel of a task, `none` without a receiver -/
  channels : ℕ → Option RelayChannel

def ClientState.initial : ClientState where
  spawned := 0
  attempts := fun _ => none
  sessions := fun _ => none
  sessionMap := fun _ => none
  connecting := ∅
  channels := fun _ => none

inductive ConnectLabel where
  | punchHole (peer : PeerPublic)
  | lookup (task : ℕ)
  | reserve (task : ℕ) (ephPriv : KeyType)
  | punched (task : ℕ) (remote : Option SocketAddr)
  | handshaken (task : ℕ) (key : Option KeyType)
  | relayRecv (task : ℕ) (now : Int64)
  | relayDeadline (task : ℕ)
  | insert (task : ℕ)
  | finish (task : ℕ)
  | relayData (senderHash : KeyType) (payload : Bytes)
  | sessionRecv (session : ℕ) (now : Int64) (evtOpen : Bool)
  | sessionStops (session : ℕ)
  | eventTaskEnds (session : ℕ)
  | dropSession (peer : KeyType)
  | shutdown

namespace ClientState

variable (state : ClientState) (task : ℕ)

def setPhase (peer : PeerPublic) (phase : ConnectPhase) : ClientState :=
  { state with
    attempts := Function.update state.attempts task (some ⟨peer, phase⟩) }

def setChannel (channel : Option RelayChannel) : ClientState :=
  { state with channels := Function.update state.channels task channel }

def setSession (session : Session) : ClientState :=
  { state with sessions := Function.update state.sessions task (some session) }

def setEntry (peer : KeyType) (entry : Option SessionEntry) : ClientState :=
  { state with sessionMap := Function.update state.sessionMap peer entry }

end ClientState

section Steps

variable (P : Primitives) (frames : Codec PeerMessage) (keys : Keys)
variable (state : ClientState)

def spawnConnect (peer : PeerPublic) : ClientState :=
  { state.setPhase state.spawned peer .checking with
    spawned := state.spawned + 1 }

def startSession (task : ℕ) (peer : PeerPublic) (key : KeyType)
    (transport : SessionTransport) : ClientState :=
  (state.setPhase task peer (.starting transport)).setSession task
    { peer := peer
      transport := transport
      receiver :=
        { recvKey := (sessionKeys P key
            (amIFirst keys.x25519Pub peer.publicKey)).2
          peerX := peer.publicKey
          verifying := peer.verifying }
      recv := .initial
      loop := .receiving }

/-- Entering `establish_relay`: `make_relay` opens an empty channel that only
this task knows. -/
def establishRelay (task : ℕ) (peer : PeerPublic) (ephPriv : KeyType) :
    ClientState :=
  (state.setPhase task peer (.relaying ephPriv)).setChannel task (some .empty)

def reserve (task : ℕ) (peer : PeerPublic) (live : Bool)
    (ephPriv : KeyType) : ClientState :=
  if live = true ∨ peer.hash P ∈ state.connecting then
    state.setPhase task peer .returned
  else
    { state.setPhase task peer (.punching ephPriv) with
      connecting := insert (peer.hash P) state.connecting }

def relayHandshakeRecv (task : ℕ) (peer : PeerPublic) (ephPriv : KeyType)
    (now : Int64) (bytes : Bytes) (rest : RelayChannel) : ClientState :=
  match handshakeRecv P frames peer ephPriv now bytes with
  | none => state.setChannel task (some rest)
  | some key =>
      startSession P keys (state.setChannel task (some rest)) task peer key
        .relay

def insertEntry (task : ℕ) (peer : PeerPublic)
    (transport : SessionTransport) : ClientState :=
  (state.setPhase task peer .inserted).setEntry (peer.hash P)
    (some
      { outbound := task
        relayIn := if transport = .relay then some task else none })

/-- The return of `connect_session`, where the guard is dropped. -/
def finishConnect (task : ℕ) (peer : PeerPublic) : ClientState :=
  { state.setPhase task peer .returned with
    connecting := state.connecting.erase (peer.hash P) }

/-- `handle_server_event` on `RelayData`; a full channel makes it wait. -/
def routeRelayData (senderHash : KeyType) (payload : Bytes) :
    Option ClientState :=
  match (state.sessionMap senderHash).bind SessionEntry.relayIn with
  | none => some state
  | some task =>
      match state.channels task with
      | none => some state
      | some queue =>
          (queue.trySend payload).map fun sent =>
            state.setChannel task (some sent)

def stopSession (task : ℕ) (session : Session) (recv : RecvState) :
    ClientState :=
  (state.setSession task
    { session with recv := recv, loop := .closed }).setChannel task none

def relaySessionRecv (task : ℕ) (session : Session) (delivery : Delivery)
    (rest : RelayChannel) : ClientState :=
  match handleInboundFrame P frames session.receiver session.recv delivery with
  | (recv, true) =>
      (state.setSession task { session with recv := recv }).setChannel task
        (some rest)
  | (recv, false) => stopSession state task session recv

def endEventTask (task : ℕ) (session : Session) : ClientState :=
  (state.setSession task { session with loop := .ended }).setEntry
    (session.peer.hash P) none

def connectStep : ConnectLabel → Option ClientState
  | .punchHole peer => some (spawnConnect state peer)
  | .lookup task =>
      match state.attempts task with
      | some ⟨peer, .checking⟩ =>
          some (state.setPhase task peer
            (.reserving (state.sessionMap (peer.hash P)).isSome))
      | _ => none
  | .reserve task ephPriv =>
      match state.attempts task with
      | some ⟨peer, .reserving live⟩ =>
          some (reserve P state task peer live ephPriv)
      | _ => none
  | .punched task remote =>
      match state.attempts task, remote with
      | some ⟨peer, .punching ephPriv⟩, some remote =>
          some (state.setPhase task peer (.handshaking ephPriv remote))
      | some ⟨peer, .punching ephPriv⟩, none =>
          some (establishRelay state task peer ephPriv)
      | _, _ => none
  | .handshaken task key =>
      match state.attempts task, key with
      | some ⟨peer, .handshaking _ remote⟩, some key =>
          some (startSession P keys state task peer key (.direct remote))
      | some ⟨peer, .handshaking ephPriv _⟩, none =>
          some (establishRelay state task peer ephPriv)
      | _, _ => none
  | .relayRecv task now =>
      match state.attempts task,
          (state.channels task).bind BoundedQueue.recv with
      | some ⟨peer, .relaying ephPriv⟩, some (bytes, rest) =>
          some (relayHandshakeRecv P frames keys state task peer ephPriv now
            bytes rest)
      | _, _ => none
  | .relayDeadline task =>
      match state.attempts task with
      | some ⟨peer, .relaying _⟩ =>
          some ((state.setPhase task peer .failed).setChannel task none)
      | _ => none
  | .insert task =>
      match state.attempts task with
      | some ⟨peer, .starting transport⟩ =>
          some (insertEntry P state task peer transport)
      | _ => none
  | .finish task =>
      match state.attempts task with
      | some ⟨peer, .inserted⟩ => some (finishConnect P state task peer)
      | some ⟨peer, .failed⟩ => some (finishConnect P state task peer)
      | _ => none
  | .relayData senderHash payload => routeRelayData state senderHash payload
  | .sessionRecv task now evtOpen =>
      match state.sessions task,
          (state.channels task).bind BoundedQueue.recv with
      | some ⟨peer, .relay, receiver, recv, .receiving⟩,
          some (bytes, rest) =>
          some (relaySessionRecv P frames state task
            ⟨peer, .relay, receiver, recv, .receiving⟩
            ⟨bytes, now, evtOpen⟩ rest)
      | _, _ => none
  | .sessionStops task =>
      match state.sessions task with
      | some ⟨peer, transport, receiver, recv, .receiving⟩ =>
          some (stopSession state task
            ⟨peer, transport, receiver, recv, .receiving⟩ recv)
      | _ => none
  | .eventTaskEnds task =>
      match state.attempts task, state.sessions task with
      | some ⟨_, .inserted⟩, some ⟨peer, transport, receiver, recv, .closed⟩ =>
          some (endEventTask P state task
            ⟨peer, transport, receiver, recv, .closed⟩)
      | some ⟨_, .returned⟩, some ⟨peer, transport, receiver, recv, .closed⟩ =>
          some (endEventTask P state task
            ⟨peer, transport, receiver, recv, .closed⟩)
      | _, _ => none
  | .dropSession peer => some (state.setEntry peer none)
  | .shutdown => some { state with sessionMap := fun _ => none }

end Steps

end SechatClient
