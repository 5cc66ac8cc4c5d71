import SechatClient.CommandHandling
import SechatClient.RetryDiscipline

/-!
# The inner loop of `orchestrate`

One state for all that the select loop reads and writes: its three branches
are `drive_retries`, which reads the clock, the sessions and the `Connecting`
set one after the other, then goes through the intents one by one and may wait
for room at each, `handle_server_event` and `handle_command`.  The tasks which the
loop shares its maps with take steps in between, also while a pass of
`drive_retries` is underway: the connect attempts and sessions of
`connectStep`, and all others as changes of the channels, files and caches.
-/

namespace SechatClient

open ByteStrings StepSystem

/-- The order in which a `HashMap` is iterated. -/
structure MapOrder where
  arrange : List KeyType → List KeyType
  perm : ∀ ids, (arrange ids).Perm ids

/-- What a pass took at its start, and the intents it still has to drive. -/
structure RetryPass where
  instant : ℕ
  live : KeyType → Bool
  remaining : List KeyType

/-- How far `drive_retries` is: it has read the clock, it has listed the
sessions, or it has read the `Connecting` set as well and drives the intents.
-/
inductive RetryPhase where
  | idle
  | begun
  | listed (sessions : KeyType → Bool)
  | driving (pass : RetryPass)

def RetryPhase.isIdle : RetryPhase → Bool
  | .idle => true
  | _ => false

theorem RetryPhase.isIdle_iff (phase : RetryPhase) :
    phase.isIdle = true ↔ phase = .idle := by
  cases phase <;> simp [RetryPhase.isIdle]

/-- A call of `send_punch_request` in the pass of the given instant, with the
message if it went to the server channel. -/
structure PunchTry where
  instant : ℕ
  peer : KeyType
  request : Option ClientToServer

inductive LoopStatus where
  | serving
  /-- the inner loop has been left, the outer one calls `run_client` -/
  | reconnecting
  | returned
  deriving DecidableEq

/-- `client` is seen by the connect tasks and `loop` by the commands, the
session map by both.  `clock` is the last reading of the clock.  `armed` lists
the peers with an intent, `told` what went to the application, each event with
the reading at that time, and `tries` the calls of `send_punch_request`. -/
structure InnerLoop where
  status : LoopStatus
  clock : ℕ
  loop : CommandLoop
  client : ClientState
  shared : client.sessionMap = loop.sessionMap
  armed : List KeyType
  phase : RetryPhase
  told : List (ℕ × AppEvent)
  tries : List PunchTry

/-- `laterServer` is the channel once a send that had to wait can go on. -/
structure RequestEnv where
  now : Int64
  rearmDelay : ℕ
  laterServer : ServerChannel

structure EventEnv where
  now : Int64
  instant : ℕ

/-- The part of the state which tasks outside the model may change. -/
structure SharedData where
  peers : PeersDir
  outbounds : ℕ → OutboundChannel
  server : ServerChannel
  cache : List OnlinePeer
  aliasFile : Option String
  myAddress : Option String

inductive InnerLabel where
  | tick (instant : ℕ)
  | readsSessions
  | readsConnecting (order : MapOrder)
  | drives (env : RequestEnv)
  | passEnds
  /-- `srv_ev_rx.recv()` returns; `none` without a sender -/
  | event (env : EventEnv) (event : Option ServerEvent)
  | command (env : LoopEnv) (cmd : Command)
  /-- `cmd_rx.recv()` finds the channel closed -/
  | closed
  /-- `run_client` has returned a channel -/
  | reconnected (server : ServerChannel)
  | task (label : ConnectLabel)
  | others (data : SharedData)

/-- The labels of `connectStep` which are not steps of the loop itself. -/
def ConnectLabel.isTask : ConnectLabel → Bool
  | .punchHole _ | .relayData _ _ | .dropSession _ | .shutdown => false
  | _ => true

namespace InnerLoop

/-- The start of `orchestrate`, before the first `run_client`. -/
def initial (data : SharedData) : InnerLoop where
  status := .reconnecting
  clock := 0
  loop :=
    { peers := data.peers
      sessionMap := fun _ => none
      outbounds := data.outbounds
      server := data.server
      intents := fun _ => none
      cache := data.cache
      aliasFile := data.aliasFile
      myAddress := data.myAddress }
  client := .initial
  shared := rfl
  armed := []
  phase := .idle
  told := []
  tries := []

variable (state : InnerLoop)

/-- The pass which drives the intents. -/
def pass : Option RetryPass :=
  match state.phase with
  | .driving pass => some pass
  | _ => none

/-- The loop waits in `select!`. -/
def Idle : Prop := state.status = .serving ∧ state.phase = .idle

instance : Decidable state.Idle :=
  decidable_of_iff (state.status = .serving ∧ state.phase.isIdle = true)
    (and_congr_right' (RetryPhase.isIdle_iff state.phase))

def tellAt (instant : ℕ) (events : List AppEvent) : InnerLoop :=
  { state with told := state.told ++ events.map fun event => (instant, event) }

def tell (events : List AppEvent) : InnerLoop :=
  state.tellAt state.clock events

def withIntents (intents : KeyType → Option ConnectIntent) : InnerLoop :=
  { state with loop := { state.loop with intents := intents } }

def setIntent (peer : KeyType) (intent : ConnectIntent) : InnerLoop :=
  state.withIntents (Function.update state.loop.intents peer (some intent))

/-- The connect tasks write the session map. -/
def withClient (client : ClientState) : InnerLoop :=
  { state with
    client := client
    loop := { state.loop with sessionMap := client.sessionMap }
    shared := rfl }

/-- A command writes the session map. -/
def withLoop (loop : CommandLoop) : InnerLoop :=
  { state with
    loop := loop
    client := { state.client with sessionMap := loop.sessionMap }
    shared := rfl }

def withShared (data : SharedData) : InnerLoop :=
  { state with
    loop := { state.loop with
      peers := data.peers
      outbounds := data.outbounds
      server := data.server
      cache := data.cache
      aliasFile := data.aliasFile
      myAddress := data.myAddress }
    shared := state.shared }

end InnerLoop

section Steps

variable (P : Primitives) (messages : Codec Message)
  (blobs : Codec BlobPayload) (frames : Codec PeerMessage) (keys : Keys)

/-! ## `drive_retries` -/

structure PunchResult where
  server : ServerChannel
  request : Option ClientToServer
  emitted : List AppEvent

/-- `send_punch_request`; `none` while the send waits. -/
def sendPunchRequest (env : RequestEnv) (loop : CommandLoop)
    (peer : KeyType) : Option PunchResult :=
  match loadPeerData P loop.peers peer with
  | .error e =>
      some ⟨loop.server, none, [.error ("unknown peer: " ++ e.display)]⟩
  | .ok peerPub =>
      let msg := ClientToServer.new (generateP2pRequest P peerPub.publicKey
        keys.x25519Priv env.now) none env.now
      match (whenSent loop.server env.laterServer).send msg with
      | none => none
      | some (server, true) => some ⟨server, some msg, []⟩
      | some (server, false) =>
          some ⟨server, none, [.error "not connected to relay"]⟩

namespace InnerLoop

/-- The punch request went to the server channel, or it did not. -/
def afterRequest (state : InnerLoop) (instant : ℕ) (peer : KeyType)
    (result : PunchResult) : InnerLoop :=
  { state.tellAt instant result.emitted with
    loop := { state.loop with server := result.server }
    shared := state.shared
    tries := state.tries ++ [⟨instant, peer, result.request⟩] }

/-- One intent of the pass. -/
def drive (env : RequestEnv) (instant : ℕ) (live : Bool) (peer : KeyType)
    (intent : ConnectIntent) (state : InnerLoop) : Option InnerLoop :=
  match nextRetryAction intent live instant with
  | .done =>
      if intent.attempts ≠ 0 ∨ intent.backoffSecs ≠ 1 then
        some (state.setIntent peer (intent.rearm (instant + env.rearmDelay)))
      else
        some state
  | .punch =>
      (sendPunchRequest P keys env state.loop peer).map fun result =>
        let asked := state.afterRequest instant peer result
        if result.request.isSome then
          (asked.tellAt instant [.connectRetrying peer (intent.attempts + 1)
              intent.backoffSecs]).setIntent peer
            { intent with
              attempts := intent.attempts + 1
              dueAt := instant + fromSecs intent.backoffSecs
              backoffSecs := bumpBackoff intent.backoffSecs }
        else
          asked.setIntent peer
            { intent with
              dueAt := instant + fromSecs (max intent.backoffSecs 1)
              backoffSecs := bumpBackoff intent.backoffSecs }
  | .giveUp =>
      some ((state.tellAt instant [.connectGaveUp peer]).setIntent peer
        { intent with attempts := maxConnectAttempts + 1 })
  | .wait => some state

/-- The next intent of the pass that is underway. -/
def drives (env : RequestEnv) (state : InnerLoop) : Option InnerLoop :=
  match state.phase with
  | .driving ⟨instant, live, peer :: rest⟩ =>
      let begun := { state with phase := .driving ⟨instant, live, rest⟩ }
      match state.loop.intents peer with
      | none => some begun
      | some intent => begun.drive P keys env instant (live peer) peer intent
  | _ => none

/-! ## `handle_server_event` -/

/-- The cache loses expired entries when the peer is looked up there. -/
def punchHole (env : EventEnv) (peerHash : KeyType) (ipPort : String)
    (state : InnerLoop) : InnerLoop :=
  let found := resolvePunchPeer P state.loop.peers state.loop.cache peerHash
    ipPort env.now
  let cache :=
    if (loadPeerData P state.loop.peers peerHash).isOk then state.loop.cache
    else loadOnlinePeers env.now state.loop.cache
  let looked := { state with
    loop := { state.loop with cache := cache }
    shared := state.shared }
  match found with
  | none => looked
  | some peer => looked.withClient (spawnConnect state.client peer)

/-- The presence events change the intent of their peer. -/
def noteEvent (env : EventEnv) (event : ServerEvent) (state : InnerLoop) :
    InnerLoop :=
  state.withIntents fun peer =>
    (state.loop.intents peer).map (intentAfterEvent env.instant event peer)

/-- `handle_server_event`; `none` while a frame waits for its session. -/
def handleServerEvent (env : EventEnv) (state : InnerLoop) :
    ServerEvent → Option InnerLoop
  | .authenticated observedAddress =>
      some (state.tell [.connected observedAddress])
  | .relayData senderHash payload =>
      (routeRelayData state.client senderHash payload).map state.withClient
  | .peerOnline hash ipPort =>
      some ((state.noteEvent env (.peerOnline hash ipPort)).tell
        [.peerOnline hash])
  | .peerOffline hash =>
      some ((state.noteEvent env (.peerOffline hash)).tell
        [.peerOffline hash])
  | .blobStored senderHash =>
      some (state.tell [.messageArrived senderHash false])
  | .holePunchDenied peer reason =>
      some (state.tell [.holePunchDenied peer reason])
  | .punchHole _ peerHash ipPort _ =>
      some (state.punchHole P env peerHash ipPort)
  | .disconnected => some state

/-- The branch of `srv_ev_rx`, which leaves the loop when the connection has
ended. -/
def receive (env : EventEnv) (state : InnerLoop) :
    Option ServerEvent → Option InnerLoop
  | none =>
      some { state.tell [.disconnected] with status := .reconnecting }
  | some .disconnected =>
      some { state.tell [.disconnected] with status := .reconnecting }
  | some event => state.handleServerEvent P env event

/-! ## The commands -/

/-- The peers with an intent after a command. -/
def armedAfter (armed : List KeyType)
    (intents : KeyType → Option ConnectIntent) : Command → List KeyType
  | .connect peer =>
      if (intents peer).isSome ∧ peer ∉ armed then armed ++ [peer] else armed
  | .purge peer | .removePeer peer => armed.filter fun other => other ≠ peer
  | _ => armed

/-- The loop of `Shutdown`; `index` counts the messages before. -/
def unannounceTo (env : LoopEnv) :
    ℕ → List PeerPublic → ServerChannel → Option ServerChannel
  | _, [], server => some server
  | index, peer :: rest, server =>
      match (whenSent server (env.laterAnnounces index)).send
          (.new (generateUnannounceMessage P keys.x25519Priv peer.publicKey
            env.now) none env.now) with
      | none => none
      | some (next, _) => unannounceTo env (index + 1) rest next

/-- `Shutdown` takes the announcements back and closes the sessions. -/
def shutDown (env : LoopEnv) (state : InnerLoop) : Option InnerLoop :=
  (unannounceTo P keys env 0 (announceRecipients P state.loop.peers)
    state.loop.server).map fun server =>
      { state.withLoop { state.loop with
          server := server
          sessionMap := fun _ => none } with
        status := .returned }

/-- The branch of `cmd_rx`. -/
def obey (env : LoopEnv) (state : InnerLoop) : Command → Option InnerLoop
  | .setServer _ => some { state with status := .reconnecting }
  | .shutdown => state.shutDown P keys env
  | cmd =>
      (handleCommand P messages blobs keys env state.loop cmd).map fun result =>
        { (state.withLoop result.loop).tell result.emitted with
          armed := armedAfter state.armed result.loop.intents cmd }

end InnerLoop

def innerStep (state : InnerLoop) : InnerLabel → Option InnerLoop
  | .tick instant =>
      if state.Idle ∧ state.clock ≤ instant then
        some { state with clock := instant, phase := .begun }
      else none
  | .readsSessions =>
      match state.phase with
      | .begun =>
          some { state with
            phase := .listed fun peer =>
              (state.client.sessionMap peer).isSome }
      | _ => none
  | .readsConnecting order =>
      match state.phase with
      | .listed sessions =>
          -- the clock has not been read since the pass began
          some { state with
            phase := .driving ⟨state.clock,
              fun peer =>
                sessions peer || decide (peer ∈ state.client.connecting),
              order.arrange state.armed⟩ }
      | _ => none
  | .drives env => state.drives P keys env
  | .passEnds =>
      match state.phase with
      | .driving ⟨_, _, []⟩ => some { state with phase := .idle }
      | _ => none
  | .event env event =>
      if state.Idle ∧ state.clock ≤ env.instant then
        { state with clock := env.instant }.receive P env event
      else none
  | .command env cmd =>
      if state.Idle ∧ state.clock ≤ env.instant then
        { state with clock := env.instant }.obey P messages blobs keys env cmd
      else none
  | .closed =>
      if state.Idle then some { state with status := .returned } else none
  | .reconnected server =>
      if state.status = .reconnecting then
        some { state with
          status := .serving
          loop := { state.loop with server := server }
          shared := state.shared }
      else none
  | .task label =>
      if label.isTask then
        (connectStep P frames keys state.client label).map state.withClient
      else none
  | .others data => some (state.withShared data)

end Steps

end SechatClient
