import SechatClient.OfflineExchange
import SechatClient.RelayConversation
import SechatClient.TaggedLists

/-!
# Two clients, a mailbox and direct sessions

Two clients talk over several paths: through the mailbox of the relay, on one
connection each, while no session is in the map, and over any number of direct
sessions, one after the other or overlapping.  The network between the two ends
of a session is not trusted: the receive loop is given any bytes at any time.
A session has one number on both sides, and on each side this number names its
outbound channel.
-/

namespace SechatClient

open ByteStrings OrderedStore StepSystem TaggedLists

/-- The event task is spawned after the session was put into the map, and it
removes the entry of the peer after the last event. -/
inductive EventTask where
  | waiting
  | running
  | closing
  | ended
  deriving DecidableEq

/-- One client's end of a session: its two loops, and how many of its events
the event task has taken. -/
structure SessionEnd where
  send : SendState
  sending : Bool
  recv : RecvState
  receiving : Bool
  taken : ℕ
  events : EventTask

namespace SessionEnd

def initial : SessionEnd where
  send := .initial
  sending := true
  recv := .initial
  receiving := true
  taken := 0
  events := .waiting

def evtOpen (link : SessionEnd) : Bool :=
  decide (link.events ≠ .ended)

/-- The receive loop stops and announces its end. -/
def stop (recv : RecvState) (link : SessionEnd) : SessionEnd :=
  { link with recv := recv.close link.evtOpen, receiving := false }

def afterFrame (result : RecvState × Bool) (link : SessionEnd) : SessionEnd :=
  if result.2 then { link with recv := result.1 } else link.stop result.1

end SessionEnd

/-- A client with its ends of the sessions with the other one. -/
structure LinkedClient extends RunningClient where
  ends : ℕ → Option SessionEnd

namespace LinkedClient

variable (client : LinkedClient)

def withLoop (loop : CommandLoop) : LinkedClient :=
  { client with toRunningClient := client.toRunningClient.afterCommand loop }

def withDirectory (next : DirectoryState) : LinkedClient :=
  { client with toRunningClient := client.toRunningClient.afterTask next }

def withServer (server : ServerChannel) : LinkedClient :=
  { client with toRunningClient := client.toRunningClient.afterSend server }

def setEnd (number : ℕ) (link : SessionEnd) : LinkedClient :=
  { client with ends := Function.update client.ends number (some link) }

def setOutbound (number : ℕ) (channel : OutboundChannel) : LinkedClient :=
  { client with
    outbounds := Function.update client.outbounds number channel }

def setEntry (peer : KeyType) (entry : Option SessionEntry) : LinkedClient :=
  { client with sessionMap := Function.update client.sessionMap peer entry }

/-- Every sender of the outbound channel was dropped: `connect_session` has
moved its own into the map, and the map has another entry or none. -/
def hungUp (peer : KeyType) (number : ℕ) (link : SessionEnd) : Bool :=
  decide (link.events ≠ .waiting ∧
    (client.sessionMap peer).map SessionEntry.outbound ≠ some number)

/-- What the send loop reads from its channel, and the channel after it. -/
def outgoing (peer : KeyType) (number : ℕ) (link : SessionEnd) :
    Option (Outgoing × OutboundChannel) :=
  match (client.outbounds number).queue.recv with
  | some (text, rest) =>
      some (.text text, ⟨(client.outbounds number).isOpen, rest⟩)
  | none =>
      if client.hungUp peer number link then
        some (.closed, client.outbounds number)
      else
        none

end LinkedClient

@[simp] theorem LinkedClient.withLoop_ends (client : LinkedClient)
    (loop : CommandLoop) : (client.withLoop loop).ends = client.ends := rfl

@[simp] theorem LinkedClient.withLoop_outbounds (client : LinkedClient)
    (loop : CommandLoop) :
    (client.withLoop loop).outbounds = loop.outbounds := rfl

structure TwoClients where
  clients : Side → LinkedClient
  mailbox : Side → List Parcel

/-- `sends` is a turn of the send loop which reads its channel, `beats` one at
a tick of the heartbeat.  `others` stands for what the retry pass, the server
events, the sessions with other peers and their tasks change. -/
inductive TwoClientsLabel where
  | command (side : Side) (env : LoopEnv) (cmd : Command)
  | task (side : Side) (label : DirectoryLabel)
  | others (side : Side) (loop : CommandLoop)
  | forwarded (side : Side)
  | delivered (side : Side) (env : BlobEnv)
  | lost (side : Side)
  | started (side : Side) (number : ℕ)
  | inserted (side : Side) (number : ℕ)
  | sends (side : Side) (number : ℕ) (env : SendEnv)
  | beats (side : Side) (number : ℕ) (env : SendEnv)
  | receives (side : Side) (number : ℕ) (bytes : Bytes) (now : Int64)
  | silent (side : Side) (number : ℕ)
  | event (side : Side) (number : ℕ) (env : BlobEnv)
  | removed (side : Side) (number : ℕ)

namespace TwoClients

def setClient (side : Side) (client : LinkedClient) (state : TwoClients) :
    TwoClients :=
  { state with clients := Function.update state.clients side client }

def setMailbox (side : Side) (parcels : List Parcel) (state : TwoClients) :
    TwoClients :=
  { state with mailbox := Function.update state.mailbox side parcels }

end TwoClients

/-- The way a text takes: through the mailbox, or over a session. -/
inductive TextPath where
  | mailbox
  | session (number : ℕ)
  deriving DecidableEq

/-- The path of what is sent to a peer. -/
def pathTo (sessionMap : KeyType → Option SessionEntry) (id : KeyType) :
    TextPath :=
  match sessionMap id with
  | none => .mailbox
  | some entry => .session entry.outbound

/-- The text which a command sends to a peer. -/
def Command.textsTo (id : KeyType) : Command → List String
  | .send peer text => if peer = id then [text] else []
  | _ => []

section Steps

variable (P : Primitives) (frames : Codec PeerMessage)
  (messages : Codec Message) (blobs : Codec BlobPayload)
  (keys : Side → Keys) (sessionKey : ℕ → KeyType)

/-- A turn of the direct send loop; when the loop ends its channel loses the
receiver, and with it what is queued. -/
def sendTurn (side : Side) (number : ℕ) (client : LinkedClient)
    (link : SessionEnd) (outgoing : Outgoing) (env : SendEnv) : LinkedClient :=
  let result := sendStep P frames
    (sessionSender P keys .direct (sessionKey number) side) link.send
    (outgoing, env)
  let client := client.setEnd number
    { link with send := result.1, sending := result.2 }
  if result.2 then client else client.setOutbound number ⟨false, .empty⟩

def receiveTurn (side : Side) (number : ℕ) (link : SessionEnd) (bytes : Bytes)
    (now : Int64) : SessionEnd :=
  link.afterFrame (handleInboundFrame P frames
    (sessionReceiver P keys (sessionKey number) side) link.recv
    ⟨bytes, now, link.evtOpen⟩)

/-- The event task persists a message, or leaves its loop. -/
def eventTurn (side : Side) (number : ℕ) (client : LinkedClient)
    (link : SessionEnd) (env : BlobEnv) : SessionEvent → Option LinkedClient
  | .message text timestamp =>
      (directoryStep P messages blobs (keys side) client.toDirectoryState
        (.sessionMessage (keys side.other).publicPart text timestamp env)).map
          fun next => (client.withDirectory next).setEnd number
            { link with taken := link.taken + 1 }
  | .closed =>
      some (client.setEnd number
        { link with taken := link.taken + 1, events := .closing })

def twoClientsStep (state : TwoClients) :
    TwoClientsLabel → Option TwoClients
  | .command side env cmd =>
      (handleCommand P messages blobs (keys side) env
        (state.clients side).toCommandLoop cmd).map fun result =>
          state.setClient side ((state.clients side).withLoop result.loop)
  | .task side label =>
      (directoryStep P messages blobs (keys side)
        (state.clients side).toDirectoryState label).map fun next =>
          state.setClient side ((state.clients side).withDirectory next)
  | .others side loop =>
      some (state.setClient side ((state.clients side).withLoop loop))
  | .forwarded side =>
      (state.clients side).server.queue.recv.map fun received =>
        (state.setClient side ((state.clients side).withServer
          ⟨(state.clients side).server.isOpen, received.2⟩)).setMailbox
            side.other (state.mailbox side.other ++
              (received.1.parcelFor ((keys side.other).id P)).toList)
  | .delivered side env =>
      match state.mailbox side with
      | [] => none
      | parcel :: rest =>
          (directoryStep P messages blobs (keys side)
            (state.clients side).toDirectoryState
            (.blobChecked env parcel.blob)).map fun next =>
              (state.setClient side
                ((state.clients side).withDirectory next)).setMailbox side rest
  | .lost side =>
      match state.mailbox side with
      | [] => none
      | _ :: rest => some (state.setMailbox side rest)
  | .started side number =>
      match (state.clients side).ends number with
      | some _ => none
      | none =>
          (directoryStep P messages blobs (keys side)
            (state.clients side).toDirectoryState
            (.sessionUp (keys side.other).publicPart)).map fun next =>
              state.setClient side
                ((((state.clients side).withDirectory next).setEnd number
                  .initial).setOutbound number ⟨true, .empty⟩)
  | .inserted side number =>
      match (state.clients side).ends number with
      | none => none
      | some link =>
          if link.events = .waiting then
            some (state.setClient side
              (((state.clients side).setEnd number
                { link with events := .running }).setEntry
                  ((keys side.other).id P) (some ⟨number, none⟩)))
          else
            none
  | .sends side number env =>
      match (state.clients side).ends number with
      | none => none
      | some link =>
          if link.sending then
            ((state.clients side).outgoing ((keys side.other).id P) number
              link).map fun next =>
                state.setClient side (sendTurn P frames keys sessionKey side
                  number ((state.clients side).setOutbound number next.2) link
                  next.1 env)
          else
            none
  | .beats side number env =>
      match (state.clients side).ends number with
      | none => none
      | some link =>
          if link.sending then
            some (state.setClient side (sendTurn P frames keys sessionKey side
              number (state.clients side) link .heartbeat env))
          else
            none
  | .receives side number bytes now =>
      match (state.clients side).ends number with
      | none => none
      | some link =>
          if link.receiving then
            some (state.setClient side ((state.clients side).setEnd number
              (receiveTurn P frames keys sessionKey side number link bytes
                now)))
          else
            none
  | .silent side number =>
      match (state.clients side).ends number with
      | none => none
      | some link =>
          if link.receiving then
            some (state.setClient side ((state.clients side).setEnd number
              (link.stop link.recv)))
          else
            none
  | .event side number env =>
      match (state.clients side).ends number with
      | none => none
      | some link =>
          if link.events = .running then
            (link.recv.emitted[link.taken]?.bind fun event =>
              eventTurn P messages blobs keys side number (state.clients side)
                link env event).map fun client => state.setClient side client
          else
            none
  | .removed side number =>
      match (state.clients side).ends number with
      | none => none
      | some link =>
          if link.events = .closing then
            some (state.setClient side
              (((state.clients side).setEnd number
                { link with events := .ended }).setEntry
                  ((keys side.other).id P) none))
          else
            none

/-! ## What is sent -/

/-- What a label sends to the other side, with the path it takes. -/
def sentFrom (side : Side) (state : TwoClients) :
    TwoClientsLabel → List (TextPath × String)
  | .command sender _ cmd =>
      if sender = side then
        tagged
          (pathTo (state.clients side).sessionMap ((keys side.other).id P))
          (cmd.textsTo ((keys side.other).id P))
      else
        []
  | _ => []

/-- What one side sends along a run. -/
def sentAlong (side : Side) :
    TwoClients → List TwoClientsLabel → List (TextPath × String)
  | _, [] => []
  | state, label :: rest =>
      sentFrom P keys side state label ++
        match twoClientsStep P frames messages blobs keys sessionKey state
          label with
        | none => []
        | some next => sentAlong side next rest

/-! ## What the run relies on -/

/-- What the send loop of a session has encrypted. -/
def LinkedClient.calls (client : LinkedClient) (number : ℕ) :
    List (Int64 × String) :=
  match client.ends number with
  | none => []
  | some link => link.send.calls

/-- No task but those of the two paths speaks in the name of a peer: its keys
are its own, no blob of it is handled twice, and its sessions are the modelled
ones. -/
def SpeaksForOthers (id : KeyType) (mine theirs : Keys) :
    DirectoryLabel → Prop
  | .addPeer peer => peer.hash P = id → peer = theirs.publicPart
  | .blobChecked _ blob =>
      ∀ payload, openBlob P blobs mine.x25519Priv blob = .ok payload →
        payload.senderPubHash ≠ id
  | .sessionMessage peer _ _ _ => peer.hash P ≠ id
  | _ => True

/-- What the other tasks change beside the two paths. -/
structure LeavesPaths (id : KeyType) (client : LinkedClient)
    (loop : CommandLoop) : Prop where
  peers : loop.peers = client.peers
  cache : ∀ online ∈ loop.cache, online ∈ client.cache
  isOpen : loop.server.isOpen = true
  parcels : loop.server.queue.items.filterMap (ClientToServer.parcelFor id) =
    client.server.queue.items.filterMap (ClientToServer.parcelFor id)
  foreign : ∀ peer entry, loop.sessionMap peer = some entry →
    (client.ends entry.outbound).isSome = true → peer = id
  outbounds : ∀ number, (client.ends number).isSome = true →
    loop.outbounds number = client.outbounds number

/-- A command that sends finds room in its channel. -/
structure FindsRoom (keys : Keys) (env : LoopEnv) (loop : CommandLoop)
    (cmd : Command) : Prop where
  server : loop.server.queue.items.length +
    (commandMessages P messages blobs keys env loop cmd).length ≤ 100
  outbound : ∀ peer text entry, cmd = .send peer text →
    loop.sessionMap peer = some entry →
    (loop.outbounds entry.outbound).waits = false

/-- The conditions on a step.  A frame that opens under the key of a session
is one of the other side's; nothing else is asked of the network. -/
def Trustworthy (state : TwoClients) : TwoClientsLabel → Prop
  | .command side env cmd =>
      FindsRoom P messages blobs (keys side) env
        (state.clients side).toCommandLoop cmd
  | .task side label =>
      SpeaksForOthers P blobs ((keys side.other).id P) (keys side)
        (keys side.other) label
  | .others side loop =>
      LeavesPaths ((keys side.other).id P) (state.clients side) loop
  | .started side number =>
      ∀ peer entry, (state.clients side).sessionMap peer = some entry →
        entry.outbound ≠ number
  | .receives side number bytes now =>
      ∀ evtOpen, Authentic P frames
        (sessionReceiver P keys (sessionKey number) side)
        ((state.clients side.other).calls number) ⟨bytes, now, evtOpen⟩
  | _ => True

/-- The directory steps of a label. -/
def TwoClientsLabel.directory : TwoClientsLabel → Option DirectoryLabel
  | .task _ label => some label
  | _ => none

end Steps

def LinkedClient.initial : LinkedClient where
  peers := ∅
  sessionMap := fun _ => none
  outbounds := fun _ => ⟨true, .empty⟩
  server := ⟨true, .empty⟩
  intents := fun _ => none
  cache := []
  aliasFile := none
  myAddress := none
  contacts := fun _ => none
  attempts := []
  sessions := []
  checkedBlob := none
  reading := none
  ends := fun _ => none

def TwoClients.initial : TwoClients where
  clients := fun _ => .initial
  mailbox := fun _ => []

end SechatClient
