import SechatClient.AliasFile
import SechatClient.MessengerRefinement
import SechatClient.Orchestrate
import SechatClient.SendCommand

/-!
# Handling of commands

`handle_command` with all its branches.  What a command hands to the server
channel and what it does to the peers directory is said once, as the list of
messages it sends and as the step of the directory it takes; runs of commands
are then runs of the directory.
-/

namespace SechatClient

open ByteStrings OrderedStore StepSystem

/-- `instant` is the monotonic clock of the retry ladder, `laterAnnounces` the
server channel as each announcement that had to wait finds it, `order` that in
which the alias file is written. -/
structure LoopEnv extends CommandEnv where
  instant : ℕ
  laterAnnounces : ℕ → ServerChannel
  order : IterationOrder

/-- What the commands share with the other tasks, and the connect-intents. -/
structure CommandLoop extends CommandState where
  intents : KeyType → Option ConnectIntent
  cache : List OnlinePeer
  aliasFile : Option String
  myAddress : Option String

structure LoopResult where
  loop : CommandLoop
  emitted : List AppEvent

namespace CommandLoop

def dropSession (peer : KeyType) (loop : CommandLoop) : CommandLoop :=
  { loop with
    intents := Function.update loop.intents peer none
    sessionMap := Function.update loop.sessionMap peer none }

def withServer (server : ServerChannel) (loop : CommandLoop) : CommandLoop :=
  { loop with server := server }

def withPeers (peers : PeersDir) (loop : CommandLoop) : CommandLoop :=
  { loop with peers := peers }

end CommandLoop

section Steps

variable (P : Primitives) (messages : Codec Message)
  (blobs : Codec BlobPayload) (keys : Keys)

/-- `Connect` keeps a live session, and otherwise arms an intent anew. -/
def handleConnect (env : LoopEnv) (loop : CommandLoop) (peer : KeyType) :
    LoopResult :=
  match loadPeerData P loop.peers peer with
  | .error _ => ⟨loop, [.error "unknown peer"]⟩
  | .ok _ =>
      if (loop.sessionMap peer).isSome then
        ⟨loop, []⟩
      else
        ⟨{ loop with
            cache := loadOnlinePeers env.now loop.cache
            intents := Function.update loop.intents peer
              (some (.armed (peerIsOnline P env.now loop.cache peer)
                env.instant)) }, []⟩

def handleRemovePeer (env : LoopEnv) (loop : CommandLoop) (peer : KeyType) :
    LoopResult :=
  let dropped := loop.dropSession peer
  ⟨{ dropped with
      peers := deletePeer dropped.peers peer
      aliasFile := aliasStep dropped.aliasFile
        (.removeAlias peer env.order) }, []⟩

def announcement (env : LoopEnv) (address : String) (peer : PeerPublic) :
    ClientToServer :=
  .new (generateAnnounceMessage P keys.x25519Priv peer.publicKey env.now
    address) none env.now

/-- The loop of `AnnounceNow`; `index` counts the announcements before. -/
def announceTo (env : LoopEnv) (address : String) :
    ℕ → List PeerPublic → ServerChannel → Option ServerChannel
  | _, [], server => some server
  | index, peer :: rest, server =>
      match (whenSent server (env.laterAnnounces index)).send
          (announcement P keys env address peer) with
      | none => none
      | some (next, _) => announceTo env address (index + 1) rest next

def announceRecipients (peers : PeersDir) : List PeerPublic :=
  ((loadPeers P peers).toOption).getD []

def handleAnnounceNow (env : LoopEnv) (loop : CommandLoop) :
    Option LoopResult :=
  match loop.myAddress with
  | none => some ⟨loop, []⟩
  | some address =>
      (announceTo P keys env address 0 (announceRecipients P loop.peers)
        loop.server).map fun server => ⟨loop.withServer server, []⟩

def purgeBlob (env : LoopEnv) (peerPub : PeerPublic) :
    Except ClientErrors ClientToServer :=
  generatePurgeMessage P blobs peerPub keys.x25519Pub keys.ed25519Signing
    env.ephSecret env.blobNonce env.generateNow

/-- The end of `Purge`, which does not look at what became of the blob. -/
def purgeLocally (peer : KeyType) (loop : CommandLoop)
    (emitted : List AppEvent) : LoopResult :=
  ⟨loop.withPeers (purgePeerChat loop.peers peer),
    emitted ++ [.messageArrived peer true]⟩

def handlePurge (env : LoopEnv) (loop : CommandLoop) (peer : KeyType) :
    Option LoopResult :=
  let dropped := loop.dropSession peer
  match loadPeerData P dropped.peers peer with
  | .error e => some ⟨dropped, [.error ("unknown peer: " ++ e.display)]⟩
  | .ok peerPub =>
      match purgeBlob P blobs keys env peerPub with
      | .error e =>
          some (purgeLocally peer dropped
            [.error ("purge send failed: " ++ e.display)])
      | .ok msg =>
          match (whenSent dropped.server env.laterServer).send msg with
          | none => none
          | some (server, _) =>
              some (purgeLocally peer (dropped.withServer server) [])

/-- `handle_command`; `none` while a send waits for room. -/
def handleCommand (env : LoopEnv) (loop : CommandLoop) :
    Command → Option LoopResult
  | .connect peer => some (handleConnect P env loop peer)
  | .setServer _ => some ⟨loop, []⟩
  | .shutdown => some ⟨loop, []⟩
  | .removePeer peer => some (handleRemovePeer env loop peer)
  | .announceNow => handleAnnounceNow P keys env loop
  | .purge peer => handlePurge P blobs keys env loop peer
  | .send peer text =>
      (handleSend P messages blobs keys env.toCommandEnv loop.toCommandState
        peer text).map fun result =>
          ⟨{ loop with toCommandState := result.state }, result.emitted⟩

/-! ## What a command sends and stores -/

/-- The messages which a command hands to the server channel. -/
def commandMessages (env : LoopEnv) (loop : CommandLoop) :
    Command → List ClientToServer
  | .announceNow =>
      match loop.myAddress with
      | none => []
      | some address =>
          (announceRecipients P loop.peers).map (announcement P keys env address)
  | .purge peer =>
      match contactOf P loop.peers peer with
      | none => []
      | some peerPub => (purgeBlob P blobs keys env peerPub).toOption.toList
  | .send peer text =>
      match contactOf P loop.peers peer with
      | none => []
      | some peerPub =>
          if (loop.sessionMap peer).isSome then []
          else (offlineBlob P messages blobs keys env.toCommandEnv peerPub
            text).toOption.toList
  | _ => []

/-- The step of the peers directory which a command takes. -/
def Command.directoryLabel (env : LoopEnv) : Command → Option DirectoryLabel
  | .send peer text =>
      some (.send peer text ⟨env.now, env.locked, env.recordNonce⟩)
  | .purge peer => some (.purge peer)
  | .removePeer peer => some (.removePeer peer)
  | _ => none

end Steps

section Spec

variable {P : Primitives} {messages : Codec Message}
  {blobs : Codec BlobPayload} {keys : Keys} {env : LoopEnv}
  {loop : CommandLoop} {cmd : Command} {result : LoopResult}

/-- A send into a channel with room. -/
theorem send_of_room
    {α : Type} {capacity : ℕ} {channel : Channel α capacity}
    (hopen : channel.isOpen = true)
    (hroom : channel.queue.items.length < capacity)
    (later : Channel α capacity) (item : α) :
    ∃ next, (whenSent channel later).send item = some (next, true) ∧
      next.isOpen = true ∧
      next.queue.items = channel.queue.items ++ [item] := by
  have hready : whenSent channel later = channel := by
    have hwaits : channel.waits = false := by
      simp [Channel.waits, hopen]
      omega
    rw [whenSent, hwaits]
    rfl
  obtain ⟨queue, htry, hitems⟩ := BoundedQueue.trySend_of_lt hroom item
  exact ⟨⟨true, queue⟩, by simp [hready, Channel.send, hopen, htry], rfl,
    hitems⟩

/-- Where the server channel has a receiver and room for all that a command
sends, the command sends it all; it inserts no session. -/
structure Sends (messages : List ClientToServer) (before after : CommandLoop) :
    Prop where
  isOpen : after.server.isOpen = true
  items : after.server.queue.items = before.server.queue.items ++ messages
  sessions : ∀ peer, after.sessionMap peer = before.sessionMap peer ∨
    after.sessionMap peer = none

theorem Sends.nothing (hopen : loop.server.isOpen = true)
    {after : CommandLoop} (hserver : after.server = loop.server)
    (hsessions : ∀ peer, after.sessionMap peer = loop.sessionMap peer ∨
      after.sessionMap peer = none) :
    Sends [] loop after where
  isOpen := by rw [hserver, hopen]
  items := by rw [hserver, List.append_nil]
  sessions := hsessions

variable (P keys env) in
theorem announceTo_eq_some
    (address : String) (index : ℕ) {recipients : List PeerPublic}
    {server : ServerChannel} (hopen : server.isOpen = true)
    (hroom : server.queue.items.length + recipients.length ≤ 100) :
    ∃ next, announceTo P keys env address index recipients server =
        some next ∧
      next.isOpen = true ∧
      next.queue.items = server.queue.items ++
        recipients.map (announcement P keys env address) := by
  induction recipients generalizing index server with
  | nil => exact ⟨server, rfl, hopen, by simp⟩
  | cons peer rest ih =>
      rw [List.length_cons] at hroom
      obtain ⟨middle, hsend, hmiddle, hitems⟩ := send_of_room hopen
        (by omega) (env.laterAnnounces index)
        (announcement P keys env address peer)
      have hlength := congrArg List.length hitems
      rw [List.length_append, List.length_singleton] at hlength
      obtain ⟨next, hrest, hnext, hall⟩ := ih (index + 1) hmiddle
        (by omega)
      refine ⟨next, ?_, hnext, ?_⟩
      · simp only [announceTo, hsend, hrest]
      · rw [hall, hitems, List.append_assoc, List.map_cons,
          List.singleton_append]

variable (loop) in
theorem dropSession_sessionMap (peer other : KeyType) :
    (loop.dropSession peer).sessionMap other = loop.sessionMap other ∨
      (loop.dropSession peer).sessionMap other = none := by
  by_cases hother : other = peer
  · subst hother
    simp [CommandLoop.dropSession]
  · simp [CommandLoop.dropSession, Function.update_of_ne hother]

variable (P messages keys env) in
theorem persistSent_channels (state : CommandState) (peerPub : PeerPublic)
    (peer : KeyType) (text : String) :
    let stored := persistSent P messages keys env.toCommandEnv state peerPub
      peer text
    stored.state.server = state.server ∧
      stored.state.sessionMap = state.sessionMap ∧
      stored.state.peers = (persistMessage P messages keys
        ⟨env.now, env.locked, env.recordNonce⟩ state.peers peerPub peer text
        .you env.now).1 := by
  unfold persistSent
  split <;> next after outcome hstore =>
    rw [hstore]
    exact ⟨rfl, rfl, rfl⟩

theorem sendOverSession_leaves
    {state : CommandState} {peerPub : PeerPublic} {peer : KeyType}
    {text : String} {entry : SessionEntry} {sent : CommandResult}
    (hsend : sendOverSession P messages keys env.toCommandEnv state peerPub
      peer text entry = some sent) :
    sent.state.server = state.server ∧
      (∀ other, sent.state.sessionMap other = state.sessionMap other ∨
        sent.state.sessionMap other = none) ∧
      sent.state.peers = (persistMessage P messages keys
        ⟨env.now, env.locked, env.recordNonce⟩ state.peers peerPub peer text
        .you env.now).1 := by
  unfold sendOverSession at hsend
  split at hsend
  next => contradiction
  next channel accepted _ =>
    simp only [Option.some.injEq] at hsend
    subst hsend
    obtain ⟨hserver, hsessions, hpeers⟩ := persistSent_channels P messages
      keys env
      { state with
        outbounds := Function.update state.outbounds entry.outbound channel
        sessionMap :=
          if accepted then state.sessionMap
          else Function.update state.sessionMap peer none } peerPub peer text
    refine ⟨hserver, ?_, hpeers⟩
    intro other
    rw [hsessions]
    by_cases hother : other = peer
    · subst hother
      cases accepted <;> simp
    · cases accepted <;> simp [Function.update_of_ne hother]

theorem sendOffline_leaves
    {state : CommandState} {peerPub : PeerPublic} {peer : KeyType}
    {text : String} {msg : ClientToServer} {sent : CommandResult}
    (hmsg : offlineBlob P messages blobs keys env.toCommandEnv peerPub text =
      .ok msg)
    (hsend : sendOffline P messages blobs keys env.toCommandEnv state peerPub
      peer text = some sent) :
    (∃ accepted, (whenSent state.server env.laterServer).send msg =
        some (sent.state.server, accepted)) ∧
      sent.state.sessionMap = state.sessionMap ∧
      sent.state.peers = (persistMessage P messages keys
        ⟨env.now, env.locked, env.recordNonce⟩ state.peers peerPub peer text
        .you env.now).1 := by
  unfold sendOffline at hsend
  rw [hmsg] at hsend
  simp only at hsend
  split at hsend
  next => contradiction
  next channel accepted haccepted =>
    simp only [Option.some.injEq] at hsend
    subst hsend
    obtain ⟨hserver, hsessions, hpeers⟩ := persistSent_channels P messages
      keys env
      { state with server := channel } peerPub peer text
    exact ⟨⟨accepted, by rw [haccepted, hserver]⟩, hsessions, hpeers⟩

@[simp] theorem dropSession_peers (peer : KeyType) :
    (loop.dropSession peer).peers = loop.peers := rfl

@[simp] theorem dropSession_server (peer : KeyType) :
    (loop.dropSession peer).server = loop.server := rfl

theorem handlePurge_sends
    {peer : KeyType} (hopen : loop.server.isOpen = true)
    (hroom : loop.server.queue.items.length +
      (commandMessages P messages blobs keys env loop (.purge peer)).length ≤
        100)
    (hresult : handlePurge P blobs keys env loop peer = some result) :
    Sends (commandMessages P messages blobs keys env loop (.purge peer)) loop
      result.loop := by
  have hsessions := dropSession_sessionMap loop peer
  simp only [handlePurge, dropSession_peers, dropSession_server] at hresult
  simp only [commandMessages, contactOf] at hroom ⊢
  cases hload : loadPeerData P loop.peers peer with
  | error e =>
      simp only [hload, Option.some.injEq] at hresult
      subst hresult
      exact Sends.nothing hopen rfl hsessions
  | ok peerPub =>
      simp only [hload, Except.toOption] at hresult hroom ⊢
      cases hmsg : purgeBlob P blobs keys env peerPub with
      | error e =>
          simp only [hmsg, Option.some.injEq] at hresult
          subst hresult
          exact Sends.nothing hopen rfl hsessions
      | ok msg =>
          simp only [hmsg, Option.toList_some, List.length_singleton]
            at hresult hroom ⊢
          obtain ⟨next, hsend, hnext, hitems⟩ := send_of_room hopen
            (by omega) env.laterServer msg
          simp only [hsend, Option.some.injEq] at hresult
          subst hresult
          exact ⟨hnext, hitems, hsessions⟩

theorem handleSend_sends
    {peer : KeyType} {text : String} {sent : CommandResult}
    (hopen : loop.server.isOpen = true)
    (hroom : loop.server.queue.items.length +
      (commandMessages P messages blobs keys env loop
        (.send peer text)).length ≤ 100)
    (hresult : handleSend P messages blobs keys env.toCommandEnv
      loop.toCommandState peer text = some sent) :
    Sends (commandMessages P messages blobs keys env loop (.send peer text))
      loop { loop with toCommandState := sent.state } := by
  unfold handleSend at hresult
  simp only [commandMessages, contactOf] at hroom ⊢
  cases hload : loadPeerData P loop.peers peer with
  | error e =>
      simp only [hload, Option.some.injEq] at hresult
      subst hresult
      exact Sends.nothing hopen rfl fun _ => Or.inl rfl
  | ok peerPub =>
      simp only [hload, Except.toOption] at hresult hroom ⊢
      cases hentry : loop.sessionMap peer with
      | some entry =>
          simp only [hentry] at hresult
          obtain ⟨hserver, hsessions, -⟩ := sendOverSession_leaves hresult
          exact Sends.nothing hopen hserver hsessions
      | none =>
          simp only [hentry, Option.isSome_none, Bool.false_eq_true, if_false]
            at hresult hroom ⊢
          cases hmsg : offlineBlob P messages blobs keys env.toCommandEnv
              peerPub text with
          | error e =>
              simp only [sendOffline, hmsg, Option.some.injEq] at hresult
              subst hresult
              exact Sends.nothing hopen rfl fun _ => Or.inl rfl
          | ok msg =>
              simp only [hmsg, Option.toList_some, List.length_singleton]
                at hroom ⊢
              obtain ⟨next, hsend, hnext, hitems⟩ := send_of_room hopen
                (by omega) env.laterServer msg
              obtain ⟨⟨accepted, haccepted⟩, hsessions, -⟩ :=
                sendOffline_leaves hmsg hresult
              rw [hsend, Option.some.injEq, Prod.mk.injEq] at haccepted
              rw [haccepted.1] at hnext hitems
              exact ⟨hnext, hitems, fun other => Or.inl (by rw [hsessions])⟩

/-- What a command hands over, given room. -/
theorem handleCommand_sends
    {cmd : Command} (hopen : loop.server.isOpen = true)
    (hroom : loop.server.queue.items.length +
      (commandMessages P messages blobs keys env loop cmd).length ≤ 100)
    (hresult : handleCommand P messages blobs keys env loop cmd =
      some result) :
    Sends (commandMessages P messages blobs keys env loop cmd) loop
      result.loop := by
  cases cmd with
  | connect peer =>
      simp only [handleCommand, Option.some.injEq] at hresult
      subst hresult
      unfold handleConnect
      split
      next => exact Sends.nothing hopen rfl fun _ => Or.inl rfl
      next =>
        split <;> exact Sends.nothing hopen rfl fun _ => Or.inl rfl
  | setServer addr =>
      cases hresult
      exact Sends.nothing hopen rfl fun _ => Or.inl rfl
  | shutdown =>
      cases hresult
      exact Sends.nothing hopen rfl fun _ => Or.inl rfl
  | removePeer peer =>
      cases hresult
      exact Sends.nothing hopen rfl (dropSession_sessionMap loop peer)
  | announceNow =>
      simp only [handleCommand, handleAnnounceNow, commandMessages]
        at hresult hroom ⊢
      cases haddress : loop.myAddress with
      | none =>
          simp only [haddress, Option.some.injEq] at hresult
          subst hresult
          exact Sends.nothing hopen rfl fun _ => Or.inl rfl
      | some address =>
          simp only [haddress, List.length_map] at hresult hroom
          obtain ⟨next, hannounce, hnext, hitems⟩ := announceTo_eq_some
            P keys env address 0 hopen hroom
          rw [hannounce, Option.map_some, Option.some.injEq] at hresult
          subst hresult
          exact ⟨hnext, hitems, fun _ => Or.inl rfl⟩
  | purge peer => exact handlePurge_sends hopen hroom hresult
  | send peer text =>
      obtain ⟨sent, hsent, rfl⟩ := Option.map_eq_some_iff.mp hresult
      exact handleSend_sends hopen hroom hsent

theorem offlineBlob_succeeds
    (hround : messages.RoundTrip) (hblobs : blobs.RoundTrip)
    (peerPub : PeerPublic) (text : String) :
    ∃ msg, offlineBlob P messages blobs keys env.toCommandEnv peerPub text =
      .ok msg := by
  obtain ⟨cipher, hcipher⟩ := encryptMessageStored_succeeds P
    (loadStorageKey P peerPub.publicKey keys.x25519Priv) hround
    ⟨.you, text, env.generateNow⟩ env.storedNonce
  simp only [offlineBlob, generateOfflineMessage, offlinePayload, hcipher,
    hblobs.toVec_eq]
  exact ⟨_, rfl⟩

/-- On the peers directory a command is the step of its label.  Blobs can be
generated, so that no branch of a failing one is taken. -/
theorem handleCommand_peers
    (hround : messages.RoundTrip) (hblobs : blobs.RoundTrip) {cmd : Command}
    (hresult : handleCommand P messages blobs keys env loop cmd = some result)
    {state : DirectoryState} (hpeers : state.peers = loop.peers) :
    (∀ label, cmd.directoryLabel env = some label →
      ∃ next, directoryStep P messages blobs keys state label = some next ∧
        next.peers = result.loop.peers) ∧
    (cmd.directoryLabel env = none → result.loop.peers = loop.peers) := by
  cases cmd with
  | connect peer =>
      simp only [handleCommand, Option.some.injEq] at hresult
      subst hresult
      refine ⟨fun label hlabel => by contradiction, fun _ => ?_⟩
      unfold handleConnect
      split
      next => rfl
      next => split <;> rfl
  | setServer addr =>
      cases hresult
      exact ⟨fun label hlabel => by contradiction, fun _ => rfl⟩
  | shutdown =>
      cases hresult
      exact ⟨fun label hlabel => by contradiction, fun _ => rfl⟩
  | announceNow =>
      refine ⟨fun label hlabel => by contradiction, fun _ => ?_⟩
      simp only [handleCommand, handleAnnounceNow] at hresult
      split at hresult
      next =>
        cases hresult
        rfl
      next =>
        obtain ⟨server, -, rfl⟩ := Option.map_eq_some_iff.mp hresult
        rfl
  | removePeer peer =>
      cases hresult
      refine ⟨?_, fun hlabel => by contradiction⟩
      intro label hlabel
      cases hlabel
      exact ⟨_, rfl, by rw [hpeers]; rfl⟩
  | purge peer =>
      refine ⟨?_, fun hlabel => by contradiction⟩
      intro label hlabel
      cases hlabel
      simp only [handleCommand, handlePurge, dropSession_peers,
        dropSession_server] at hresult
      simp only [directoryStep, hpeers]
      cases hload : loadPeerData P loop.peers peer with
      | error e =>
          simp only [hload, Option.some.injEq] at hresult
          subst hresult
          exact ⟨_, rfl, hpeers⟩
      | ok peerPub =>
          simp only [hload] at hresult
          refine ⟨_, rfl, ?_⟩
          split at hresult
          next =>
            cases hresult
            rfl
          next =>
            split at hresult
            next => contradiction
            next =>
              cases hresult
              rfl
  | send peer text =>
      refine ⟨?_, fun hlabel => by contradiction⟩
      intro label hlabel
      cases hlabel
      obtain ⟨sent, hsent, rfl⟩ := Option.map_eq_some_iff.mp hresult
      simp only [directoryStep, hpeers]
      unfold handleSend at hsent
      cases hload : loadPeerData P loop.peers peer with
      | error e =>
          simp only [hload, Option.some.injEq] at hsent
          subst hsent
          exact ⟨_, rfl, hpeers⟩
      | ok peerPub =>
          simp only [hload] at hsent
          refine ⟨_, rfl, ?_⟩
          split at hsent
          next entry _ => exact (sendOverSession_leaves hsent).2.2.symm
          next =>
            obtain ⟨msg, hmsg⟩ := offlineBlob_succeeds hround hblobs peerPub
              text
            exact (sendOffline_leaves hmsg hsent).2.2.symm

/-- `Connect` drops expired entries of the presence cache. -/
theorem handleCommand_cache
    {cmd : Command}
    (hresult : handleCommand P messages blobs keys env loop cmd = some result)
    {online : OnlinePeer} (honline : online ∈ result.loop.cache) :
    online ∈ loop.cache := by
  cases cmd with
  | connect peer =>
      simp only [handleCommand, Option.some.injEq] at hresult
      subst hresult
      unfold handleConnect at honline
      split at honline
      next => exact honline
      next =>
        split at honline
        next => exact honline
        next => exact List.mem_of_mem_filter honline
  | setServer addr =>
      cases hresult
      exact honline
  | shutdown =>
      cases hresult
      exact honline
  | removePeer peer =>
      cases hresult
      exact honline
  | announceNow =>
      simp only [handleCommand, handleAnnounceNow] at hresult
      split at hresult
      next =>
        cases hresult
        exact honline
      next =>
        obtain ⟨server, -, rfl⟩ := Option.map_eq_some_iff.mp hresult
        exact honline
  | purge peer =>
      simp only [handleCommand, handlePurge] at hresult
      split at hresult
      next =>
        cases hresult
        exact honline
      next =>
        split at hresult
        next =>
          cases hresult
          exact honline
        next =>
          split at hresult
          next => contradiction
          next =>
            cases hresult
            exact honline
  | send peer text =>
      obtain ⟨sent, -, rfl⟩ := Option.map_eq_some_iff.mp hresult
      exact honline

end Spec

/-! ## Commands and the messenger -/

section Refinement

variable {P : Primitives} {messages : Codec Message}
  {blobs : Codec BlobPayload} {keys : Keys} {publicKeyOf : KeyType → KeyType}
  {count : ℕ} {state next other : DirectoryState} {messenger : Messenger}

theorem checkedBlob_of_commandStep
    {env : LoopEnv} {cmd : Command} {label : DirectoryLabel}
    (hlabel : cmd.directoryLabel env = some label)
    (hstep : directoryStep P messages blobs keys state label = some next) :
    next.checkedBlob = state.checkedBlob := by
  cases cmd with
  | send peer text =>
      cases hlabel
      simp only [directoryStep] at hstep
      split at hstep <;>
        (cases hstep; rfl)
  | purge peer =>
      cases hlabel
      simp only [directoryStep] at hstep
      split at hstep <;>
        (cases hstep; rfl)
  | removePeer peer =>
      cases hlabel
      cases hstep
      rfl
  | connect | announceNow | setServer | shutdown => contradiction

/-- The relation looks at the files, at the checked blob and at the keys the
tasks hold. -/
theorem RefinesMessenger.transfer
    (hrefines : RefinesMessenger P messages keys publicKeyOf count state
      messenger)
    (hpeers : other.peers = state.peers)
    (hchecked : other.checkedBlob = state.checkedBlob)
    (hheld : ∀ peer ∈ other.held,
      peer.publicKey = publicKeyOf (peer.hash P)) :
    RefinesMessenger P messages keys publicKeyOf count other messenger where
  contacts := by rw [hpeers, hrefines.contacts]
  keyed := hrefines.keyed
  held := hheld
  checked := by rw [hchecked, hrefines.checked]
  conversations := by
    rw [hpeers]
    exact hrefines.conversations

/-- A step which nobody sees. -/
theorem RefinesMessenger.succ
    (hrefines : RefinesMessenger P messages keys publicKeyOf count state
      messenger) :
    RefinesMessenger P messages keys publicKeyOf (count + 1) state
      messenger :=
  ⟨hrefines.contacts, hrefines.keyed, hrefines.held, hrefines.checked,
    hrefines.conversations.of_records fun _ => rfl⟩

variable (P messages blobs keys) in
/-- The messenger's step at a command. -/
def Messenger.afterCommand (env : LoopEnv) (cmd : Command)
    (messenger : Messenger) : Messenger :=
  match cmd.directoryLabel env with
  | none => messenger
  | some label => messenger.next P messages blobs keys label

/-- `handle_command` refines the messenger. -/
theorem RefinesMessenger.command
    (haead : P.AeadCorrect) (hround : messages.RoundTrip)
    (hblobs : blobs.RoundTrip)
    (hrefines : RefinesMessenger P messages keys publicKeyOf count state
      messenger)
    (hcount : count < 2 ^ 64) {env : LoopEnv} {loop : CommandLoop}
    {cmd : Command} {result : LoopResult}
    (hresult : handleCommand P messages blobs keys env loop cmd = some result)
    (hbefore : state.peers = loop.peers) (hpeers : other.peers = result.loop.peers)
    (hchecked : other.checkedBlob = state.checkedBlob)
    (hheld : ∀ peer ∈ other.held, peer ∈ state.held) :
    RefinesMessenger P messages keys publicKeyOf (count + 1) other
      (messenger.afterCommand P messages blobs keys env cmd) := by
  have hkeys : ∀ peer ∈ other.held,
      peer.publicKey = publicKeyOf (peer.hash P) :=
    fun peer hpeer => hrefines.held peer (hheld peer hpeer)
  obtain ⟨hlabelled, hunlabelled⟩ := handleCommand_peers hround hblobs
    hresult hbefore
  unfold Messenger.afterCommand
  cases hlabel : cmd.directoryLabel env with
  | none =>
      have hsame : other.peers = state.peers := by
        rw [hpeers, hunlabelled hlabel, hbefore]
      exact (hrefines.transfer hsame hchecked hkeys).succ
  | some label =>
      obtain ⟨next, hstep, hnext⟩ := hlabelled label hlabel
      have hadds : ∀ peer, label = .addPeer peer →
          P.isVerifyingKey peer.verifying = true →
          peer.publicKey = publicKeyOf (peer.hash P) := by
        rintro peer rfl
        cases cmd <;> simp [Command.directoryLabel] at hlabel
      have hmoved := hrefines.step haead hround hcount hadds hstep
      exact hmoved.transfer (hpeers.trans hnext.symm)
        (hchecked.trans (checkedBlob_of_commandStep hlabel hstep).symm) hkeys

end Refinement

def sampleLoopEnv : LoopEnv where
  toCommandEnv := sampleCommandEnv
  instant := 0
  laterAnnounces := fun _ => ⟨true, .empty⟩
  order := listedOrder

end SechatClient
