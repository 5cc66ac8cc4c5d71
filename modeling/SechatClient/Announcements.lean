import SechatClient.MailboxEntryPoints
import SechatClient.StepSystem

/-!
# The address in presence announcements

On one connection the client announces itself from three places: the burst at
the end of `server_initial_handshake`, `presence_refresh_loop` and the command
`AnnounceNow`.  The handshake computes the address to announce and stores it
in `MY_ADDRESS`, where the other two take it from; the burst itself announces
the address which the server observed.  `MY_ADDRESS` is also written by a later
`AuthOk` and by the handshakes of other connections.
-/

namespace SechatClient

open StepSystem

/-- The arguments of `run_client` which matter here. -/
structure Connection where
  privkey : KeyType
  udpPort : UInt16
  announceOverride : Option String

inductive ConnectionPhase where
  | authenticating
  | draining
  /-- the drain has ended, the burst comes next -/
  | drained
  | running
  | failed
  deriving DecidableEq

/-- `observed` is the address of the `AuthOk` reply, `announced` lists the
announcements sent on the connection. -/
structure ConnectionState where
  phase : ConnectionPhase
  handler : HandlerState
  observed : Option String
  announced : List ClientMessage

def ConnectionState.initial (handler : HandlerState) : ConnectionState :=
  ⟨.authenticating, handler, none, []⟩

inductive ConnectionLabel where
  | authReply (reply : ServerMessage)
  | drains (received : List (ServerMessage × DrainEnv))
  /-- `written` messages are written before the first failed write -/
  | burst (timestamp : Int64) (written : ℕ)
  | dispatches (env : HandlerEnv) (message : ServerMessage)
  /-- `accepted` messages go into the channel before it is closed -/
  | presenceTick (timestamp : Int64) (accepted : ℕ)
  | announceNow (timestamp : Int64) (accepted : ℕ)
  /-- another connection sets `MY_ADDRESS` -/
  | otherConnection (address : String)
  /-- contacts are added or removed -/
  | contacts (peers : PeersDir)

namespace ConnectionState

variable (P : Primitives) (connection : Connection) (state : ConnectionState)

def setPeers (peers : PeersDir) : ConnectionState :=
  { state with handler := { state.handler with peers := peers } }

def setMyAddress (address : String) : ConnectionState :=
  { state with handler := { state.handler with myAddress := some address } }

/-- The contacts that are announced to, none if they cannot be loaded. -/
def recipients : List PeerPublic :=
  ((loadPeers P state.handler.peers).toOption).getD []

/-- The first `count` contacts are sent the address. -/
def announce (timestamp : Int64) (address : String) (count : ℕ) :
    ConnectionState :=
  { state with
    announced := state.announced ++
      ((state.recipients P).take count).map fun peer =>
        generateAnnounceMessage P connection.privkey peer.publicKey timestamp
          address }

/-- The announcements of `presence_refresh_loop` and `AnnounceNow`. -/
def announceMyAddress (timestamp : Int64) (accepted : ℕ) : ConnectionState :=
  match state.handler.myAddress with
  | none => state
  | some address => state.announce P connection timestamp address accepted

/-- The end of `server_initial_handshake`. -/
def announceBurst (observed : String) (timestamp : Int64) (written : ℕ) :
    ConnectionState :=
  match loadPeers P state.handler.peers with
  | .error _ => { state with phase := .failed }
  | .ok contacts =>
      { state.announce P connection timestamp observed written with
        phase := if contacts.length ≤ written then .running else .failed }

end ConnectionState

section Steps

variable (P : Primitives) (messages : Codec Message)
  (blobs : Codec BlobPayload) (wire : Codec ClientToServer)
  (connection : Connection)

def connectionStep (state : ConnectionState) :
    ConnectionLabel → Option ConnectionState
  | .authReply reply =>
      match state.phase, reply with
      | .authenticating, .authOk observed =>
          some { state.setMyAddress (announceAddress
              connection.announceOverride observed connection.udpPort) with
            phase := .draining
            observed := some observed }
      | .authenticating, _ => some { state with phase := .failed }
      | _, _ => none
  | .drains received =>
      match state.phase, drainConsumed P messages blobs wire connection.privkey
          ⟨state.handler.peers, [], []⟩ received with
      | .draining, .ended final =>
          some { state.setPeers final.peers with phase := .drained }
      | .draining, .failed final _ =>
          some { state.setPeers final.peers with phase := .failed }
      | _, _ => none
  | .burst timestamp written =>
      match state.phase, state.observed with
      | .drained, some observed =>
          some (state.announceBurst P connection observed timestamp written)
      | _, _ => none
  | .dispatches env message =>
      if state.phase = .running then
        some { state with
          handler := (handleMessage P messages blobs connection.privkey env
            state.handler message).state }
      else none
  | .presenceTick timestamp accepted =>
      if state.phase = .running then
        some (state.announceMyAddress P connection timestamp accepted)
      else none
  | .announceNow timestamp accepted =>
      if state.phase = .running then
        some (state.announceMyAddress P connection timestamp accepted)
      else none
  | .otherConnection address => some (state.setMyAddress address)
  | .contacts peers => some (state.setPeers peers)

end Steps

/-! ## One address -/

section Agreement

variable (P : Primitives) (connection : Connection)

def ClientMessage.announcedAddress : ClientMessage → Option String
  | .announce _ ipPort => some ipPort
  | _ => none

/-- The address to announce once the server has observed one. -/
def Connection.expected (connection : Connection) (observed : String) :
    String :=
  announceAddress connection.announceOverride observed connection.udpPort

/-- All announcements of the connection carry the expected address. -/
def AnnouncesAgree (state : ConnectionState) : Prop :=
  ∀ message ∈ state.announced, ∃ observed,
    state.observed = some observed ∧
      message.announcedAddress = some (connection.expected observed)

/-- The burst has nobody to announce to, or the server observed the very
address to announce; what is written to `MY_ADDRESS` later is that address. -/
def KeepsAddress (state : ConnectionState) : ConnectionLabel → Prop
  | .burst _ written =>
      state.phase = .drained →
        (state.recipients P).take written = [] ∨
          state.observed = state.observed.map connection.expected
  | .dispatches _ (.authOk address) =>
      state.phase = .running →
        state.observed.map connection.expected = some address
  | .otherConnection address =>
      ∀ observed, state.observed = some observed →
        connection.expected observed = address
  | _ => True

/-- The invariant: the announcements agree and `MY_ADDRESS` holds the address
to announce. -/
structure AddressKept (state : ConnectionState) : Prop where
  agree : AnnouncesAgree connection state
  unobserved : state.phase = .authenticating → state.observed = none
  running : state.phase = .running → state.observed.isSome = true
  stored : ∀ observed, state.observed = some observed →
    state.handler.myAddress = some (connection.expected observed)

end Agreement

section Invariant

variable {P : Primitives} {messages : Codec Message}
  {blobs : Codec BlobPayload} {wire : Codec ClientToServer}
  {connection : Connection} {state next : ConnectionState}

theorem AddressKept.initial (handler : HandlerState) :
    AddressKept connection (.initial handler) where
  agree := by simp [AnnouncesAgree, ConnectionState.initial]
  unobserved := fun _ => rfl
  running := by simp [ConnectionState.initial]
  stored := by simp [ConnectionState.initial]

theorem announcesAgree_announce
    (hagree : AnnouncesAgree connection state) {observed address : String}
    (hobserved : state.observed = some observed) {count : ℕ}
    (haddress : (state.recipients P).take count = [] ∨
      address = connection.expected observed) (timestamp : Int64) :
    AnnouncesAgree connection
      (state.announce P connection timestamp address count) := by
  intro message hmem
  rcases List.mem_append.mp hmem with hmem | hmem
  · exact hagree message hmem
  · obtain ⟨peer, hpeer, rfl⟩ := List.mem_map.mp hmem
    rcases haddress with hnone | haddress
    · simp [hnone] at hpeer
    · exact ⟨observed, hobserved, by
        rw [haddress]
        rfl⟩

theorem AddressKept.announceMyAddress
    (hkept : AddressKept connection state) (hphase : state.phase = .running)
    (timestamp : Int64) (accepted : ℕ) :
    AddressKept connection
      (state.announceMyAddress P connection timestamp accepted) := by
  obtain ⟨observed, hobserved⟩ :=
    Option.isSome_iff_exists.mp (hkept.running hphase)
  have hstored := hkept.stored observed hobserved
  simp only [ConnectionState.announceMyAddress, hstored]
  exact
    { agree := announcesAgree_announce hkept.agree hobserved (.inr rfl)
        timestamp
      unobserved := hkept.unobserved
      running := hkept.running
      stored := hkept.stored }

theorem AddressKept.announceBurst
    (hkept : AddressKept connection state) {observed : String}
    (hobserved : state.observed = some observed) {written : ℕ}
    (haddress : (state.recipients P).take written = [] ∨
      observed = connection.expected observed) (timestamp : Int64) :
    AddressKept connection
      (state.announceBurst P connection observed timestamp written) := by
  unfold ConnectionState.announceBurst
  split
  next =>
    exact
      { agree := hkept.agree
        unobserved := by simp
        running := by simp
        stored := hkept.stored }
  next contacts _ =>
    exact
      { agree := announcesAgree_announce hkept.agree hobserved haddress
          timestamp
        unobserved := by
          intro hphase
          split at hphase <;> contradiction
        running := by
          intro _
          simp [ConnectionState.announce, hobserved]
        stored := hkept.stored }

variable (P messages blobs) in
/-- Only an `AuthOk` changes the client's own address. -/
theorem handleMessage_myAddress
    (privkey : KeyType) (env : HandlerEnv) (handler : HandlerState)
    (message : ServerMessage) :
    (∃ address, message = .authOk address ∧
        (handleMessage P messages blobs privkey env handler
          message).state.myAddress = some address) ∨
      (handleMessage P messages blobs privkey env handler
        message).state.myAddress = handler.myAddress := by
  cases message with
  | authOk observedAddress => exact .inl ⟨observedAddress, rfl, rfl⟩
  | peerOnline hash ipPort =>
      right
      simp only [handleMessage]
      split <;> rfl
  | pendingBlob | pendingBlobsEnd | peerOffline | punchHole | authFailed
  | error | requestHolePunch | requestDenied | relayData => exact .inr rfl

theorem AddressKept.dispatches
    (hkept : AddressKept connection state) (hphase : state.phase = .running)
    {env : HandlerEnv} {message : ServerMessage}
    (hkeeps : KeepsAddress P connection state (.dispatches env message)) :
    AddressKept connection { state with
      handler := (handleMessage P messages blobs connection.privkey env
        state.handler message).state } where
  agree := hkept.agree
  unobserved := hkept.unobserved
  running := hkept.running
  stored := by
    intro observed hobserved
    rcases handleMessage_myAddress P messages blobs connection.privkey env
        state.handler message with ⟨address, rfl, haddress⟩ | hsame
    · have hexpected : state.observed.map connection.expected = some address :=
        hkeeps hphase
      rw [show state.observed = some observed from hobserved] at hexpected
      exact haddress.trans hexpected.symm
    · exact hsame.trans (hkept.stored observed hobserved)

theorem AddressKept.step
    (hkept : AddressKept connection state) {label : ConnectionLabel}
    (hkeeps : KeepsAddress P connection state label)
    (hstep : connectionStep P messages blobs wire connection state label =
      some next) :
    AddressKept connection next := by
  cases label with
  | authReply reply =>
      simp only [connectionStep] at hstep
      split at hstep
      next observed hphase =>
        cases hstep
        have hnone := hkept.unobserved hphase
        exact
          { agree := by
              intro message hmem
              obtain ⟨other, hother, _⟩ := hkept.agree message hmem
              rw [hnone] at hother
              contradiction
            unobserved := by simp
            running := by simp
            stored := by
              intro other hother
              cases hother
              rfl }
      next hphase _ =>
        cases hstep
        exact
          { agree := hkept.agree
            unobserved := by simp
            running := by simp
            stored := hkept.stored }
      next => contradiction
  | drains received =>
      simp only [connectionStep] at hstep
      split at hstep
      next =>
        cases hstep
        exact ⟨hkept.agree, by simp, by simp, hkept.stored⟩
      next =>
        cases hstep
        exact ⟨hkept.agree, by simp, by simp, hkept.stored⟩
      next => contradiction
  | burst timestamp written =>
      simp only [connectionStep] at hstep
      split at hstep
      next observed hphase hobserved =>
        cases hstep
        apply hkept.announceBurst hobserved
        have haddress := hkeeps hphase
        rw [hobserved] at haddress
        simpa using haddress
      next => contradiction
  | dispatches env message =>
      simp only [connectionStep] at hstep
      split at hstep
      next hphase =>
        cases hstep
        exact hkept.dispatches hphase hkeeps
      next => contradiction
  | presenceTick timestamp accepted =>
      simp only [connectionStep] at hstep
      split at hstep
      next hphase =>
        cases hstep
        exact hkept.announceMyAddress hphase timestamp accepted
      next => contradiction
  | announceNow timestamp accepted =>
      simp only [connectionStep] at hstep
      split at hstep
      next hphase =>
        cases hstep
        exact hkept.announceMyAddress hphase timestamp accepted
      next => contradiction
  | otherConnection address =>
      cases hstep
      exact
        { agree := hkept.agree
          unobserved := hkept.unobserved
          running := hkept.running
          stored := by
            intro observed hobserved
            rw [hkeeps observed hobserved]
            rfl }
  | contacts peers =>
      cases hstep
      exact ⟨hkept.agree, hkept.unobserved, hkept.running, hkept.stored⟩

/-! ## Announcements of another address -/

theorem not_agree_of_announce
    {address : String} {count : ℕ}
    (hsome : (state.recipients P).take count ≠ [])
    (hother : state.observed.map connection.expected ≠ some address)
    (timestamp : Int64) :
    ¬ AnnouncesAgree connection
      (state.announce P connection timestamp address count) := by
  intro hagree
  obtain ⟨peer, hpeer⟩ := List.exists_mem_of_ne_nil _ hsome
  obtain ⟨observed, hobserved, haddress⟩ := hagree _
    (List.mem_append_right _ (List.mem_map_of_mem hpeer))
  have hstate : state.observed = some observed := hobserved
  apply hother
  rw [hstate]
  exact haddress.symm

theorem burst_disagrees
    {timestamp : Int64} {written : ℕ}
    (hkeeps : ¬ KeepsAddress P connection state (.burst timestamp written)) :
    ∃ next, connectionStep P messages blobs wire connection state
        (.burst timestamp written) = some next ∧
      ¬ AnnouncesAgree connection next := by
  simp only [KeepsAddress, Classical.not_imp, not_or] at hkeeps
  obtain ⟨hphase, hsome, hother⟩ := hkeeps
  cases hobserved : state.observed with
  | none =>
      rw [hobserved] at hother
      exact absurd rfl hother
  | some observed =>
      refine ⟨state.announceBurst P connection observed timestamp written,
        by simp [connectionStep, hphase, hobserved], ?_⟩
      cases hload : loadPeers P state.handler.peers with
      | error e => simp [ConnectionState.recipients, hload,
          Except.toOption] at hsome
      | ok contacts =>
          simp only [ConnectionState.announceBurst, hload]
          have hne : state.observed.map connection.expected ≠
              some observed := by
            rw [← hobserved]
            exact fun heq => hother heq.symm
          exact not_agree_of_announce hsome hne timestamp

theorem tick_after_authOk_disagrees
    {env : HandlerEnv} {address : String}
    (hkeeps : ¬ KeepsAddress P connection state
      (.dispatches env (.authOk address)))
    (hcontacts : state.recipients P ≠ []) (timestamp : Int64) :
    ∃ next, runFrom (connectionStep P messages blobs wire connection) state
        [.dispatches env (.authOk address), .presenceTick timestamp 1] =
          some next ∧
      ¬ AnnouncesAgree connection next := by
  simp only [KeepsAddress, Classical.not_imp] at hkeeps
  obtain ⟨hphase, hother⟩ := hkeeps
  have hwritten : connectionStep P messages blobs wire connection state
      (.dispatches env (.authOk address)) =
        some (state.setMyAddress address) := by
    simp only [connectionStep, if_pos hphase]
    rfl
  have htick : connectionStep P messages blobs wire connection
      (state.setMyAddress address) (.presenceTick timestamp 1) =
        some ((state.setMyAddress address).announce P connection timestamp
          address 1) := by
    have hrunning : (state.setMyAddress address).phase = .running := hphase
    simp only [connectionStep, if_pos hrunning]
    rfl
  refine ⟨_, runFrom_cons_eq_some.mpr ⟨_, hwritten,
    runFrom_cons_eq_some.mpr ⟨_, htick, rfl⟩⟩, ?_⟩
  apply not_agree_of_announce ?_ hother
  cases hrecipients : state.recipients P with
  | nil => exact absurd hrecipients hcontacts
  | cons peer rest => simp

end Invariant

/-- In every run in which the burst announces to nobody or the server observed
the address to announce, and in which everything written to `MY_ADDRESS` later
is that address, all announcements carry it: the override, else the observed IP
with the UDP port.  A burst that breaks the condition announces another
address, and so does the next tick after an `AuthOk` that breaks it. -/
theorem announcements_agree
    (P : Primitives) (messages : Codec Message) (blobs : Codec BlobPayload)
    (wire : Codec ClientToServer) (connection : Connection)
    (handler : HandlerState) :
    (∀ labels final,
        AllSteps (connectionStep P messages blobs wire connection)
          (KeepsAddress P connection) (.initial handler) labels →
        runFrom (connectionStep P messages blobs wire connection)
          (.initial handler) labels = some final →
        AnnouncesAgree connection final) ∧
      (∀ address observed, connection.announceOverride = some address →
        connection.expected observed = address) ∧
      (∀ ip port, connection.announceOverride = none → ':' ∉ port →
        connection.expected (String.ofList (ip ++ ':' :: port)) =
          String.ofList ip ++ ":" ++ toString connection.udpPort) ∧
      (∀ labels state timestamp written,
        runFrom (connectionStep P messages blobs wire connection)
          (.initial handler) labels = some state →
        ¬ KeepsAddress P connection state (.burst timestamp written) →
        ∃ final, runFrom (connectionStep P messages blobs wire connection)
            (.initial handler) (labels ++ [.burst timestamp written]) =
              some final ∧
          ¬ AnnouncesAgree connection final) ∧
      ∀ labels state env address timestamp,
        runFrom (connectionStep P messages blobs wire connection)
          (.initial handler) labels = some state →
        ¬ KeepsAddress P connection state
          (.dispatches env (.authOk address)) →
        state.recipients P ≠ [] →
        ∃ final, runFrom (connectionStep P messages blobs wire connection)
            (.initial handler) (labels ++ [.dispatches env (.authOk address),
              .presenceTick timestamp 1]) = some final ∧
          ¬ AnnouncesAgree connection final := by
  refine ⟨?_, ?_, ?_, ?_, ?_⟩
  · intro labels final hkeeps hrun
    have hkept : AddressKept connection final :=
      runFrom_invariant_of_allSteps (AddressKept connection)
        (fun _ _ _ hstate hok hstep => hstate.step hok hstep)
        (.initial handler) hkeeps hrun
    exact hkept.agree
  · intro address observed hoverride
    simp [Connection.expected, announceAddress, hoverride]
  · intro ip port hoverride hport
    simp only [Connection.expected, announceAddress, hoverride,
      ByteStrings.rsplitOnce_append hport, Option.getD_none]
  · intro labels state timestamp written hrun hkeeps
    obtain ⟨next, hstep, hdisagree⟩ := burst_disagrees hkeeps
    refine ⟨next, runFrom_append_eq_some.mpr ⟨state, hrun, ?_⟩, hdisagree⟩
    exact runFrom_cons_eq_some.mpr ⟨next, hstep, rfl⟩
  · intro labels state env address timestamp hrun hkeeps hcontacts
    obtain ⟨next, hsteps, hdisagree⟩ := tick_after_authOk_disagrees hkeeps
      hcontacts timestamp
    exact ⟨next, runFrom_append_eq_some.mpr ⟨state, hrun, hsteps⟩, hdisagree⟩

/-! ## A client behind a NAT -/

def sampleHandler : HandlerState :=
  ⟨initializePeer .transparent ∅ (sampleKeys 1).publicPart, [], none⟩

def sampleConnection (announceOverride : Option String) : Connection :=
  ⟨(sampleKeys 3).x25519Priv, 4000, announceOverride⟩

/-- The server sees the TCP connection at the given address. -/
def sampleAnnounces (observed : String) : List ConnectionLabel :=
  [.authReply (.authOk observed), .drains [(.pendingBlobsEnd,
    samplePending.env)], .burst 1000 1, .presenceTick 1015 1,
    .announceNow 1020 1]

theorem sample_announces_agree :
    ∃ final, runFrom (connectionStep .transparent transparentMessages
          transparentBlobs transparentWire (sampleConnection none))
          (.initial sampleHandler) (sampleAnnounces "203.0.113.7:4000") =
        some final ∧
      final.announced.map ClientMessage.announcedAddress =
        List.replicate 3 (some "203.0.113.7:4000") ∧
      AnnouncesAgree (sampleConnection none) final := by
  refine ⟨_, rfl, rfl, ?_⟩
  refine (announcements_agree .transparent transparentMessages
    transparentBlobs transparentWire (sampleConnection none)
    sampleHandler).1 (sampleAnnounces "203.0.113.7:4000") _ ?_ rfl
  have hobserved : some "203.0.113.7:4000" =
      (some "203.0.113.7:4000").map (sampleConnection none).expected := by
    decide
  refine allSteps_cons trivial rfl (allSteps_cons trivial rfl ?_)
  refine allSteps_cons (fun _ => Or.inr hobserved) rfl ?_
  exact allSteps_cons trivial rfl (allSteps_cons trivial rfl trivial)

/-- The server observes the TCP connection, STUN the UDP socket: the burst
announces the former, everything after it the latter. -/
theorem burst_announces_observed_address :
    ∃ final, runFrom (connectionStep .transparent transparentMessages
          transparentBlobs transparentWire
          (sampleConnection (some "203.0.113.7:6000")))
          (.initial sampleHandler) (sampleAnnounces "203.0.113.7:51234") =
        some final ∧
      final.announced.map ClientMessage.announcedAddress =
        [some "203.0.113.7:51234", some "203.0.113.7:6000",
          some "203.0.113.7:6000"] ∧
      ¬ AnnouncesAgree (sampleConnection (some "203.0.113.7:6000"))
        final := by
  refine ⟨_, rfl, rfl, ?_⟩
  intro hagree
  obtain ⟨observed, hobserved, haddress⟩ := hagree _ List.mem_cons_self
  cases hobserved
  exact absurd haddress (by decide)

end SechatClient
