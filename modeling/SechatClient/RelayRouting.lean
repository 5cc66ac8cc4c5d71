import SechatClient.ConnectTransitions
import SechatClient.StepSystem

/-!
# Routing of relay frames

`handle_server_event` finds the channel for a `RelayData` frame in the
session map, and the map learns of a channel only after the handshake that
reads from it has returned.  So no relay channel ever receives a frame, no
relay handshake returns a key, and no relay session starts.
-/

namespace SechatClient

open ByteStrings StepSystem

/-- The task waits for relay frames of the peer: it is inside
`establish_relay`, or its relay session is live. -/
def NeedsRelay (P : Primitives) (state : ClientState) (task : ℕ)
    (peerId : KeyType) : Prop :=
  (∃ peer ephPriv, state.attempts task = some ⟨peer, .relaying ephPriv⟩ ∧
      peer.hash P = peerId) ∨
    ∃ session, state.sessions task = some session ∧
      session.transport = .relay ∧ session.loop = .receiving ∧
      session.peer.hash P = peerId

/-- A relay frame is appended to the channel of every task that waits for
frames of its sender. -/
def RelayRouted (P : Primitives) (frames : Codec PeerMessage) (keys : Keys)
    (state : ClientState) (label : ConnectLabel) : Prop :=
  ∀ senderHash payload, label = .relayData senderHash payload →
    ∀ task, NeedsRelay P state task senderHash →
      ∃ next queue queue', connectStep P frames keys state label = some next ∧
        state.channels task = some queue ∧
        next.channels task = some queue' ∧
        queue'.items = queue.items ++ [payload]

/-- No connect attempt is inside `establish_relay` for the sender of a relay
frame. -/
def NoRelayAwaited (P : Primitives) (state : ClientState)
    (label : ConnectLabel) : Prop :=
  ∀ senderHash payload, label = .relayData senderHash payload →
    ∀ task peer ephPriv, state.attempts task = some ⟨peer, .relaying ephPriv⟩ →
      peer.hash P ≠ senderHash

/-! ## No channel is registered -/

/-- The invariant: no entry names a channel, every channel is empty, and no
relay handshake has returned a key. -/
structure RelaysUnregistered (state : ClientState) : Prop where
  entries : ∀ peer entry, state.sessionMap peer = some entry →
    entry.relayIn = none
  queues : ∀ task queue, state.channels task = some queue →
    queue.items = []
  attempts : ∀ task peer, state.attempts task ≠ some ⟨peer, .starting .relay⟩
  sessions : ∀ task session, state.sessions task = some session →
    session.transport ≠ .relay

namespace RelaysUnregistered

variable {state : ClientState}

theorem initial : RelaysUnregistered .initial where
  entries := by simp [ClientState.initial]
  queues := by simp [ClientState.initial]
  attempts := by simp [ClientState.initial]
  sessions := by simp [ClientState.initial]

theorem setPhase (hinv : RelaysUnregistered state) (task : ℕ)
    (peer : PeerPublic) (phase : ConnectPhase)
    (hphase : phase ≠ .starting .relay) :
    RelaysUnregistered (state.setPhase task peer phase) where
  entries := hinv.entries
  queues := hinv.queues
  attempts := by
    intro other peer'
    by_cases hother : other = task
    · subst hother
      simp [ClientState.setPhase, hphase]
    · simpa [ClientState.setPhase, hother] using hinv.attempts other peer'
  sessions := hinv.sessions

theorem setChannel (hinv : RelaysUnregistered state) (task : ℕ)
    {channel : Option RelayChannel}
    (hchannel : ∀ queue, channel = some queue → queue.items = []) :
    RelaysUnregistered (state.setChannel task channel) where
  entries := hinv.entries
  queues := by
    intro other queue hqueue
    by_cases hother : other = task
    · subst hother
      exact hchannel queue (by simpa [ClientState.setChannel] using hqueue)
    · exact hinv.queues other queue
        (by simpa [ClientState.setChannel, hother] using hqueue)
  attempts := hinv.attempts
  sessions := hinv.sessions

theorem setSession (hinv : RelaysUnregistered state) (task : ℕ)
    (session : Session) (hsession : session.transport ≠ .relay) :
    RelaysUnregistered (state.setSession task session) where
  entries := hinv.entries
  queues := hinv.queues
  attempts := hinv.attempts
  sessions := by
    intro other session' hsession'
    by_cases hother : other = task
    · subst hother
      have heq : session = session' := by
        simpa [ClientState.setSession] using hsession'
      rwa [← heq]
    · exact hinv.sessions other session'
        (by simpa [ClientState.setSession, hother] using hsession')

theorem setEntry (hinv : RelaysUnregistered state) (peer : KeyType)
    {entry : Option SessionEntry}
    (hentry : ∀ e, entry = some e → e.relayIn = none) :
    RelaysUnregistered (state.setEntry peer entry) where
  entries := by
    intro other e he
    by_cases hother : other = peer
    · subst hother
      exact hentry e (by simpa [ClientState.setEntry] using he)
    · exact hinv.entries other e
        (by simpa [ClientState.setEntry, hother] using he)
  queues := hinv.queues
  attempts := hinv.attempts
  sessions := hinv.sessions

theorem of_shared {next : ClientState} (hinv : RelaysUnregistered state)
    (hattempts : next.attempts = state.attempts)
    (hsessions : next.sessions = state.sessions)
    (hmap : next.sessionMap = state.sessionMap)
    (hchannels : next.channels = state.channels) :
    RelaysUnregistered next where
  entries := by
    rw [hmap]
    exact hinv.entries
  queues := by
    rw [hchannels]
    exact hinv.queues
  attempts := by
    rw [hattempts]
    exact hinv.attempts
  sessions := by
    rw [hsessions]
    exact hinv.sessions

variable (P : Primitives) (frames : Codec PeerMessage) (keys : Keys)

theorem establishRelay (hinv : RelaysUnregistered state) (task : ℕ)
    (peer : PeerPublic) (ephPriv : KeyType) :
    RelaysUnregistered (establishRelay state task peer ephPriv) :=
  (hinv.setPhase task peer _ (by simp)).setChannel task (by simp)

theorem stopSession (hinv : RelaysUnregistered state) {task : ℕ}
    {session : Session} (hsession : state.sessions task = some session)
    (recv : RecvState) :
    RelaysUnregistered (stopSession state task session recv) :=
  (hinv.setSession task { session with recv := recv, loop := .closed }
    (hinv.sessions task session hsession)).setChannel task (by simp)

theorem endEventTask (hinv : RelaysUnregistered state) {task : ℕ}
    {session : Session} (hsession : state.sessions task = some session) :
    RelaysUnregistered (endEventTask P state task session) :=
  (hinv.setSession task { session with loop := .ended }
    (hinv.sessions task session hsession)).setEntry (session.peer.hash P)
      (by simp)

theorem routeRelayData_eq (hinv : RelaysUnregistered state)
    (senderHash : KeyType) (payload : Bytes) :
    routeRelayData state senderHash payload = some state := by
  have hnone : (state.sessionMap senderHash).bind SessionEntry.relayIn =
      none := by
    cases hentry : state.sessionMap senderHash with
    | none => rfl
    | some entry => exact hinv.entries senderHash entry hentry
  simp [routeRelayData, hnone]

theorem recv_eq_none (hinv : RelaysUnregistered state) (task : ℕ) :
    (state.channels task).bind BoundedQueue.recv = none := by
  cases hchannel : state.channels task with
  | none => rfl
  | some queue =>
      exact BoundedQueue.recv_of_items_eq_nil (hinv.queues task queue hchannel)

theorem relayRecv_disabled (hinv : RelaysUnregistered state) (task : ℕ)
    (now : Int64) :
    connectStep P frames keys state (.relayRecv task now) = none := by
  simp only [connectStep, hinv.recv_eq_none]
  split <;> first | rfl | contradiction

theorem sessionRecv_disabled (hinv : RelaysUnregistered state) (task : ℕ)
    (now : Int64) (evtOpen : Bool) :
    connectStep P frames keys state (.sessionRecv task now evtOpen) = none := by
  simp only [connectStep]
  split
  next hsession _ => exact absurd rfl (hinv.sessions task _ hsession)
  next => rfl

theorem step {label : ConnectLabel} {next : ClientState}
    (hinv : RelaysUnregistered state)
    (hstep : connectStep P frames keys state label = some next) :
    RelaysUnregistered next := by
  cases connectTransition_of_step hstep with
  | spawned peer =>
      exact (hinv.setPhase state.spawned peer .checking
        (by simp)).of_shared rfl rfl rfl rfl
  | looked _ => exact hinv.setPhase _ _ _ (by simp)
  | refused _ _ _ => exact hinv.setPhase _ _ _ (by simp)
  | reserved ephPriv _ _ =>
      exact (hinv.setPhase _ _ (.punching ephPriv)
        (by simp)).of_shared rfl rfl rfl rfl
  | punched _ _ => exact hinv.setPhase _ _ _ (by simp)
  | unpunched _ => exact hinv.establishRelay _ _ _
  | handshaken _ _ =>
      exact (hinv.setPhase _ _ _ (by simp)).setSession _ _ (by simp)
  | unshaken _ => exact hinv.establishRelay _ _ _
  -- a frame can be taken only from a channel, and all of them are empty
  | relaySkipped _ _ _ =>
      rw [hinv.relayRecv_disabled] at hstep
      contradiction
  | relayStarted _ _ _ _ =>
      rw [hinv.relayRecv_disabled] at hstep
      contradiction
  | relayGivenUp _ =>
      exact (hinv.setPhase _ _ _ (by simp)).setChannel _ (by simp)
  | entered hphase =>
      rename_i task peer transport
      have hdirect : transport ≠ .relay := by
        rintro rfl
        exact hinv.attempts task peer hphase
      exact (hinv.setPhase _ _ _ (by simp)).setEntry _ (by simp [hdirect])
  | finished _ =>
      exact (hinv.setPhase _ _ .returned (by simp)).of_shared rfl rfl rfl rfl
  | notRouted _ _ => exact hinv
  | routed senderHash payload _ _ =>
      simp only [connectStep, hinv.routeRelayData_eq, Option.some.injEq]
        at hstep
      rwa [← hstep]
  | received _ _ _ _ _ _ =>
      rw [hinv.sessionRecv_disabled] at hstep
      contradiction
  | closedByFrame _ _ _ _ _ =>
      rw [hinv.sessionRecv_disabled] at hstep
      contradiction
  | stopped hsession _ => exact hinv.stopSession hsession _
  | ended _ _ hsession _ => exact hinv.endEventTask P hsession
  | dropped peer => exact hinv.setEntry peer (by simp)
  | shutdown => exact ⟨by simp, hinv.queues, hinv.attempts, hinv.sessions⟩

end RelaysUnregistered

/-! ## Whole runs -/

section Run

variable (P : Primitives) (frames : Codec PeerMessage) (keys : Keys)

theorem relayRouted_iff_noRelayAwaited
    {state : ClientState} (hinv : RelaysUnregistered state)
    (label : ConnectLabel) :
    RelayRouted P frames keys state label ↔ NoRelayAwaited P state label := by
  constructor
  · intro hrouted senderHash payload hlabel task peer ephPriv hattempt hpeer
    have hneeds : NeedsRelay P state task senderHash :=
      Or.inl ⟨peer, ephPriv, hattempt, hpeer⟩
    obtain ⟨next, queue, queue', hstep, hbefore, hafter, hitems⟩ :=
      hrouted senderHash payload hlabel task hneeds
    subst hlabel
    have hsame : state = next := by
      simpa [connectStep, hinv.routeRelayData_eq] using hstep
    rw [← hsame] at hafter
    rw [hinv.queues task queue' hafter] at hitems
    simp at hitems
  · intro hnone senderHash payload hlabel task hneeds
    rcases hneeds with ⟨peer, ephPriv, hattempt, hpeer⟩ |
      ⟨session, hsession, hrelay, _⟩
    · exact absurd hpeer
        (hnone senderHash payload hlabel task peer ephPriv hattempt)
    · exact absurd hrelay (hinv.sessions task session hsession)

/-- Relay frames reach the attempt that needs them in exactly those runs in
which none arrives while its sender's attempt is inside `establish_relay`,
and in no run does a relay handshake take a frame or return a key. -/
theorem relay_frames_routed_iff (labels : List ConnectLabel) :
    (AllSteps (connectStep P frames keys) (RelayRouted P frames keys)
        .initial labels ↔
      AllSteps (connectStep P frames keys) (NoRelayAwaited P)
        .initial labels) ∧
    ∀ state, runFrom (connectStep P frames keys) .initial labels =
        some state →
      ∀ task, (∀ now, connectStep P frames keys state
          (.relayRecv task now) = none) ∧
        ∀ peer, state.attempts task ≠ some ⟨peer, .starting .relay⟩ := by
  refine ⟨?_, ?_⟩
  · exact allSteps_congr_of_invariant RelaysUnregistered
      (fun state label next hinv _ hstep => hinv.step P frames keys hstep)
      (fun state label hinv =>
        relayRouted_iff_noRelayAwaited P frames keys hinv label)
      RelaysUnregistered.initial labels
  · intro state hrun task
    have hinv : RelaysUnregistered state := runFrom_invariant
      RelaysUnregistered
      (fun state label next hinv hstep => hinv.step P frames keys hstep)
      RelaysUnregistered.initial hrun
    exact ⟨hinv.relayRecv_disabled P frames keys task, hinv.attempts task⟩

end Run

/-! ## A lost Init -/

def relayFallbackRun : List ConnectLabel :=
  [.punchHole (sampleKeys 2).publicPart, .lookup 0,
    .reserve 0 (Vector.replicate 32 5), .punched 0 none]

def relayFallbackState : ClientState where
  spawned := 1
  attempts := Function.update (fun _ => none) 0
    (some ⟨(sampleKeys 2).publicPart, .relaying (Vector.replicate 32 5)⟩)
  sessions := fun _ => none
  sessionMap := fun _ => none
  connecting := {(sampleKeys 2).id .transparent}
  channels := Function.update (fun _ => none) 0 (some .empty)

theorem relayFallbackRun_eq :
    runFrom (connectStep .transparent transparentFrames (sampleKeys 1))
      .initial relayFallbackRun = some relayFallbackState := by
  simp [relayFallbackRun, relayFallbackState, runFrom, connectStep,
    spawnConnect, reserve, establishRelay, ClientState.initial,
    ClientState.setPhase, ClientState.setChannel, Keys.id]

theorem relay_fallback_waits :
    connectStep .transparent transparentFrames (sampleKeys 1)
      relayFallbackState (.relayRecv 0 1000) = none :=
  ((relay_frames_routed_iff .transparent transparentFrames (sampleKeys 1)
    relayFallbackRun).2 relayFallbackState relayFallbackRun_eq 0).1 1000

/-- The attempt waits in `relay_handshake`, the server forwards the peer's
signed fresh `Init`, and the frame is dropped. -/
theorem relayed_init_lost :
    ¬ (∀ labels,
        AllSteps (connectStep .transparent transparentFrames (sampleKeys 1))
          (RelayRouted .transparent transparentFrames (sampleKeys 1))
          .initial labels) ∧
      runFrom (connectStep .transparent transparentFrames (sampleKeys 1))
          .initial (relayFallbackRun ++
            [.relayData ((sampleKeys 2).id .transparent) sampleInit]) =
        some relayFallbackState ∧
      handshakeRecv .transparent transparentFrames (sampleKeys 2).publicPart
          (Vector.replicate 32 5) 1000 sampleInit =
        some (deriveSessionKey .transparent (Vector.replicate 32 5)
          (Vector.replicate 32 9)) := by
  have hroute : connectStep .transparent transparentFrames (sampleKeys 1)
      relayFallbackState
      (.relayData ((sampleKeys 2).id .transparent) sampleInit) =
        some relayFallbackState := rfl
  refine ⟨?_, ?_, sampleInit_accepted⟩
  · intro hall
    have hrouted := (allSteps_append (hall (relayFallbackRun ++
      [.relayData ((sampleKeys 2).id .transparent) sampleInit]))
      relayFallbackRun_eq).1
    have hneeds : NeedsRelay .transparent relayFallbackState 0
        ((sampleKeys 2).id .transparent) :=
      Or.inl ⟨(sampleKeys 2).publicPart, Vector.replicate 32 5, rfl, rfl⟩
    obtain ⟨next, queue, queue', hstep, hbefore, hafter, hitems⟩ :=
      hrouted _ _ rfl 0 hneeds
    rw [hroute] at hstep
    cases hstep
    rw [hbefore, Option.some_inj] at hafter
    simp [hafter] at hitems
  · exact runFrom_append_eq_some.mpr
      ⟨relayFallbackState, relayFallbackRun_eq, by simp [runFrom, hroute]⟩

end SechatClient
