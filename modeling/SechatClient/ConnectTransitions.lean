import SechatClient.ConnectSessions

/-!
# The transitions of the connect tasks

What each step of `connectStep` needs of the state before it and which state
it leaves, as one inductive relation.  Invariants over `connect_session`
tasks and sessions are proved by cases of this relation.
-/

namespace SechatClient

open ByteStrings

namespace ClientState

variable (state : ClientState) (task : ℕ) (peer : PeerPublic)

@[simp] theorem setPhase_attempts (phase : ConnectPhase) :
    (state.setPhase task peer phase).attempts =
      Function.update state.attempts task (some ⟨peer, phase⟩) := rfl

@[simp] theorem setPhase_sessions (phase : ConnectPhase) :
    (state.setPhase task peer phase).sessions = state.sessions := rfl

@[simp] theorem setPhase_sessionMap (phase : ConnectPhase) :
    (state.setPhase task peer phase).sessionMap = state.sessionMap := rfl

@[simp] theorem setPhase_connecting (phase : ConnectPhase) :
    (state.setPhase task peer phase).connecting = state.connecting := rfl

@[simp] theorem setPhase_spawned (phase : ConnectPhase) :
    (state.setPhase task peer phase).spawned = state.spawned := rfl

@[simp] theorem setChannel_attempts (channel : Option RelayChannel) :
    (state.setChannel task channel).attempts = state.attempts := rfl

@[simp] theorem setChannel_sessions (channel : Option RelayChannel) :
    (state.setChannel task channel).sessions = state.sessions := rfl

@[simp] theorem setChannel_sessionMap (channel : Option RelayChannel) :
    (state.setChannel task channel).sessionMap = state.sessionMap := rfl

@[simp] theorem setChannel_connecting (channel : Option RelayChannel) :
    (state.setChannel task channel).connecting = state.connecting := rfl

@[simp] theorem setChannel_spawned (channel : Option RelayChannel) :
    (state.setChannel task channel).spawned = state.spawned := rfl

@[simp] theorem setSession_attempts (session : Session) :
    (state.setSession task session).attempts = state.attempts := rfl

@[simp] theorem setSession_sessions (session : Session) :
    (state.setSession task session).sessions =
      Function.update state.sessions task (some session) := rfl

@[simp] theorem setSession_sessionMap (session : Session) :
    (state.setSession task session).sessionMap = state.sessionMap := rfl

@[simp] theorem setSession_connecting (session : Session) :
    (state.setSession task session).connecting = state.connecting := rfl

@[simp] theorem setSession_spawned (session : Session) :
    (state.setSession task session).spawned = state.spawned := rfl

@[simp] theorem setEntry_attempts (hash : KeyType)
    (entry : Option SessionEntry) :
    (state.setEntry hash entry).attempts = state.attempts := rfl

@[simp] theorem setEntry_sessions (hash : KeyType)
    (entry : Option SessionEntry) :
    (state.setEntry hash entry).sessions = state.sessions := rfl

@[simp] theorem setEntry_sessionMap (hash : KeyType)
    (entry : Option SessionEntry) :
    (state.setEntry hash entry).sessionMap =
      Function.update state.sessionMap hash entry := rfl

@[simp] theorem setEntry_connecting (hash : KeyType)
    (entry : Option SessionEntry) :
    (state.setEntry hash entry).connecting = state.connecting := rfl

@[simp] theorem setEntry_spawned (hash : KeyType)
    (entry : Option SessionEntry) :
    (state.setEntry hash entry).spawned = state.spawned := rfl

end ClientState

/-! ## Tasks not yet spawned -/

section Spawned

variable {spawned : ℕ} {attempts : ℕ → Option Attempt}

theorem lt_spawned_of_attempt
    (hunspawned : ∀ task, spawned ≤ task → attempts task = none)
    {task : ℕ} {attempt : Attempt} (hattempt : attempts task = some attempt) :
    task < spawned := by
  by_contra hle
  rw [hunspawned task (by omega)] at hattempt
  contradiction

theorem unspawned_move
    (hunspawned : ∀ task, spawned ≤ task → attempts task = none)
    {task : ℕ} {attempt : Attempt} (hattempt : attempts task = some attempt)
    (after : Option Attempt) (other : ℕ) (hother : spawned ≤ other) :
    Function.update attempts task after other = none := by
  have hlt := lt_spawned_of_attempt hunspawned hattempt
  rw [Function.update_of_ne (by omega)]
  exact hunspawned other hother

theorem unspawned_spawn
    (hunspawned : ∀ task, spawned ≤ task → attempts task = none)
    (attempt : Option Attempt) (other : ℕ) (hother : spawned + 1 ≤ other) :
    Function.update attempts spawned attempt other = none := by
  rw [Function.update_of_ne (by omega)]
  exact hunspawned other (by omega)

end Spawned

/-! ## The transitions -/

/-- The ephemeral secret a connect attempt holds before its session starts. -/
def ConnectPhase.ephemeral : ConnectPhase → Option KeyType
  | .punching ephPriv => some ephPriv
  | .handshaking ephPriv _ => some ephPriv
  | .relaying ephPriv => some ephPriv
  | _ => none

/-- One step of the connect tasks, with the label it is taken under. -/
inductive ConnectTransition (P : Primitives) (keys : Keys)
    (state : ClientState) : ConnectLabel → ClientState → Prop
  | spawned (peer : PeerPublic) :
      ConnectTransition P keys state (.punchHole peer)
        (spawnConnect state peer)
  | looked {task : ℕ} {peer : PeerPublic}
      (hphase : state.attempts task = some ⟨peer, .checking⟩) :
      ConnectTransition P keys state (.lookup task)
        (state.setPhase task peer
          (.reserving (state.sessionMap (peer.hash P)).isSome))
  | refused {task : ℕ} {peer : PeerPublic} {live : Bool} (ephPriv : KeyType)
      (hphase : state.attempts task = some ⟨peer, .reserving live⟩)
      (hbusy : live = true ∨ peer.hash P ∈ state.connecting) :
      ConnectTransition P keys state (.reserve task ephPriv)
        (state.setPhase task peer .returned)
  | reserved {task : ℕ} {peer : PeerPublic} (ephPriv : KeyType)
      (hphase : state.attempts task = some ⟨peer, .reserving false⟩)
      (hfree : peer.hash P ∉ state.connecting) :
      ConnectTransition P keys state (.reserve task ephPriv)
        { state.setPhase task peer (.punching ephPriv) with
          connecting := insert (peer.hash P) state.connecting }
  | punched {task : ℕ} {peer : PeerPublic} {ephPriv : KeyType}
      (remote : SocketAddr)
      (hphase : state.attempts task = some ⟨peer, .punching ephPriv⟩) :
      ConnectTransition P keys state (.punched task (some remote))
        (state.setPhase task peer (.handshaking ephPriv remote))
  | unpunched {task : ℕ} {peer : PeerPublic} {ephPriv : KeyType}
      (hphase : state.attempts task = some ⟨peer, .punching ephPriv⟩) :
      ConnectTransition P keys state (.punched task none)
        (establishRelay state task peer ephPriv)
  | handshaken {task : ℕ} {peer : PeerPublic} {ephPriv : KeyType}
      {remote : SocketAddr} (key : KeyType)
      (hphase : state.attempts task =
        some ⟨peer, .handshaking ephPriv remote⟩) :
      ConnectTransition P keys state (.handshaken task (some key))
        (startSession P keys state task peer key (.direct remote))
  | unshaken {task : ℕ} {peer : PeerPublic} {ephPriv : KeyType}
      {remote : SocketAddr}
      (hphase : state.attempts task =
        some ⟨peer, .handshaking ephPriv remote⟩) :
      ConnectTransition P keys state (.handshaken task none)
        (establishRelay state task peer ephPriv)
  | relaySkipped {task : ℕ} {peer : PeerPublic} {ephPriv : KeyType}
      (now : Int64) (rest : RelayChannel)
      (hphase : state.attempts task = some ⟨peer, .relaying ephPriv⟩) :
      ConnectTransition P keys state (.relayRecv task now)
        (state.setChannel task (some rest))
  | relayStarted {task : ℕ} {peer : PeerPublic} {ephPriv : KeyType}
      (now : Int64) (rest : RelayChannel) (key : KeyType)
      (hphase : state.attempts task = some ⟨peer, .relaying ephPriv⟩) :
      ConnectTransition P keys state (.relayRecv task now)
        (startSession P keys (state.setChannel task (some rest)) task peer
          key .relay)
  | relayGivenUp {task : ℕ} {peer : PeerPublic} {ephPriv : KeyType}
      (hphase : state.attempts task = some ⟨peer, .relaying ephPriv⟩) :
      ConnectTransition P keys state (.relayDeadline task)
        ((state.setPhase task peer .failed).setChannel task none)
  | entered {task : ℕ} {peer : PeerPublic} {transport : SessionTransport}
      (hphase : state.attempts task = some ⟨peer, .starting transport⟩) :
      ConnectTransition P keys state (.insert task)
        (insertEntry P state task peer transport)
  | finished {task : ℕ} {peer : PeerPublic}
      (hphase : state.attempts task = some ⟨peer, .inserted⟩ ∨
        state.attempts task = some ⟨peer, .failed⟩) :
      ConnectTransition P keys state (.finish task)
        (finishConnect P state task peer)
  | notRouted (senderHash : KeyType) (payload : Bytes) :
      ConnectTransition P keys state (.relayData senderHash payload) state
  | routed (senderHash : KeyType) (payload : Bytes) (task : ℕ)
      (queue : RelayChannel) :
      ConnectTransition P keys state (.relayData senderHash payload)
        (state.setChannel task (some queue))
  | received {task : ℕ} {session : Session} (now : Int64) (evtOpen : Bool)
      (recv : RecvState) (rest : RelayChannel)
      (hsession : state.sessions task = some session)
      (hloop : session.loop = .receiving) :
      ConnectTransition P keys state (.sessionRecv task now evtOpen)
        ((state.setSession task { session with recv := recv }).setChannel
          task (some rest))
  | closedByFrame {task : ℕ} {session : Session} (now : Int64)
      (evtOpen : Bool) (recv : RecvState)
      (hsession : state.sessions task = some session)
      (hloop : session.loop = .receiving) :
      ConnectTransition P keys state (.sessionRecv task now evtOpen)
        (stopSession state task session recv)
  | stopped {task : ℕ} {session : Session}
      (hsession : state.sessions task = some session)
      (hloop : session.loop = .receiving) :
      ConnectTransition P keys state (.sessionStops task)
        (stopSession state task session session.recv)
  | ended {task : ℕ} {session : Session} {attempt : Attempt}
      (hattempt : state.attempts task = some attempt)
      (hphase : attempt.phase = .inserted ∨ attempt.phase = .returned)
      (hsession : state.sessions task = some session)
      (hloop : session.loop = .closed) :
      ConnectTransition P keys state (.eventTaskEnds task)
        (endEventTask P state task session)
  | dropped (peer : KeyType) :
      ConnectTransition P keys state (.dropSession peer)
        (state.setEntry peer none)
  | shutdown :
      ConnectTransition P keys state .shutdown
        { state with sessionMap := fun _ => none }

section Inversion

variable {P : Primitives} {frames : Codec PeerMessage} {keys : Keys}
  {state next : ClientState}

theorem routeRelayData_transition
    {senderHash : KeyType} {payload : Bytes}
    (hroute : routeRelayData state senderHash payload = some next) :
    ConnectTransition P keys state (.relayData senderHash payload) next := by
  unfold routeRelayData at hroute
  split at hroute
  next =>
    cases hroute
    exact .notRouted senderHash payload
  next task _ =>
    split at hroute
    next =>
      cases hroute
      exact .notRouted senderHash payload
    next queue _ =>
      obtain ⟨sent, _, rfl⟩ := Option.map_eq_some_iff.mp hroute
      exact .routed senderHash payload task sent

/-- Every step is one of the transitions. -/
theorem connectTransition_of_step
    {label : ConnectLabel}
    (hstep : connectStep P frames keys state label = some next) :
    ConnectTransition P keys state label next := by
  cases label with
  | punchHole peer =>
      cases hstep
      exact .spawned peer
  | lookup task =>
      simp only [connectStep] at hstep
      split at hstep
      next peer hphase =>
        cases hstep
        exact .looked hphase
      next => contradiction
  | reserve task ephPriv =>
      simp only [connectStep] at hstep
      split at hstep
      next peer live hphase =>
        cases hstep
        unfold reserve
        split
        next hbusy => exact .refused ephPriv hphase hbusy
        next hbusy =>
          rw [not_or] at hbusy
          have hlive : live = false := by simpa using hbusy.1
          subst hlive
          exact .reserved ephPriv hphase hbusy.2
      next => contradiction
  | punched task remote =>
      simp only [connectStep] at hstep
      split at hstep
      next peer ephPriv remote hphase =>
        cases hstep
        exact .punched remote hphase
      next peer ephPriv hphase =>
        cases hstep
        exact .unpunched hphase
      next => contradiction
  | handshaken task key =>
      simp only [connectStep] at hstep
      split at hstep
      next peer ephPriv remote key hphase =>
        cases hstep
        exact .handshaken key hphase
      next peer ephPriv remote hphase =>
        cases hstep
        exact .unshaken hphase
      next => contradiction
  | relayRecv task now =>
      simp only [connectStep] at hstep
      split at hstep
      next peer ephPriv bytes rest hphase _ =>
        cases hstep
        unfold relayHandshakeRecv
        split
        next => exact .relaySkipped now rest hphase
        next key _ => exact .relayStarted now rest key hphase
      next => contradiction
  | relayDeadline task =>
      simp only [connectStep] at hstep
      split at hstep
      next peer ephPriv hphase =>
        cases hstep
        exact .relayGivenUp hphase
      next => contradiction
  | insert task =>
      simp only [connectStep] at hstep
      split at hstep
      next peer transport hphase =>
        cases hstep
        exact .entered hphase
      next => contradiction
  | finish task =>
      simp only [connectStep] at hstep
      split at hstep
      next peer hphase =>
        cases hstep
        exact .finished (Or.inl hphase)
      next peer hphase =>
        cases hstep
        exact .finished (Or.inr hphase)
      next => contradiction
  | relayData senderHash payload => exact routeRelayData_transition hstep
  | sessionRecv task now evtOpen =>
      simp only [connectStep] at hstep
      split at hstep
      next peer receiver recv bytes rest hsession _ =>
        cases hstep
        unfold relaySessionRecv
        split
        next after _ => exact .received now evtOpen after rest hsession rfl
        next after _ => exact .closedByFrame now evtOpen after hsession rfl
      next => contradiction
  | sessionStops task =>
      simp only [connectStep] at hstep
      split at hstep
      next peer transport receiver recv hsession =>
        cases hstep
        exact .stopped hsession rfl
      next => contradiction
  | eventTaskEnds task =>
      simp only [connectStep] at hstep
      split at hstep
      next hattempt hsession =>
        cases hstep
        exact .ended hattempt (Or.inl rfl) hsession rfl
      next hattempt hsession =>
        cases hstep
        exact .ended hattempt (Or.inr rfl) hsession rfl
      next => contradiction
  | dropSession peer =>
      cases hstep
      exact .dropped peer
  | shutdown =>
      cases hstep
      exact .shutdown

end Inversion

end SechatClient
