import SechatClient.ConnectTransitions
import SechatClient.StepSystem

/-!
# Teardown of sessions

When a session's event task ends it removes the `SessionMap` entry of its
peer, whichever session put it there.  A command can drop an entry while the
receive loop of its session goes on, and the peer can connect again in the
meantime.  The end of the old event task then removes the entry of the new
session.  This cannot happen as long as a session enters the map only while
no other event task of the peer is running.
-/

namespace SechatClient

open StepSystem

section Conditions

variable (P : Primitives)

/-- The event task of a session is spawned behind its insert and runs until
its receive loop has closed. -/
def EventTaskRunning (state : ClientState) (task : ℕ) (session : Session) :
    Prop :=
  (∃ attempt, state.attempts task = some attempt ∧
      (attempt.phase = .inserted ∨ attempt.phase = .returned)) ∧
    state.sessions task = some session ∧ session.loop ≠ .ended

/-- The entry which the end of an event task removes is its own. -/
def RemovesOwnEntry (state : ClientState) (label : ConnectLabel) : Prop :=
  ∀ task session entry, label = .eventTaskEnds task →
    EventTaskRunning state task session →
    state.sessionMap (session.peer.hash P) = some entry →
    entry.outbound = task

/-- A session enters the map while no event task of its peer is running. -/
def InsertsAlone (state : ClientState) (label : ConnectLabel) : Prop :=
  ∀ task peer transport, label = .insert task →
    state.attempts task = some ⟨peer, .starting transport⟩ →
    ∀ other session, EventTaskRunning state other session →
      session.peer.hash P ≠ peer.hash P

end Conditions

/-! ## Sessions belong to their attempts -/

/-- A phase in which the attempt may have a session. -/
def ConnectPhase.hasSession : ConnectPhase → Bool
  | .starting _ => true
  | .inserted => true
  | .returned => true
  | _ => false

structure SessionsOwned (state : ClientState) : Prop where
  unspawned : ∀ task, state.spawned ≤ task → state.attempts task = none
  owner : ∀ task session, state.sessions task = some session →
    ∃ phase, state.attempts task = some ⟨session.peer, phase⟩ ∧
      phase.hasSession = true

namespace SessionsOwned

variable {state : ClientState}

theorem initial : SessionsOwned .initial where
  unspawned := by simp [ClientState.initial]
  owner := by simp [ClientState.initial]

theorem lt_spawned (howned : SessionsOwned state) {task : ℕ}
    {attempt : Attempt} (hattempt : state.attempts task = some attempt) :
    task < state.spawned :=
  lt_spawned_of_attempt howned.unspawned hattempt

theorem session_eq_none (howned : SessionsOwned state) {task : ℕ}
    {peer : PeerPublic} {phase : ConnectPhase}
    (hphase : state.attempts task = some ⟨peer, phase⟩)
    (hearly : phase.hasSession = false) : state.sessions task = none := by
  by_contra hsome
  obtain ⟨session, hsession⟩ := Option.ne_none_iff_exists'.mp hsome
  obtain ⟨other, hother, hlate⟩ := howned.owner task session hsession
  rw [hphase] at hother
  cases hother
  rw [hearly] at hlate
  contradiction

/-- One attempt moves; it may only have a session in a phase for it. -/
theorem move (howned : SessionsOwned state) {next : ClientState} {task : ℕ}
    {peer : PeerPublic} {before after : ConnectPhase}
    (hphase : state.attempts task = some ⟨peer, before⟩)
    (hspawned : next.spawned = state.spawned)
    (hattempts : next.attempts =
      Function.update state.attempts task (some ⟨peer, after⟩))
    (hothers : ∀ other, other ≠ task →
      next.sessions other = state.sessions other)
    (hself : ∀ session, next.sessions task = some session →
      session.peer = peer ∧ after.hasSession = true) :
    SessionsOwned next where
  unspawned := by
    rw [hspawned, hattempts]
    exact unspawned_move howned.unspawned hphase _
  owner := by
    intro other session hsession
    rw [hattempts]
    by_cases htask : other = task
    · subst htask
      obtain ⟨hpeer, hlate⟩ := hself session hsession
      exact ⟨after, by rw [Function.update_self, hpeer], hlate⟩
    · rw [hothers other htask] at hsession
      rw [Function.update_of_ne htask]
      exact howned.owner other session hsession

/-- The receive loop or the event task of a session moves. -/
theorem setSession (howned : SessionsOwned state) {next : ClientState}
    {task : ℕ} {session after : Session}
    (hsession : state.sessions task = some session)
    (hspawned : next.spawned = state.spawned)
    (hattempts : next.attempts = state.attempts)
    (hsessions : next.sessions =
      Function.update state.sessions task (some after))
    (hpeer : after.peer = session.peer) : SessionsOwned next where
  unspawned := by
    rw [hspawned, hattempts]
    exact howned.unspawned
  owner := by
    intro other found hfound
    rw [hattempts]
    rw [hsessions] at hfound
    rcases update_eq_some hfound with ⟨rfl, rfl⟩ | ⟨htask, hfound⟩
    · rw [hpeer]
      exact howned.owner other session hsession
    · exact howned.owner other found hfound

theorem spawn (howned : SessionsOwned state) (peer : PeerPublic) :
    SessionsOwned (spawnConnect state peer) where
  unspawned := unspawned_spawn howned.unspawned _
  owner := by
    intro task session hsession
    obtain ⟨phase, hphase, hlate⟩ := howned.owner task session hsession
    have hlt := howned.lt_spawned hphase
    simp only [spawnConnect, ClientState.setPhase_attempts]
    rw [Function.update_of_ne (by omega)]
    exact ⟨phase, hphase, hlate⟩

/-- An attempt without a session moves on without starting one. -/
theorem early (howned : SessionsOwned state) {next : ClientState} {task : ℕ}
    {peer : PeerPublic} {before after : ConnectPhase}
    (hphase : state.attempts task = some ⟨peer, before⟩)
    (hearly : before.hasSession = false)
    (hspawned : next.spawned = state.spawned)
    (hattempts : next.attempts =
      Function.update state.attempts task (some ⟨peer, after⟩))
    (hsessions : next.sessions = state.sessions) : SessionsOwned next := by
  refine howned.move hphase hspawned hattempts
    (fun other _ => congrFun hsessions other) ?_
  intro session hsession
  rw [hsessions, howned.session_eq_none hphase hearly] at hsession
  contradiction

/-- An attempt starts its session. -/
theorem start (howned : SessionsOwned state) {next : ClientState} {task : ℕ}
    {peer : PeerPublic} {before : ConnectPhase} {session : Session}
    {transport : SessionTransport}
    (hphase : state.attempts task = some ⟨peer, before⟩)
    (hspawned : next.spawned = state.spawned)
    (hattempts : next.attempts = Function.update state.attempts task
      (some ⟨peer, .starting transport⟩))
    (hsessions : next.sessions =
      Function.update state.sessions task (some session))
    (hpeer : session.peer = peer) : SessionsOwned next := by
  refine howned.move hphase hspawned hattempts ?_ ?_
  · intro other hother
    rw [hsessions, Function.update_of_ne hother]
  · intro found hfound
    rw [hsessions, Function.update_self] at hfound
    cases hfound
    exact ⟨hpeer, rfl⟩

/-- An attempt with a session moves on to another phase for it. -/
theorem late (howned : SessionsOwned state) {next : ClientState} {task : ℕ}
    {peer : PeerPublic} {before after : ConnectPhase}
    (hphase : state.attempts task = some ⟨peer, before⟩)
    (hlate : after.hasSession = true)
    (hspawned : next.spawned = state.spawned)
    (hattempts : next.attempts =
      Function.update state.attempts task (some ⟨peer, after⟩))
    (hsessions : next.sessions = state.sessions) : SessionsOwned next := by
  refine howned.move hphase hspawned hattempts
    (fun other _ => congrFun hsessions other) ?_
  intro session hsession
  rw [hsessions] at hsession
  obtain ⟨phase, howner, _⟩ := howned.owner task session hsession
  rw [hphase] at howner
  cases howner
  exact ⟨rfl, hlate⟩

theorem of_same (howned : SessionsOwned state) {next : ClientState}
    (hspawned : next.spawned = state.spawned)
    (hattempts : next.attempts = state.attempts)
    (hsessions : next.sessions = state.sessions) : SessionsOwned next where
  unspawned := by
    rw [hspawned, hattempts]
    exact howned.unspawned
  owner := by
    rw [hsessions, hattempts]
    exact howned.owner

variable {P : Primitives} {keys : Keys}

theorem of_transition
    {next : ClientState} {label : ConnectLabel} (howned : SessionsOwned state)
    (htransition : ConnectTransition P keys state label next) :
    SessionsOwned next := by
  cases htransition with
  | spawned peer => exact howned.spawn peer
  | looked hphase => exact howned.early hphase rfl rfl rfl rfl
  | refused ephPriv hphase hbusy => exact howned.early hphase rfl rfl rfl rfl
  | reserved ephPriv hphase hfree => exact howned.early hphase rfl rfl rfl rfl
  | punched remote hphase => exact howned.early hphase rfl rfl rfl rfl
  | unpunched hphase => exact howned.early hphase rfl rfl rfl rfl
  | handshaken key hphase => exact howned.start hphase rfl rfl rfl rfl
  | unshaken hphase => exact howned.early hphase rfl rfl rfl rfl
  | relaySkipped now rest hphase => exact howned.of_same rfl rfl rfl
  | relayStarted now rest key hphase =>
      exact howned.start hphase rfl rfl rfl rfl
  | relayGivenUp hphase => exact howned.early hphase rfl rfl rfl rfl
  | entered hphase => exact howned.late hphase rfl rfl rfl rfl
  | finished hphase =>
      rcases hphase with hphase | hphase <;>
        exact howned.late hphase rfl rfl rfl rfl
  | notRouted senderHash payload => exact howned
  | routed senderHash payload task queue => exact howned.of_same rfl rfl rfl
  | received now evtOpen recv rest hsession hloop =>
      exact howned.setSession hsession rfl rfl rfl rfl
  | closedByFrame now evtOpen recv hsession hloop =>
      exact howned.setSession hsession rfl rfl rfl rfl
  | stopped hsession hloop =>
      exact howned.setSession hsession rfl rfl rfl rfl
  | ended hattempt hphase hsession hloop =>
      exact howned.setSession hsession rfl rfl rfl rfl
  | dropped peer => exact howned.of_same rfl rfl rfl
  | shutdown => exact howned.of_same rfl rfl rfl

end SessionsOwned

/-! ## Entries belong to running event tasks -/

/-- An event task that is running finds its own entry or none. -/
def EntriesOwned (P : Primitives) (state : ClientState) : Prop :=
  ∀ task session entry, EventTaskRunning state task session →
    state.sessionMap (session.peer.hash P) = some entry →
    entry.outbound = task

namespace EntriesOwned

variable {P : Primitives} {keys : Keys} {state next : ClientState}

theorem entry_of_update_none
    {map : KeyType → Option SessionEntry} {hash other : KeyType}
    {entry : SessionEntry}
    (hentry : Function.update map hash none other = some entry) :
    map other = some entry := by
  by_cases hother : other = hash
  · subst hother
    rw [Function.update_self] at hentry
    contradiction
  · rwa [Function.update_of_ne hother] at hentry

theorem initial : EntriesOwned P .initial := by
  intro task session entry _ hentry
  simp [ClientState.initial] at hentry

/-- A step that neither spawns an event task nor adds an entry. -/
theorem mono (hentries : EntriesOwned P state)
    (hrunning : ∀ task session, EventTaskRunning next task session →
      ∃ before, EventTaskRunning state task before ∧
        before.peer = session.peer)
    (hmap : ∀ hash entry, next.sessionMap hash = some entry →
      state.sessionMap hash = some entry) : EntriesOwned P next := by
  intro task session entry htask hentry
  obtain ⟨before, hbefore, hpeer⟩ := hrunning task session htask
  refine hentries task before entry hbefore ?_
  rw [hpeer]
  exact hmap _ _ hentry

/-- One attempt moves which has no session, or whose event task is spawned
already. -/
theorem move (hentries : EntriesOwned P state) (howned : SessionsOwned state)
    {task : ℕ} {peer : PeerPublic} {before after : ConnectPhase}
    (hphase : state.attempts task = some ⟨peer, before⟩)
    (hbefore : before.hasSession = false ∨ before = .inserted)
    (hattempts : next.attempts =
      Function.update state.attempts task (some ⟨peer, after⟩))
    (hsessions : next.sessions = state.sessions)
    (hmap : next.sessionMap = state.sessionMap) : EntriesOwned P next := by
  refine hentries.mono ?_ (fun hash entry hentry => hmap ▸ hentry)
  rintro other session ⟨⟨attempt, hattempt, hspawned⟩, hsession, hloop⟩
  rw [hsessions] at hsession
  refine ⟨session, ⟨?_, hsession, hloop⟩, rfl⟩
  by_cases hother : other = task
  · subst hother
    rcases hbefore with hearly | rfl
    · rw [howned.session_eq_none hphase hearly] at hsession
      contradiction
    · exact ⟨_, hphase, Or.inl rfl⟩
  · rw [hattempts, Function.update_of_ne hother] at hattempt
    exact ⟨attempt, hattempt, hspawned⟩

theorem start (hentries : EntriesOwned P state) {task : ℕ}
    {peer : PeerPublic} {session : Session} {transport : SessionTransport}
    (hattempts : next.attempts = Function.update state.attempts task
      (some ⟨peer, .starting transport⟩))
    (hsessions : next.sessions =
      Function.update state.sessions task (some session))
    (hmap : next.sessionMap = state.sessionMap) : EntriesOwned P next := by
  refine hentries.mono ?_ (fun hash entry hentry => hmap ▸ hentry)
  rintro other found ⟨⟨attempt, hattempt, hspawned⟩, hfound, hloop⟩
  by_cases hother : other = task
  · subst hother
    rw [hattempts, Function.update_self] at hattempt
    cases hattempt
    simp at hspawned
  · rw [hattempts, Function.update_of_ne hother] at hattempt
    rw [hsessions, Function.update_of_ne hother] at hfound
    exact ⟨found, ⟨⟨attempt, hattempt, hspawned⟩, hfound, hloop⟩, rfl⟩

/-- A session that has not ended moves; entries may go away. -/
theorem setSession (hentries : EntriesOwned P state) {task : ℕ}
    {session after : Session} (hsession : state.sessions task = some session)
    (hloop : session.loop ≠ .ended)
    (hattempts : next.attempts = state.attempts)
    (hsessions : next.sessions =
      Function.update state.sessions task (some after))
    (hpeer : after.peer = session.peer)
    (hmap : ∀ hash entry, next.sessionMap hash = some entry →
      state.sessionMap hash = some entry) : EntriesOwned P next := by
  refine hentries.mono ?_ hmap
  rintro other found ⟨hspawned, hfound, hrunning⟩
  rw [hattempts] at hspawned
  by_cases hother : other = task
  · subst hother
    rw [hsessions, Function.update_self] at hfound
    cases hfound
    exact ⟨session, ⟨hspawned, hsession, hloop⟩, hpeer.symm⟩
  · rw [hsessions, Function.update_of_ne hother] at hfound
    exact ⟨found, ⟨hspawned, hfound, hrunning⟩, rfl⟩

theorem of_same (hentries : EntriesOwned P state)
    (hattempts : next.attempts = state.attempts)
    (hsessions : next.sessions = state.sessions)
    (hmap : ∀ hash entry, next.sessionMap hash = some entry →
      state.sessionMap hash = some entry) : EntriesOwned P next := by
  refine hentries.mono ?_ hmap
  rintro task session ⟨hspawned, hsession, hloop⟩
  rw [hattempts] at hspawned
  rw [hsessions] at hsession
  exact ⟨session, ⟨hspawned, hsession, hloop⟩, rfl⟩

/-- The insert of a session: its own event task is spawned, and no other one
of the peer is running. -/
theorem insert (hentries : EntriesOwned P state)
    (howned : SessionsOwned state) {task : ℕ} {peer : PeerPublic}
    {transport : SessionTransport}
    (hphase : state.attempts task = some ⟨peer, .starting transport⟩)
    (halone : InsertsAlone P state (.insert task)) :
    EntriesOwned P (insertEntry P state task peer transport) := by
  rintro other session entry ⟨⟨attempt, hattempt, hspawned⟩, hsession, hloop⟩
    hentry
  simp only [insertEntry, ClientState.setEntry_sessionMap,
    ClientState.setEntry_attempts, ClientState.setPhase_attempts,
    ClientState.setPhase_sessionMap, ClientState.setEntry_sessions,
    ClientState.setPhase_sessions] at hattempt hsession hentry
  by_cases hother : other = task
  · subst hother
    obtain ⟨phase, howner, _⟩ := howned.owner other session hsession
    rw [hphase] at howner
    cases howner
    rw [Function.update_self] at hentry
    cases hentry
    rfl
  · rw [Function.update_of_ne hother] at hattempt
    have hrunning : EventTaskRunning state other session :=
      ⟨⟨attempt, hattempt, hspawned⟩, hsession, hloop⟩
    have hne := halone task peer transport rfl hphase other session hrunning
    rw [Function.update_of_ne hne] at hentry
    exact hentries other session entry hrunning hentry

theorem of_transition
    {label : ConnectLabel} (hentries : EntriesOwned P state)
    (howned : SessionsOwned state) (halone : InsertsAlone P state label)
    (htransition : ConnectTransition P keys state label next) :
    EntriesOwned P next := by
  have hkept : ∀ hash entry, state.sessionMap hash = some entry →
      state.sessionMap hash = some entry := fun _ _ hentry => hentry
  cases htransition with
  | spawned peer =>
      refine hentries.mono ?_ hkept
      rintro task session ⟨⟨attempt, hattempt, hspawned⟩, hsession, hloop⟩
      simp only [spawnConnect, ClientState.setPhase_attempts] at hattempt
      rcases update_eq_some hattempt with ⟨rfl, rfl⟩ | ⟨htask, hattempt⟩
      · simp at hspawned
      · exact ⟨session, ⟨⟨attempt, hattempt, hspawned⟩, hsession, hloop⟩, rfl⟩
  | looked hphase =>
      exact hentries.move howned hphase (Or.inl rfl) rfl rfl rfl
  | refused ephPriv hphase hbusy =>
      exact hentries.move howned hphase (Or.inl rfl) rfl rfl rfl
  | reserved ephPriv hphase hfree =>
      exact hentries.move howned hphase (Or.inl rfl) rfl rfl rfl
  | punched remote hphase =>
      exact hentries.move howned hphase (Or.inl rfl) rfl rfl rfl
  | unpunched hphase =>
      exact hentries.move howned hphase (Or.inl rfl) rfl rfl rfl
  | handshaken key hphase => exact hentries.start rfl rfl rfl
  | unshaken hphase =>
      exact hentries.move howned hphase (Or.inl rfl) rfl rfl rfl
  | relaySkipped now rest hphase => exact hentries.of_same rfl rfl hkept
  | relayStarted now rest key hphase => exact hentries.start rfl rfl rfl
  | relayGivenUp hphase =>
      exact hentries.move howned hphase (Or.inl rfl) rfl rfl rfl
  | entered hphase => exact hentries.insert howned hphase halone
  | finished hphase =>
      rcases hphase with hphase | hphase
      · exact hentries.move howned hphase (Or.inr rfl) rfl rfl rfl
      · exact hentries.move howned hphase (Or.inl rfl) rfl rfl rfl
  | notRouted senderHash payload => exact hentries
  | routed senderHash payload task queue =>
      exact hentries.of_same rfl rfl hkept
  | received now evtOpen recv rest hsession hloop =>
      exact hentries.setSession hsession (by simp [hloop]) rfl rfl rfl hkept
  | closedByFrame now evtOpen recv hsession hloop =>
      exact hentries.setSession hsession (by simp [hloop]) rfl rfl rfl hkept
  | stopped hsession hloop =>
      exact hentries.setSession hsession (by simp [hloop]) rfl rfl rfl hkept
  | ended hattempt hphase hsession hloop =>
      refine hentries.setSession hsession (by simp [hloop]) rfl rfl rfl ?_
      intro hash entry hentry
      simp only [endEventTask, ClientState.setEntry_sessionMap,
        ClientState.setSession_sessionMap] at hentry
      exact entry_of_update_none hentry
  | dropped peer =>
      refine hentries.of_same rfl rfl ?_
      intro hash entry hentry
      exact entry_of_update_none hentry
  | shutdown =>
      refine hentries.of_same rfl rfl ?_
      intro hash entry hentry
      simp at hentry

end EntriesOwned

/-! ## Runs -/

section Runs

variable (P : Primitives) (frames : Codec PeerMessage) (keys : Keys)

theorem teardown_of_insertsAlone
    {labels : List ConnectLabel}
    (halone : AllSteps (connectStep P frames keys) (InsertsAlone P) .initial
      labels) :
    AllSteps (connectStep P frames keys) (RemovesOwnEntry P) .initial
      labels := by
  refine allSteps_imp_of_invariant
    (fun state => SessionsOwned state ∧ EntriesOwned P state) ?_ ?_
    ⟨SessionsOwned.initial, EntriesOwned.initial⟩ halone
  · rintro state label next ⟨howned, hentries⟩ hinsert hstep
    have htransition := connectTransition_of_step hstep
    exact ⟨howned.of_transition htransition,
      hentries.of_transition howned hinsert htransition⟩
  · rintro state label ⟨_, hentries⟩ _ task session entry _ hrunning hentry
    exact hentries task session entry hrunning hentry

variable {P frames keys} {state : ClientState}

variable (P frames keys) in
theorem connectStep_sessionStops
    {task : ℕ} {session : Session}
    (hsession : state.sessions task = some session)
    (hloop : session.loop = .receiving) :
    connectStep P frames keys state (.sessionStops task) =
      some (stopSession state task session session.recv) := by
  obtain ⟨peer, transport, receiver, recv, loop⟩ := session
  subst hloop
  simp only [connectStep, hsession]

variable (P frames keys) in
theorem connectStep_eventTaskEnds
    {task : ℕ} {session : Session} (hrunning :
      EventTaskRunning state task session) (hloop : session.loop = .closed) :
    connectStep P frames keys state (.eventTaskEnds task) =
      some (endEventTask P state task session) := by
  obtain ⟨⟨⟨owner, phase⟩, hattempt, hspawned⟩, hsession, _⟩ := hrunning
  obtain ⟨peer, transport, receiver, recv, loop⟩ := session
  subst hloop
  rcases hspawned with rfl | rfl <;>
    simp only [connectStep, hattempt, hsession]

/-- A run that goes on from the state removes a foreign entry. -/
def ForeignRemovalAhead (P : Primitives) (frames : Codec PeerMessage)
    (keys : Keys) (state : ClientState) : Prop :=
  ∃ rest final, runFrom (connectStep P frames keys) state rest =
      some final ∧
    ¬ AllSteps (connectStep P frames keys) (RemovesOwnEntry P) state rest

theorem ForeignRemovalAhead.cons
    {next : ClientState} {label : ConnectLabel}
    (hahead : ForeignRemovalAhead P frames keys next)
    (hstep : connectStep P frames keys state label = some next) :
    ForeignRemovalAhead P frames keys state := by
  obtain ⟨rest, final, hrun, hforeign⟩ := hahead
  refine ⟨label :: rest, final,
    runFrom_cons_eq_some.mpr ⟨next, hstep, hrun⟩, ?_⟩
  intro hall
  exact hforeign (hall.2 next hstep)

variable (frames keys) in
/-- A running event task that finds another session's entry can end now or
once its receive loop has stopped. -/
theorem foreignRemovalAhead_of_running
    {task : ℕ} {session : Session} {entry : SessionEntry}
    (hrunning : EventTaskRunning state task session)
    (hentry : state.sessionMap (session.peer.hash P) = some entry)
    (hforeign : entry.outbound ≠ task) :
    ForeignRemovalAhead P frames keys state := by
  have hclosed : ∀ (middle : ClientState) (closed : Session),
      closed.peer = session.peer → closed.loop = .closed →
      EventTaskRunning middle task closed →
      middle.sessionMap = state.sessionMap →
      ForeignRemovalAhead P frames keys middle := by
    intro middle closed hpeer hloop hmiddle hmap
    have hends := connectStep_eventTaskEnds P frames keys hmiddle hloop
    refine ⟨[.eventTaskEnds task], _,
      runFrom_cons_eq_some.mpr ⟨_, hends, rfl⟩, ?_⟩
    intro hall
    rw [← hpeer, ← hmap] at hentry
    exact hforeign (hall.1 task closed entry rfl hmiddle hentry)
  cases hloop : session.loop with
  | ended => exact absurd hloop hrunning.2.2
  | closed => exact hclosed state session rfl hloop hrunning rfl
  | receiving =>
      obtain ⟨hspawned, hsession, _⟩ := hrunning
      have hstops := connectStep_sessionStops P frames keys hsession hloop
      have hstopped : EventTaskRunning
          (stopSession state task session session.recv) task
          { session with loop := .closed } :=
        ⟨hspawned, by simp [stopSession], by simp⟩
      exact (hclosed (stopSession state task session session.recv)
        { session with loop := .closed } rfl rfl hstopped rfl).cons hstops

/-- An insert next to a running event task of the same peer. -/
theorem foreignRemovalAhead_of_not_insertsAlone
    {task : ℕ} {next : ClientState}
    (hstep : connectStep P frames keys state (.insert task) = some next)
    (hbeside : ¬ InsertsAlone P state (.insert task)) :
    ForeignRemovalAhead P frames keys state := by
  unfold InsertsAlone at hbeside
  push Not at hbeside
  obtain ⟨_, peer, transport, hlabel, hphase, other, session, hrunning,
    hsame⟩ := hbeside
  cases hlabel
  obtain ⟨⟨attempt, hattempt, hspawned⟩, hsession, hloop⟩ := hrunning
  have hother : other ≠ task := by
    intro heq
    subst heq
    rw [hphase] at hattempt
    cases hattempt
    simp at hspawned
  have hnext : next = insertEntry P state task peer transport := by
    simp only [connectStep, hphase, Option.some.injEq] at hstep
    exact hstep.symm
  have hstill : EventTaskRunning next other session := by
    rw [hnext]
    refine ⟨⟨attempt, ?_, hspawned⟩, hsession, hloop⟩
    simpa [insertEntry, hother] using hattempt
  have hentry : next.sessionMap (session.peer.hash P) =
      some ⟨task, if transport = .relay then some task else none⟩ := by
    rw [hnext, hsame]
    simp [insertEntry]
  exact (foreignRemovalAhead_of_running frames keys hstill hentry
    hother.symm).cons hstep

end Runs

/-- In every run whose inserts all happen while no event task of the peer is
running, every event task that ends removes its own entry or none; and from
every reachable insert that does not, a run goes on in which the end of an
older session removes the newer entry. -/
theorem session_teardown_own_entry
    (P : Primitives) (frames : Codec PeerMessage) (keys : Keys) :
    (∀ labels,
        AllSteps (connectStep P frames keys) (InsertsAlone P) .initial
          labels →
        AllSteps (connectStep P frames keys) (RemovesOwnEntry P) .initial
          labels) ∧
      ∀ labels state task next,
        runFrom (connectStep P frames keys) .initial labels = some state →
        connectStep P frames keys state (.insert task) = some next →
        ¬ InsertsAlone P state (.insert task) →
        ∃ rest final,
          runFrom (connectStep P frames keys) .initial (labels ++ rest) =
              some final ∧
            ¬ AllSteps (connectStep P frames keys) (RemovesOwnEntry P)
              .initial (labels ++ rest) := by
  constructor
  · intro labels halone
    exact teardown_of_insertsAlone P frames keys halone
  · intro labels state task next hrun hstep hbeside
    obtain ⟨rest, final, hrest, hforeign⟩ :=
      foreignRemovalAhead_of_not_insertsAlone hstep hbeside
    refine ⟨rest, final,
      runFrom_append_eq_some.mpr ⟨state, hrun, hrest⟩, ?_⟩
    intro hall
    exact hforeign (allSteps_append hall hrun)

/-! ## A purge and a reconnect -/

/-- The labels of one attempt over a direct connection, up to its entry. -/
def sampleConnect (task : ℕ) : List ConnectLabel :=
  [.punchHole (sampleKeys 3).publicPart, .lookup task,
    .reserve task (Vector.replicate 32 7),
    .punched task (some "203.0.113.7:4000"),
    .handshaken task (some (Vector.replicate 32 9)), .insert task,
    .finish task]

/-- A session comes up, is purged, and the peer connects again before the
receive loop of the first session has ended. -/
def samplePurgedSession : List ConnectLabel :=
  sampleConnect 0 ++
    [.dropSession ((sampleKeys 3).id .transparent)] ++ sampleConnect 1 ++
    [.sessionStops 0]

/-- A session comes up and ends, and after that the peer connects again. -/
def sampleReconnect : List ConnectLabel :=
  sampleConnect 0 ++ [.sessionStops 0, .eventTaskEnds 0] ++ sampleConnect 1 ++
    [.sessionStops 1, .eventTaskEnds 1]

/-- Before each of the two inserts no event task is running: the second attempt
publishes its session when that of the first one has ended. -/
theorem sampleReconnect_runs :
    ∃ first second, runFrom (connectStep .transparent transparentFrames
        (sampleKeys 1)) .initial (sampleReconnect.take 5) = some first ∧
      (∀ task session, ¬ EventTaskRunning first task session) ∧
      runFrom (connectStep .transparent transparentFrames (sampleKeys 1))
        first ((sampleReconnect.drop 5).take 9) = some second ∧
      ∀ task session, ¬ EventTaskRunning second task session := by
  refine ⟨_, _, rfl, ?_, rfl, ?_⟩
  · rintro task session ⟨⟨attempt, hattempt, hspawned⟩, -, -⟩
    match task with
    | 0 =>
        cases hattempt
        rcases hspawned with hspawned | hspawned <;> cases hspawned
    | task + 1 =>
        have hnone : (none : Option Attempt) = some attempt := hattempt
        cases hnone
  · rintro task session ⟨⟨attempt, hattempt, hspawned⟩, hsession, hloop⟩
    match task with
    | 0 =>
        cases hsession
        exact hloop rfl
    | 1 =>
        cases hattempt
        rcases hspawned with hspawned | hspawned <;> cases hspawned
    | task + 2 =>
        have hnone : (none : Option Attempt) = some attempt := hattempt
        cases hnone

theorem sampleReconnect_insertsAlone :
    AllSteps (connectStep .transparent transparentFrames (sampleKeys 1))
      (InsertsAlone .transparent) .initial sampleReconnect := by
  have hother (labels : List ConnectLabel)
      (hlabels : ∀ label ∈ labels, ∀ task, label ≠ .insert task)
      (state : ClientState) :
      AllSteps (connectStep .transparent transparentFrames (sampleKeys 1))
        (InsertsAlone .transparent) state labels :=
    allSteps_of_forall_mem
      (fun label hmem _ task _ _ heq => absurd heq (hlabels label hmem task))
      state
  have halone {state : ClientState}
      (hnone : ∀ task session, ¬ EventTaskRunning state task session)
      (label : ConnectLabel) : InsertsAlone .transparent state label :=
    fun _ _ _ _ _ other session hrunning =>
      absurd hrunning (hnone other session)
  obtain ⟨first, second, hfirst, hvacant, hsecond, hended⟩ :=
    sampleReconnect_runs
  have hsplit : sampleReconnect = sampleReconnect.take 5 ++
      (sampleReconnect.drop 5).take 9 ++ sampleReconnect.drop 14 := rfl
  have hinserted := runFrom_append_eq_some.mpr ⟨first, hfirst, hsecond⟩
  rw [hsplit]
  refine allSteps_append_intro (allSteps_append_intro (hother _ ?_ _) hfirst
    ⟨halone hvacant _, fun next _ => hother _ ?_ next⟩) hinserted
    ⟨halone hended _, fun next _ => hother _ ?_ next⟩
  all_goals simp [sampleReconnect, sampleConnect]

theorem sample_teardown_own_entry :
    AllSteps (connectStep .transparent transparentFrames (sampleKeys 1))
        (RemovesOwnEntry .transparent) .initial sampleReconnect :=
  (session_teardown_own_entry .transparent transparentFrames
    (sampleKeys 1)).1 _ sampleReconnect_insertsAlone

theorem purged_session_removes_new_entry :
    ∃ state session, runFrom (connectStep .transparent transparentFrames
        (sampleKeys 1)) .initial samplePurgedSession = some state ∧
      EventTaskRunning state 0 session ∧
      state.sessionMap (session.peer.hash .transparent) =
        some ⟨1, none⟩ ∧
      ∃ next, connectStep .transparent transparentFrames (sampleKeys 1) state
          (.eventTaskEnds 0) = some next ∧
        next.sessionMap (session.peer.hash .transparent) = none ∧
        ¬ RemovesOwnEntry .transparent state (.eventTaskEnds 0) := by
  refine ⟨_, _, rfl, ⟨⟨_, rfl, Or.inr rfl⟩, rfl, by decide⟩, rfl, _, rfl,
    rfl, ?_⟩
  intro hown
  have htask := hown 0 _ ⟨1, none⟩ rfl
    ⟨⟨_, rfl, Or.inr rfl⟩, rfl, by decide⟩ rfl
  exact absurd htask (by decide)

end SechatClient
