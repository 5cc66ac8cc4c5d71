import SechatClient.Reservations
import SechatClient.SessionTeardown

/-!
# Reservations of connect attempts

`connect_session` reserves its peer in the `Connecting` set and a guard gives
the reservation back on every return.  Between the two the attempt holds its
peer: no second attempt can get past the reservation, and the set lists
exactly the held peers.

The lookup in the `SessionMap` comes before the reservation and under another
lock.  An attempt that looked before another one published its session, and
reserves after that one has returned, goes on to publish over it.
-/

namespace SechatClient

open Reservations StepSystem

/-- A phase between the successful reservation and the return. -/
def ConnectPhase.holds : ConnectPhase → Bool
  | .punching _ => true
  | .handshaking _ _ => true
  | .relaying _ => true
  | .starting _ => true
  | .inserted => true
  | .failed => true
  | _ => false

/-- A holding phase in which the session is not in the map yet. -/
def ConnectPhase.unpublished : ConnectPhase → Bool
  | .punching _ => true
  | .handshaking _ _ => true
  | .relaying _ => true
  | .starting _ => true
  | _ => false

section Holders

variable (P : Primitives)

def Attempt.holding (attempt : Attempt) : Option KeyType :=
  if attempt.phase.holds then some (attempt.peer.hash P) else none

/-- The peer that a task holds. -/
def ClientState.holder (state : ClientState) (task : ℕ) : Option KeyType :=
  (state.attempts task).bind (Attempt.holding P)

variable {P} {state : ClientState} {task : ℕ} {peer : PeerPublic}
  {phase : ConnectPhase}

theorem holder_eq_none (hphase : state.attempts task = some ⟨peer, phase⟩)
    (hfree : phase.holds = false) : state.holder P task = none := by
  simp [ClientState.holder, hphase, Attempt.holding, hfree]

theorem holder_eq_some (hphase : state.attempts task = some ⟨peer, phase⟩)
    (hholds : phase.holds = true) :
    state.holder P task = some (peer.hash P) := by
  simp [ClientState.holder, hphase, Attempt.holding, hholds]

theorem ConnectPhase.holds_of_unpublished
    (hunpublished : phase.unpublished = true) : phase.holds = true := by
  cases phase <;> first | rfl | contradiction

end Holders

/-! ## The set lists the held peers -/

/-- The `Connecting` set matches the attempts that hold a reservation. -/
def ReservationsMatch (P : Primitives) (state : ClientState) : Prop :=
  Matches (state.holder P) state.connecting

namespace ReservationsMatch

variable {P : Primitives} {keys : Keys} {state next : ClientState}

theorem initial : ReservationsMatch P .initial := Matches.empty

/-- Nothing about the attempts or the set changes. -/
theorem of_same (hmatch : ReservationsMatch P state)
    (hattempts : next.attempts = state.attempts)
    (hconnecting : next.connecting = state.connecting) :
    ReservationsMatch P next := by
  have hholder : next.holder P = state.holder P := by
    funext task
    rw [ClientState.holder, hattempts, ClientState.holder]
  rw [ReservationsMatch, hholder, hconnecting]
  exact hmatch

theorem holder_of_update {task : ℕ} {attempt : Attempt}
    (hattempts : next.attempts =
      Function.update state.attempts task (some attempt)) :
    next.holder P =
      Function.update (state.holder P) task (attempt.holding P) := by
  funext other
  by_cases hother : other = task
  · subst hother
    simp [ClientState.holder, hattempts]
  · simp [ClientState.holder, hattempts, Function.update_of_ne hother]

/-- An attempt moves and holds afterwards what it held before. -/
theorem move (hmatch : ReservationsMatch P state) {task : ℕ}
    {peer : PeerPublic} {before after : ConnectPhase}
    (hphase : state.attempts task = some ⟨peer, before⟩)
    (hattempts : next.attempts =
      Function.update state.attempts task (some ⟨peer, after⟩))
    (hconnecting : next.connecting = state.connecting)
    (hholds : after.holds = before.holds) : ReservationsMatch P next := by
  have hheld : Attempt.holding P ⟨peer, after⟩ = state.holder P task := by
    simp only [Attempt.holding, hholds, ClientState.holder, hphase,
      Option.bind_some]
  rw [ReservationsMatch, holder_of_update hattempts, hheld,
    Function.update_eq_self, hconnecting]
  exact hmatch

theorem spawn (hmatch : ReservationsMatch P state)
    (howned : SessionsOwned state) (peer : PeerPublic) :
    ReservationsMatch P (spawnConnect state peer) := by
  have hnone : state.holder P state.spawned = none := by
    simp [ClientState.holder, howned.unspawned state.spawned le_rfl]
  have hattempts : (spawnConnect state peer).attempts =
      Function.update state.attempts state.spawned
        (some ⟨peer, .checking⟩) := rfl
  have hidle : Attempt.holding P ⟨peer, .checking⟩ =
      state.holder P state.spawned := hnone.symm
  rw [ReservationsMatch, holder_of_update hattempts, hidle,
    Function.update_eq_self]
  exact hmatch

theorem reserve (hmatch : ReservationsMatch P state) {task : ℕ}
    {peer : PeerPublic} (ephPriv : KeyType)
    (hphase : state.attempts task = some ⟨peer, .reserving false⟩)
    (hfree : peer.hash P ∉ state.connecting) :
    ReservationsMatch P
      { state.setPhase task peer (.punching ephPriv) with
        connecting := insert (peer.hash P) state.connecting } := by
  have hattempts :
      ({ state.setPhase task peer (.punching ephPriv) with
          connecting := insert (peer.hash P) state.connecting } :
            ClientState).attempts =
        Function.update state.attempts task
          (some ⟨peer, .punching ephPriv⟩) := rfl
  rw [ReservationsMatch, holder_of_update hattempts]
  exact Matches.acquire hmatch hfree (holder_eq_none hphase rfl)

theorem finish (hmatch : ReservationsMatch P state) {task : ℕ}
    {peer : PeerPublic} {phase : ConnectPhase}
    (hphase : state.attempts task = some ⟨peer, phase⟩)
    (hholds : phase.holds = true) :
    ReservationsMatch P (finishConnect P state task peer) := by
  have hattempts : (finishConnect P state task peer).attempts =
      Function.update state.attempts task (some ⟨peer, .returned⟩) := rfl
  rw [ReservationsMatch, holder_of_update hattempts]
  exact Matches.release hmatch (holder_eq_some hphase hholds)

theorem of_transition
    {label : ConnectLabel} (hmatch : ReservationsMatch P state)
    (howned : SessionsOwned state)
    (htransition : ConnectTransition P keys state label next) :
    ReservationsMatch P next := by
  cases htransition with
  | spawned peer => exact hmatch.spawn howned peer
  | looked hphase => exact hmatch.move hphase rfl rfl rfl
  | refused ephPriv hphase hbusy => exact hmatch.move hphase rfl rfl rfl
  | reserved ephPriv hphase hfree =>
      exact hmatch.reserve ephPriv hphase hfree
  | punched remote hphase => exact hmatch.move hphase rfl rfl rfl
  | unpunched hphase => exact hmatch.move hphase rfl rfl rfl
  | handshaken key hphase => exact hmatch.move hphase rfl rfl rfl
  | unshaken hphase => exact hmatch.move hphase rfl rfl rfl
  | relaySkipped now rest hphase => exact hmatch.of_same rfl rfl
  | relayStarted now rest key hphase => exact hmatch.move hphase rfl rfl rfl
  | relayGivenUp hphase => exact hmatch.move hphase rfl rfl rfl
  | entered hphase => exact hmatch.move hphase rfl rfl rfl
  | finished hphase =>
      rcases hphase with hphase | hphase <;> exact hmatch.finish hphase rfl
  | notRouted senderHash payload => exact hmatch
  | routed senderHash payload task queue => exact hmatch.of_same rfl rfl
  | received now evtOpen recv rest hsession hloop =>
      exact hmatch.of_same rfl rfl
  | closedByFrame now evtOpen recv hsession hloop =>
      exact hmatch.of_same rfl rfl
  | stopped hsession hloop => exact hmatch.of_same rfl rfl
  | ended hattempt hphase hsession hloop => exact hmatch.of_same rfl rfl
  | dropped peer => exact hmatch.of_same rfl rfl
  | shutdown => exact hmatch.of_same rfl rfl

end ReservationsMatch

section Runs

variable (P : Primitives) (frames : Codec PeerMessage) (keys : Keys)

theorem reservations_of_run
    {labels : List ConnectLabel} {state : ClientState}
    (hrun : runFrom (connectStep P frames keys) .initial labels =
      some state) :
    SessionsOwned state ∧ ReservationsMatch P state := by
  refine runFrom_invariant
    (fun state => SessionsOwned state ∧ ReservationsMatch P state) ?_
    ⟨SessionsOwned.initial, ReservationsMatch.initial⟩ hrun
  rintro state label next ⟨howned, hmatch⟩ hstep
  have htransition := connectTransition_of_step hstep
  exact ⟨howned.of_transition htransition,
    hmatch.of_transition howned htransition⟩

variable {state : ClientState} {task : ℕ} {peer : PeerPublic}

theorem connectStep_finish_failed
    (hphase : state.attempts task = some ⟨peer, .failed⟩) :
    connectStep P frames keys state (.finish task) =
      some (finishConnect P state task peer) := by
  simp only [connectStep, hphase]

theorem connectStep_reserve_free (ephPriv : KeyType)
    (hphase : state.attempts task = some ⟨peer, .reserving false⟩)
    (hfree : peer.hash P ∉ state.connecting) :
    connectStep P frames keys state (.reserve task ephPriv) =
      some { state.setPhase task peer (.punching ephPriv) with
        connecting := insert (peer.hash P) state.connecting } := by
  have hbusy : ¬ (false = true ∨ peer.hash P ∈ state.connecting) := by
    simpa using hfree
  simp only [connectStep, hphase, reserve, if_neg hbusy]

end Runs

/-- In every reachable state at most one attempt holds a peer, and the
`Connecting` set lists exactly the held peers.  An attempt that failed can
return, which frees its peer: a later attempt that finds no session then gets
the reservation. -/
theorem one_attempt_per_peer
    (P : Primitives) (frames : Codec PeerMessage) (keys : Keys)
    {labels : List ConnectLabel} {state : ClientState}
    (hrun : runFrom (connectStep P frames keys) .initial labels =
      some state) :
    (∀ task other hash, state.holder P task = some hash →
        state.holder P other = some hash → task = other) ∧
      (∀ hash, hash ∈ state.connecting ↔
        ∃ task, state.holder P task = some hash) ∧
      ∀ task peer, state.attempts task = some ⟨peer, .failed⟩ →
        ∃ next, connectStep P frames keys state (.finish task) = some next ∧
          peer.hash P ∉ next.connecting ∧
          ∀ later other ephPriv,
            next.attempts later = some ⟨other, .reserving false⟩ →
            other.hash P = peer.hash P →
            ∃ after, connectStep P frames keys next (.reserve later ephPriv) =
                some after ∧
              after.holder P later = some (peer.hash P) := by
  obtain ⟨_, hmatch⟩ := reservations_of_run P frames keys hrun
  refine ⟨hmatch.unique, hmatch.mem_iff, ?_⟩
  intro task peer hphase
  have hfree : peer.hash P ∉ (finishConnect P state task peer).connecting :=
    Finset.notMem_erase _ _
  refine ⟨finishConnect P state task peer,
    connectStep_finish_failed P frames keys hphase, hfree, ?_⟩
  intro later other ephPriv hlater hsame
  rw [← hsame] at hfree ⊢
  have hpunching : ∀ (next : ClientState) (connecting : Finset KeyType),
      ({ next.setPhase later other (.punching ephPriv) with
        connecting := connecting } : ClientState).attempts later =
          some ⟨other, .punching ephPriv⟩ := by
    intro next connecting
    exact Function.update_self _ _ _
  exact ⟨_, connectStep_reserve_free P frames keys ephPriv hlater hfree,
    holder_eq_some (hpunching _ _) rfl⟩

/-- An attempt fails, and a second one of the same peer looked before that. -/
def sampleFailedAttempt : List ConnectLabel :=
  [.punchHole (sampleKeys 3).publicPart, .lookup 0,
    .reserve 0 (Vector.replicate 32 7), .punched 0 none, .relayDeadline 0,
    .punchHole (sampleKeys 3).publicPart, .lookup 1]

theorem sample_failed_attempt_frees :
    ∃ state next after, runFrom (connectStep .transparent transparentFrames
        (sampleKeys 1)) .initial sampleFailedAttempt = some state ∧
      state.holder .transparent 0 =
        some ((sampleKeys 3).id .transparent) ∧
      connectStep .transparent transparentFrames (sampleKeys 1) state
        (.finish 0) = some next ∧
      connectStep .transparent transparentFrames (sampleKeys 1) next
        (.reserve 1 (Vector.replicate 32 8)) = some after ∧
      after.holder .transparent 1 =
        some ((sampleKeys 3).id .transparent) := by
  have hrun : runFrom (connectStep .transparent transparentFrames
      (sampleKeys 1)) .initial sampleFailedAttempt = some _ := rfl
  obtain ⟨_, _, hfrees⟩ := one_attempt_per_peer .transparent
    transparentFrames (sampleKeys 1) hrun
  obtain ⟨next, hfinish, _, hlater⟩ :=
    hfrees 0 (sampleKeys 3).publicPart rfl
  cases hfinish
  obtain ⟨after, hreserve, hholder⟩ := hlater 1 (sampleKeys 3).publicPart
    (Vector.replicate 32 8) rfl rfl
  exact ⟨_, _, after, rfl, rfl, rfl, hreserve, hholder⟩

/-! ## The insert of a new session -/

section Conditions

variable (P : Primitives)

/-- The insert at the end of `connect_session` overwrites no entry. -/
def InsertsNew (state : ClientState) (label : ConnectLabel) : Prop :=
  ∀ task peer transport, label = .insert task →
    state.attempts task = some ⟨peer, .starting transport⟩ →
    state.sessionMap (peer.hash P) = none

/-- An attempt that gets the reservation finds what its lookup found: the
map has no entry of the peer. -/
def ReservesVacant (state : ClientState) (label : ConnectLabel) : Prop :=
  ∀ task ephPriv peer, label = .reserve task ephPriv →
    state.attempts task = some ⟨peer, .reserving false⟩ →
    peer.hash P ∉ state.connecting →
    state.sessionMap (peer.hash P) = none

/-- No entry stands in the map while an attempt of the peer is on its way to
insert one. -/
def UnpublishedVacant (state : ClientState) : Prop :=
  ∀ task peer phase, state.attempts task = some ⟨peer, phase⟩ →
    phase.unpublished = true → state.sessionMap (peer.hash P) = none

end Conditions

namespace UnpublishedVacant

variable {P : Primitives} {keys : Keys} {state next : ClientState}

theorem initial : UnpublishedVacant P .initial := by
  intro task peer phase hphase
  simp [ClientState.initial] at hphase

/-- Entries are only removed, and attempts on the way to an insert were so
before. -/
theorem mono (hvacant : UnpublishedVacant P state)
    (hattempts : ∀ task peer phase,
      next.attempts task = some ⟨peer, phase⟩ → phase.unpublished = true →
        ∃ before, state.attempts task = some ⟨peer, before⟩ ∧
          before.unpublished = true)
    (hmap : ∀ hash, state.sessionMap hash = none →
      next.sessionMap hash = none) : UnpublishedVacant P next := by
  intro task peer phase hphase hunpublished
  obtain ⟨before, hbefore, hearlier⟩ :=
    hattempts task peer phase hphase hunpublished
  exact hmap _ (hvacant task peer before hbefore hearlier)

theorem of_same (hvacant : UnpublishedVacant P state)
    (hattempts : next.attempts = state.attempts)
    (hmap : ∀ hash, state.sessionMap hash = none →
      next.sessionMap hash = none) : UnpublishedVacant P next := by
  refine hvacant.mono ?_ hmap
  intro task peer phase hphase hunpublished
  rw [hattempts] at hphase
  exact ⟨phase, hphase, hunpublished⟩

/-- One attempt moves, and was already on its way if it is now. -/
theorem move (hvacant : UnpublishedVacant P state) {task : ℕ}
    {peer : PeerPublic} {before after : ConnectPhase}
    (hphase : state.attempts task = some ⟨peer, before⟩)
    (hattempts : next.attempts =
      Function.update state.attempts task (some ⟨peer, after⟩))
    (hmap : next.sessionMap = state.sessionMap)
    (hearlier : after.unpublished = true → before.unpublished = true) :
    UnpublishedVacant P next := by
  refine hvacant.mono ?_ (fun hash hnone => by rw [hmap, hnone])
  intro other owner phase hother hunpublished
  rw [hattempts] at hother
  rcases update_eq_some hother with ⟨rfl, hmoved⟩ | ⟨htask, hother⟩
  · cases hmoved
    exact ⟨before, hphase, hearlier hunpublished⟩
  · exact ⟨phase, hother, hunpublished⟩

theorem spawn (hvacant : UnpublishedVacant P state) (peer : PeerPublic) :
    UnpublishedVacant P (spawnConnect state peer) := by
  refine hvacant.mono ?_ (fun hash hnone => hnone)
  intro task owner phase hphase hunpublished
  simp only [spawnConnect, ClientState.setPhase_attempts] at hphase
  rcases update_eq_some hphase with ⟨rfl, hmoved⟩ | ⟨htask, hphase⟩
  · cases hmoved
    contradiction
  · exact ⟨phase, hphase, hunpublished⟩

theorem reserve (hvacant : UnpublishedVacant P state) {task : ℕ}
    {peer : PeerPublic} (ephPriv : KeyType)
    (hnone : state.sessionMap (peer.hash P) = none) :
    UnpublishedVacant P
      { state.setPhase task peer (.punching ephPriv) with
        connecting := insert (peer.hash P) state.connecting } := by
  intro other owner phase hother hunpublished
  simp only [ClientState.setPhase_attempts] at hother
  rcases update_eq_some hother with ⟨rfl, hmoved⟩ | ⟨htask, hother⟩
  · cases hmoved
    exact hnone
  · exact hvacant other owner phase hother hunpublished

/-- The insert is of the only attempt that holds the peer. -/
theorem insert (hvacant : UnpublishedVacant P state)
    (hmatch : ReservationsMatch P state) {task : ℕ} {peer : PeerPublic}
    {transport : SessionTransport}
    (hphase : state.attempts task = some ⟨peer, .starting transport⟩) :
    UnpublishedVacant P (insertEntry P state task peer transport) := by
  intro other owner phase hother hunpublished
  simp only [insertEntry, ClientState.setEntry_attempts,
    ClientState.setPhase_attempts] at hother
  rcases update_eq_some hother with ⟨rfl, hmoved⟩ | ⟨htask, hother⟩
  · cases hmoved
    contradiction
  · have hne : owner.hash P ≠ peer.hash P := by
      intro hsame
      have hholder := holder_eq_some (P := P) hother
        (ConnectPhase.holds_of_unpublished hunpublished)
      rw [hsame] at hholder
      exact htask (hmatch.unique other task _ hholder
        (holder_eq_some hphase rfl))
    simp only [insertEntry, ClientState.setEntry_sessionMap,
      ClientState.setPhase_sessionMap]
    rw [Function.update_of_ne hne]
    exact hvacant other owner phase hother hunpublished

theorem of_transition
    {label : ConnectLabel} (hvacant : UnpublishedVacant P state)
    (hmatch : ReservationsMatch P state)
    (hreserves : ReservesVacant P state label)
    (htransition : ConnectTransition P keys state label next) :
    UnpublishedVacant P next := by
  have hkept : ∀ hash, state.sessionMap hash = none →
      state.sessionMap hash = none := fun _ hnone => hnone
  have hremoved : ∀ removed hash, state.sessionMap hash = none →
      Function.update state.sessionMap removed none hash = none := by
    intro removed hash hnone
    by_cases heq : hash = removed
    · rw [heq, Function.update_self]
    · rw [Function.update_of_ne heq, hnone]
  cases htransition with
  | spawned peer => exact hvacant.spawn peer
  | looked hphase =>
      exact hvacant.move hphase rfl rfl (by simp [ConnectPhase.unpublished])
  | refused ephPriv hphase hbusy =>
      exact hvacant.move hphase rfl rfl (by simp [ConnectPhase.unpublished])
  | reserved ephPriv hphase hfree =>
      exact hvacant.reserve ephPriv (hreserves _ _ _ rfl hphase hfree)
  | punched remote hphase => exact hvacant.move hphase rfl rfl (fun _ => rfl)
  | unpunched hphase => exact hvacant.move hphase rfl rfl (fun _ => rfl)
  | handshaken key hphase => exact hvacant.move hphase rfl rfl (fun _ => rfl)
  | unshaken hphase => exact hvacant.move hphase rfl rfl (fun _ => rfl)
  | relaySkipped now rest hphase => exact hvacant.of_same rfl hkept
  | relayStarted now rest key hphase =>
      exact hvacant.move hphase rfl rfl (fun _ => rfl)
  | relayGivenUp hphase => exact hvacant.move hphase rfl rfl (fun _ => rfl)
  | entered hphase => exact hvacant.insert hmatch hphase
  | finished hphase =>
      rcases hphase with hphase | hphase <;>
        exact hvacant.move hphase rfl rfl (by simp [ConnectPhase.unpublished])
  | notRouted senderHash payload => exact hvacant
  | routed senderHash payload task queue => exact hvacant.of_same rfl hkept
  | received now evtOpen recv rest hsession hloop =>
      exact hvacant.of_same rfl hkept
  | closedByFrame now evtOpen recv hsession hloop =>
      exact hvacant.of_same rfl hkept
  | stopped hsession hloop => exact hvacant.of_same rfl hkept
  | ended hattempt hphase hsession hloop =>
      exact hvacant.of_same rfl (hremoved _)
  | dropped peer => exact hvacant.of_same rfl (hremoved _)
  | shutdown => exact hvacant.of_same rfl (fun _ _ => rfl)

end UnpublishedVacant

section Runs

variable (P : Primitives) (frames : Codec PeerMessage) (keys : Keys)

theorem insertsNew_of_reservesVacant
    {labels : List ConnectLabel}
    (hreserves : AllSteps (connectStep P frames keys) (ReservesVacant P)
      .initial labels) :
    AllSteps (connectStep P frames keys) (InsertsNew P) .initial labels := by
  refine allSteps_imp_of_invariant
    (fun state => SessionsOwned state ∧ ReservationsMatch P state ∧
      UnpublishedVacant P state) ?_ ?_
    ⟨SessionsOwned.initial, ReservationsMatch.initial,
      UnpublishedVacant.initial⟩ hreserves
  · rintro state label next ⟨howned, hmatch, hvacant⟩ hreserve hstep
    have htransition := connectTransition_of_step hstep
    exact ⟨howned.of_transition htransition,
      hmatch.of_transition howned htransition,
      hvacant.of_transition hmatch hreserve htransition⟩
  · rintro state label ⟨_, _, hvacant⟩ _ task peer transport _ hphase
    exact hvacant task peer (.starting transport) hphase rfl

/-- An attempt that reserved over an entry can go on to insert over it. -/
theorem overwrite_ahead_of_reserved
    {state : ClientState} {task : ℕ} {peer : PeerPublic} {entry : SessionEntry}
    (ephPriv : KeyType)
    (hphase : state.attempts task = some ⟨peer, .reserving false⟩)
    (hfree : peer.hash P ∉ state.connecting)
    (hentry : state.sessionMap (peer.hash P) = some entry) :
    ∃ rest final, runFrom (connectStep P frames keys) state
        (.reserve task ephPriv :: rest) = some final ∧
      ¬ AllSteps (connectStep P frames keys) (InsertsNew P) state
        (.reserve task ephPriv :: rest) := by
  let remote : SocketAddr := ""
  let reserved : ClientState :=
    { state.setPhase task peer (.punching ephPriv) with
      connecting := insert (peer.hash P) state.connecting }
  let punched := reserved.setPhase task peer (.handshaking ephPriv remote)
  let started := startSession P keys punched task peer ephPriv (.direct remote)
  have hreserve : connectStep P frames keys state (.reserve task ephPriv) =
      some reserved :=
    connectStep_reserve_free P frames keys ephPriv hphase hfree
  have hpunch : connectStep P frames keys reserved
      (.punched task (some remote)) = some punched := by
    simp [connectStep, reserved, punched]
  have hshake : connectStep P frames keys punched
      (.handshaken task (some ephPriv)) = some started := by
    simp [connectStep, punched, started]
  have hstarting : started.attempts task =
      some ⟨peer, .starting (.direct remote)⟩ := by
    simp [started, startSession]
  have hinsert : connectStep P frames keys started (.insert task) =
      some (insertEntry P started task peer (.direct remote)) := by
    simp only [connectStep, hstarting]
  refine ⟨[.punched task (some remote), .handshaken task (some ephPriv),
    .insert task], insertEntry P started task peer (.direct remote), ?_, ?_⟩
  · simp only [runFrom_cons_eq_some, runFrom_nil]
    exact ⟨reserved, hreserve, punched, hpunch, started, hshake, _, hinsert,
      rfl⟩
  · intro hall
    have hnew := (((hall.2 reserved hreserve).2 punched hpunch).2 started
      hshake).1 task peer (.direct remote) rfl hstarting
    have hstill : started.sessionMap (peer.hash P) = some entry := hentry
    rw [hstill] at hnew
    contradiction

end Runs

/-- In every run whose successful reservations all find no entry of their
peer in the map, every insert of a session is of a new entry; and from every
reachable reservation that finds one, a run goes on whose insert overwrites
it. -/
theorem insert_overwrites_no_session
    (P : Primitives) (frames : Codec PeerMessage) (keys : Keys) :
    (∀ labels,
        AllSteps (connectStep P frames keys) (ReservesVacant P) .initial
          labels →
        AllSteps (connectStep P frames keys) (InsertsNew P) .initial
          labels) ∧
      ∀ labels state task ephPriv,
        runFrom (connectStep P frames keys) .initial labels = some state →
        ¬ ReservesVacant P state (.reserve task ephPriv) →
        ∃ rest final,
          runFrom (connectStep P frames keys) .initial (labels ++ rest) =
              some final ∧
            ¬ AllSteps (connectStep P frames keys) (InsertsNew P) .initial
              (labels ++ rest) := by
  constructor
  · intro labels hreserves
    exact insertsNew_of_reservesVacant P frames keys hreserves
  · intro labels state task ephPriv hrun hstale
    unfold ReservesVacant at hstale
    push Not at hstale
    obtain ⟨_, _, peer, hlabel, hphase, hfree, hsome⟩ := hstale
    cases hlabel
    obtain ⟨entry, hentry⟩ := Option.ne_none_iff_exists'.mp hsome
    obtain ⟨rest, final, hrest, hover⟩ :=
      overwrite_ahead_of_reserved P frames keys ephPriv hphase hfree hentry
    refine ⟨.reserve task ephPriv :: rest, final,
      runFrom_append_eq_some.mpr ⟨state, hrun, hrest⟩, ?_⟩
    intro hall
    exact hover (allSteps_append hall hrun)

/-- Two attempts of one peer: both look before one of them reserves, and the
other one is refused.  When the session of the first one has ended, a third
attempt connects again. -/
def sampleRivals : List ConnectLabel :=
  [.punchHole (sampleKeys 3).publicPart, .punchHole (sampleKeys 3).publicPart,
    .lookup 0, .lookup 1, .reserve 0 (Vector.replicate 32 7),
    .reserve 1 (Vector.replicate 32 8),
    .punched 0 (some "203.0.113.7:4000"),
    .handshaken 0 (some (Vector.replicate 32 9)), .insert 0, .finish 0,
    .sessionStops 0, .eventTaskEnds 0,
    .punchHole (sampleKeys 3).publicPart, .lookup 2,
    .reserve 2 (Vector.replicate 32 7),
    .punched 2 (some "203.0.113.7:4000"),
    .handshaken 2 (some (Vector.replicate 32 10)), .insert 2]

/-- At each of the three reservations the map is empty: twice no session has
been published, and at last it has been removed. -/
theorem sampleRivals_runs :
    ∃ first second third,
      runFrom (connectStep .transparent transparentFrames (sampleKeys 1))
        .initial (sampleRivals.take 4) = some first ∧
      (∀ hash, first.sessionMap hash = none) ∧
      runFrom (connectStep .transparent transparentFrames (sampleKeys 1))
        first ((sampleRivals.drop 4).take 1) = some second ∧
      (∀ hash, second.sessionMap hash = none) ∧
      runFrom (connectStep .transparent transparentFrames (sampleKeys 1))
        second ((sampleRivals.drop 5).take 9) = some third ∧
      ∀ hash, third.sessionMap hash = none := by
  refine ⟨_, _, _, rfl, fun _ => rfl, rfl, fun _ => rfl, rfl, ?_⟩
  intro hash
  by_cases hpeer : hash = (sampleKeys 3).id .transparent
  · subst hpeer
    rfl
  · exact (Function.update_of_ne hpeer _ _).trans
      (Function.update_of_ne hpeer _ _)

theorem sampleRivals_reservesVacant :
    AllSteps (connectStep .transparent transparentFrames (sampleKeys 1))
      (ReservesVacant .transparent) .initial sampleRivals := by
  have hother (labels : List ConnectLabel)
      (hlabels : ∀ label ∈ labels, ∀ task ephPriv,
        label ≠ .reserve task ephPriv) (state : ClientState) :
      AllSteps (connectStep .transparent transparentFrames (sampleKeys 1))
        (ReservesVacant .transparent) state labels :=
    allSteps_of_forall_mem
      (fun label hmem _ task ephPriv _ heq =>
        absurd heq (hlabels label hmem task ephPriv))
      state
  have hvacant {state : ClientState}
      (hnone : ∀ hash, state.sessionMap hash = none) (label : ConnectLabel) :
      ReservesVacant .transparent state label :=
    fun _ _ _ _ _ _ => hnone _
  obtain ⟨first, second, third, hfirst, hempty, hsecond, hunpublished, hthird,
    hremoved⟩ := sampleRivals_runs
  have hsplit : sampleRivals = sampleRivals.take 4 ++
      (sampleRivals.drop 4).take 1 ++ (sampleRivals.drop 5).take 9 ++
        sampleRivals.drop 14 := rfl
  have hreserved := runFrom_append_eq_some.mpr ⟨first, hfirst, hsecond⟩
  have hended := runFrom_append_eq_some.mpr ⟨second, hreserved, hthird⟩
  rw [hsplit]
  refine allSteps_append_intro (allSteps_append_intro (allSteps_append_intro
    (hother _ ?_ _) hfirst ⟨hvacant hempty _, fun next _ => trivial⟩) hreserved
    ⟨hvacant hunpublished _, fun next _ => hother _ ?_ next⟩) hended
    ⟨hvacant hremoved _, fun next _ => hother _ ?_ next⟩
  all_goals simp [sampleRivals]

theorem sample_insert_overwrites_nothing :
    AllSteps (connectStep .transparent transparentFrames (sampleKeys 1))
      (InsertsNew .transparent) .initial sampleRivals :=
  (insert_overwrites_no_session .transparent transparentFrames
    (sampleKeys 1)).1 _ sampleRivals_reservesVacant

/-- Two attempts of one peer: the second one looks first and reserves once
the first one has published its session and returned. -/
def sampleStaleLookup : List ConnectLabel :=
  [.punchHole (sampleKeys 3).publicPart, .punchHole (sampleKeys 3).publicPart,
    .lookup 1, .lookup 0, .reserve 0 (Vector.replicate 32 7),
    .punched 0 (some "203.0.113.7:4000"),
    .handshaken 0 (some (Vector.replicate 32 9)), .insert 0, .finish 0,
    .reserve 1 (Vector.replicate 32 8),
    .punched 1 (some "203.0.113.7:4000"),
    .handshaken 1 (some (Vector.replicate 32 10))]

theorem stale_lookup_overwrites_session :
    ∃ state, runFrom (connectStep .transparent transparentFrames
        (sampleKeys 1)) .initial sampleStaleLookup = some state ∧
      state.sessionMap ((sampleKeys 3).id .transparent) = some ⟨0, none⟩ ∧
      ¬ InsertsNew .transparent state (.insert 1) ∧
      ∃ next, connectStep .transparent transparentFrames (sampleKeys 1) state
          (.insert 1) = some next ∧
        next.sessionMap ((sampleKeys 3).id .transparent) =
          some ⟨1, none⟩ := by
  refine ⟨_, rfl, rfl, ?_, _, rfl, rfl⟩
  intro hnew
  have hnone := hnew 1 (sampleKeys 3).publicPart
    (.direct "203.0.113.7:4000") rfl rfl
  have hsome : (some ⟨0, none⟩ : Option SessionEntry) = none := hnone
  cases hsome

end SechatClient
