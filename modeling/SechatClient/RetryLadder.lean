import SechatClient.ConnectIntents
import SechatClient.ConnectSessions
import SechatClient.StepSystem

/-!
# The retry ladder

One peer's connect-intent under retry ticks, while `PunchHole` events spawn
`connect_session` tasks that enter and leave the `Connecting` set.  A tick
counts a peer with an attempt in flight as connected and arms its intent
again.  As long as no tick sees an attempt in flight after a punch, the
ladder ends after `MAX_CONNECT_ATTEMPTS` punches.
-/

namespace SechatClient

open StepSystem

/-- The intent of the peer with the punch requests that left the client and
the events which `drive_retries` emitted for it. -/
structure LadderState where
  intent : ConnectIntent
  client : ClientState
  punches : ℕ
  events : List AppEvent

/-- The peer's intent was just armed by a `Connect` command. -/
def LadderState.armed (online : Bool) (now : ℕ) (client : ClientState) :
    LadderState :=
  ⟨.armed online now, client, 0, []⟩

inductive LadderLabel where
  | tick (now : ℕ) (sent : Bool)
  | client (label : ConnectLabel)

/-- `has_session` as the tick computes it: connected or mid-connect. -/
def hasSession (client : ClientState) (peer : KeyType) : Bool :=
  (client.sessionMap peer).isSome || decide (peer ∈ client.connecting)

/-- The events of one intent in one pass of `drive_retries`. -/
def driveRetryEvents (peer : KeyType) (hasSession : Bool) (now : ℕ)
    (sent : Bool) (intent : ConnectIntent) : List AppEvent :=
  match nextRetryAction intent hasSession now with
  | .punch =>
      if sent then
        [.connectRetrying peer (intent.attempts + 1) intent.backoffSecs]
      else
        []
  | .giveUp => [.connectGaveUp peer]
  | .wait => []
  | .done => []

/-- A punch request leaves the client. -/
def punchSent (hasSession : Bool) (now : ℕ) (sent : Bool)
    (intent : ConnectIntent) : Bool :=
  decide (nextRetryAction intent hasSession now = .punch) && sent

section Steps

variable (P : Primitives) (frames : Codec PeerMessage) (keys : Keys)
  (peer : KeyType)

def tickLadder (state : LadderState) (now : ℕ) (sent : Bool) : LadderState :=
  let live := hasSession state.client peer
  { intent := driveRetry live now sent state.intent
    client := state.client
    punches := state.punches +
      (if punchSent live now sent state.intent then 1 else 0)
    events := state.events ++
      driveRetryEvents peer live now sent state.intent }

def ladderStep (state : LadderState) : LadderLabel → Option LadderState
  | .tick now sent => some (tickLadder peer state now sent)
  | .client label =>
      (connectStep P frames keys state.client label).map fun client =>
        { state with client := client }

end Steps

/-! ## One tick -/

section Actions

variable (intent : ConnectIntent) (now : ℕ)

theorem nextRetryAction_eq_punch :
    nextRetryAction intent false now = .punch ↔
      intent.online = true ∧ intent.attempts < maxConnectAttempts ∧
        intent.dueAt ≤ now := by
  unfold nextRetryAction
  split_ifs <;> simp_all <;> omega

theorem nextRetryAction_eq_giveUp :
    nextRetryAction intent false now = .giveUp ↔
      intent.online = true ∧ intent.attempts = maxConnectAttempts := by
  unfold nextRetryAction
  split_ifs <;> simp_all
  omega

theorem nextRetryAction_free_ne_done :
    nextRetryAction intent false now ≠ .done := by
  unfold nextRetryAction
  split_ifs <;> simp_all

end Actions

/-- How far the ladder is: the punches sent, and whether it was given up. -/
structure LadderInvariant (peer : KeyType) (online : Bool)
    (state : LadderState) : Prop where
  online : state.intent.online = online
  attempts : state.intent.attempts ≤ maxConnectAttempts + 1
  punches : state.punches = min state.intent.attempts maxConnectAttempts
  gaveUp : state.events.count (.connectGaveUp peer) =
    if maxConnectAttempts < state.intent.attempts then 1 else 0

theorem LadderInvariant.armed (peer : KeyType) (online : Bool) (now : ℕ)
    (client : ClientState) :
    LadderInvariant peer online (.armed online now client) where
  online := rfl
  attempts := by simp [LadderState.armed, ConnectIntent.armed]
  punches := by simp [LadderState.armed, ConnectIntent.armed]
  gaveUp := by simp [LadderState.armed, ConnectIntent.armed]

/-- A tick that sees no session, and no attempt in flight once the first
punch was sent. -/
def TickSeesNoAttempt (peer : KeyType) (state : LadderState) :
    LadderLabel → Prop
  | .tick _ _ =>
      state.client.sessionMap peer = none ∧
        (peer ∉ state.client.connecting ∨ state.intent.attempts = 0)
  | .client _ => True

variable {peer : KeyType} {online : Bool} {state : LadderState}

/-- An attempt in flight before the first punch changes at most the
backoff. -/
theorem LadderInvariant.tick_busy
    (hinv : LadderInvariant peer online state)
    (hlive : hasSession state.client peer = true)
    (hzero : state.intent.attempts = 0) (now : ℕ) (sent : Bool) :
    LadderInvariant peer online (tickLadder peer state now sent) := by
  have haction : nextRetryAction state.intent true now = .done := rfl
  have hattempts : (driveRetry true now sent state.intent).attempts = 0 := by
    unfold driveRetry
    rw [haction]
    simp only
    split
    next => rfl
    next => exact hzero
  constructor
  · simp only [tickLadder, driveRetry_online]
    exact hinv.online
  · simp [tickLadder, hlive, hattempts]
  · have hpunches := hinv.punches
    simp only [tickLadder, hlive, hattempts, punchSent, haction]
    simpa [hzero] using hpunches
  · have hgaveUp := hinv.gaveUp
    simp only [tickLadder, hlive, hattempts, driveRetryEvents, haction]
    simpa [hzero] using hgaveUp

/-- A tick that finds the peer free climbs one rung at most. -/
theorem LadderInvariant.tick_free
    (hinv : LadderInvariant peer online state)
    (hfree : hasSession state.client peer = false) (now : ℕ) (sent : Bool) :
    LadderInvariant peer online (tickLadder peer state now sent) := by
  have hattempts := hinv.attempts
  have hpunches := hinv.punches
  have hgaveUp := hinv.gaveUp
  have honline : (tickLadder peer state now sent).intent.online = online := by
    simp only [tickLadder, driveRetry_online]
    exact hinv.online
  suffices hcounts :
      (tickLadder peer state now sent).intent.attempts ≤
          maxConnectAttempts + 1 ∧
        (tickLadder peer state now sent).punches =
          min (tickLadder peer state now sent).intent.attempts
            maxConnectAttempts ∧
        (tickLadder peer state now sent).events.count (.connectGaveUp peer) =
          if maxConnectAttempts <
            (tickLadder peer state now sent).intent.attempts then 1 else 0 from
    ⟨honline, hcounts.1, hcounts.2.1, hcounts.2.2⟩
  simp only [tickLadder, hfree, driveRetry, driveRetryEvents, punchSent]
  cases haction : nextRetryAction state.intent false now with
  | done => exact absurd haction (nextRetryAction_free_ne_done _ now)
  | wait => exact ⟨hattempts, by simpa using hpunches, by simpa using hgaveUp⟩
  | giveUp =>
      obtain ⟨_, hlast⟩ := (nextRetryAction_eq_giveUp _ now).mp haction
      refine ⟨le_refl _, ?_, ?_⟩
      · simp [hpunches, hlast]
      · simp [hgaveUp, hlast]
  | punch =>
      obtain ⟨_, hlow, _⟩ := (nextRetryAction_eq_punch _ now).mp haction
      cases sent with
      | true =>
          refine ⟨by simp; omega, ?_, ?_⟩
          · simp [hpunches]
            omega
          · have hnone : ¬ maxConnectAttempts < state.intent.attempts + 1 := by
              omega
            have hbefore : ¬ maxConnectAttempts < state.intent.attempts := by
              omega
            simp [hgaveUp, hnone, hbefore]
      | false =>
          exact ⟨by simpa using hattempts, by simpa using hpunches,
            by simpa using hgaveUp⟩

theorem ladderStep_invariant
    {P : Primitives} {frames : Codec PeerMessage} {keys : Keys}
    {label : LadderLabel} {next : LadderState}
    (hinv : LadderInvariant peer online state)
    (hok : TickSeesNoAttempt peer state label)
    (hstep : ladderStep P frames keys peer state label = some next) :
    LadderInvariant peer online next := by
  cases label with
  | client label =>
      obtain ⟨client, _, rfl⟩ := Option.map_eq_some_iff.mp hstep
      exact ⟨hinv.online, hinv.attempts, hinv.punches, hinv.gaveUp⟩
  | tick now sent =>
      cases hstep
      obtain ⟨hsession, hflight⟩ := hok
      by_cases hconnecting : peer ∈ state.client.connecting
      · have hzero := hflight.resolve_left (not_not.mpr hconnecting)
        exact hinv.tick_busy (by simp [hasSession, hconnecting]) hzero now sent
      · exact hinv.tick_free (by simp [hasSession, hsession, hconnecting]) now
          sent

/-! ## Runs -/

/-- What the next tick does while the peer is online and free: it sends the
next punch once it is due, and after the last punch it gives up. -/
theorem LadderInvariant.next_tick
    (hinv : LadderInvariant peer true state)
    (hfree : hasSession state.client peer = false)
    (hopen : AppEvent.connectGaveUp peer ∉ state.events) (now : ℕ) :
    (state.punches < maxConnectAttempts → state.intent.dueAt ≤ now →
        (tickLadder peer state now true).punches = state.punches + 1) ∧
      (state.punches = maxConnectAttempts → ∀ sent,
        .connectGaveUp peer ∈ (tickLadder peer state now sent).events) := by
  have hpunches := hinv.punches
  have hlow : state.intent.attempts ≤ maxConnectAttempts := by
    by_contra hparked
    have hgaveUp := hinv.gaveUp
    rw [if_pos (by omega), List.count_eq_zero_of_not_mem hopen] at hgaveUp
    omega
  rw [min_eq_left hlow] at hpunches
  constructor
  · intro hmore hdue
    have haction : nextRetryAction state.intent false now = .punch :=
      (nextRetryAction_eq_punch _ now).mpr
        ⟨hinv.online, by omega, hdue⟩
    simp [tickLadder, hfree, punchSent, haction]
  · intro hlast sent
    have haction : nextRetryAction state.intent false now = .giveUp :=
      (nextRetryAction_eq_giveUp _ now).mpr ⟨hinv.online, by omega⟩
    simp [tickLadder, hfree, driveRetryEvents, haction]

/-- From a freshly armed intent, in every run whose ticks see no session and
no attempt in flight after a punch: at most `MAX_CONNECT_ATTEMPTS` punches
leave the client, `ConnectGaveUp` is emitted once at most and only behind the
last punch, and as long as it was not emitted the next tick of an online peer
climbs the ladder or gives up. -/
theorem retries_bounded
    (P : Primitives) (frames : Codec PeerMessage) (keys : Keys)
    (peer : KeyType) (online : Bool) (start : ℕ) (client : ClientState)
    (labels : List LadderLabel) (final : LadderState)
    (hrun : runFrom (ladderStep P frames keys peer)
      (.armed online start client) labels = some final)
    (hok : AllSteps (ladderStep P frames keys peer) (TickSeesNoAttempt peer)
      (.armed online start client) labels) :
    final.punches ≤ maxConnectAttempts ∧
      final.events.count (.connectGaveUp peer) ≤ 1 ∧
      (.connectGaveUp peer ∈ final.events →
        final.punches = maxConnectAttempts) ∧
      (online = true → hasSession final.client peer = false →
        AppEvent.connectGaveUp peer ∉ final.events → ∀ now,
          (final.punches < maxConnectAttempts → final.intent.dueAt ≤ now →
              (tickLadder peer final now true).punches = final.punches + 1) ∧
            (final.punches = maxConnectAttempts → ∀ sent,
              .connectGaveUp peer ∈
                (tickLadder peer final now sent).events)) := by
  have hinv : LadderInvariant peer online final :=
    runFrom_invariant_of_allSteps (LadderInvariant peer online)
      (fun _ _ _ hstate hlabel hstep =>
        ladderStep_invariant hstate hlabel hstep)
      (LadderInvariant.armed peer online start client) hok hrun
  have hpunches := hinv.punches
  have hgaveUp := hinv.gaveUp
  refine ⟨by omega, ?_, ?_, ?_⟩
  · rw [hgaveUp]
    split <;> omega
  · intro hmem
    have hpositive := List.count_pos_iff.mpr hmem
    rw [hgaveUp] at hpositive
    split at hpositive <;> omega
  · intro honline hfree hopen now
    subst honline
    exact hinv.next_tick hfree hopen now

/-! ## Two ladders -/

def samplePeer : KeyType := (sampleKeys 3).id .transparent

def sampleTicks : List LadderLabel :=
  [.tick 0 true, .tick 1 true, .tick 3 true, .tick 7 true, .tick 15 true,
    .tick 16 true]

/-- Nothing but ticks: five punches, then the sixth tick gives up. -/
theorem sample_retries_bounded :
    ∃ final, runFrom (ladderStep .transparent transparentFrames
          (sampleKeys 1) samplePeer) (.armed true 0 .initial) sampleTicks =
            some final ∧
        .connectGaveUp samplePeer ∈ final.events ∧
        final.punches = maxConnectAttempts := by
  have hfree : ∀ intent punches events now sent,
      TickSeesNoAttempt samplePeer ⟨intent, .initial, punches, events⟩
        (.tick now sent) := by
    intro intent punches events now sent
    exact ⟨rfl, Or.inl (Finset.notMem_empty _)⟩
  refine ⟨_, rfl, by decide, ?_⟩
  refine (retries_bounded .transparent transparentFrames (sampleKeys 1)
    samplePeer true 0 .initial sampleTicks _ rfl ?_).2.2.1 (by decide)
  refine allSteps_cons (hfree _ _ _ _ _) rfl ?_
  refine allSteps_cons (hfree _ _ _ _ _) rfl ?_
  refine allSteps_cons (hfree _ _ _ _ _) rfl ?_
  refine allSteps_cons (hfree _ _ _ _ _) rfl ?_
  refine allSteps_cons (hfree _ _ _ _ _) rfl ?_
  exact allSteps_cons (hfree _ _ _ _ _) rfl trivial

/-- A punch leads to a connect attempt.  The hole punch fails after 20 seconds
and the relay handshake 10 seconds later; until then the ticks see the attempt
in flight. -/
def failedRound (task now : ℕ) : List LadderLabel :=
  let ticks (first count : ℕ) : List LadderLabel :=
    (List.range' first count).map fun instant => .tick instant true
  List.flatten
    [[.tick now true, .client (.punchHole (sampleKeys 3).publicPart),
        .client (.lookup task),
        .client (.reserve task (Vector.replicate 32 7))],
      ticks (now + 1) 20, [.client (.punched task none)], ticks (now + 21) 10,
      [.client (.relayDeadline task), .client (.finish task)]]

set_option maxRecDepth 4000 in
/-- Six rounds of failed attempts: six punches and no `ConnectGaveUp`. -/
theorem failed_rounds_exceed_bound :
    ∃ final, runFrom (ladderStep .transparent transparentFrames
          (sampleKeys 1) samplePeer) (.armed true 0 .initial)
          ((List.range 6).flatMap fun round =>
            failedRound round (31 * round)) = some final ∧
        final.punches = 6 ∧
        AppEvent.connectGaveUp samplePeer ∉ final.events ∧
        final.client.sessionMap samplePeer = none ∧
        ∀ task, final.client.sessions task = none :=
  ⟨_, rfl, rfl, by decide, rfl, fun _ => rfl⟩

end SechatClient
