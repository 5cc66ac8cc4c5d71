import SechatClient.RetryLadder

/-!
# The discipline of the retry ladder

All intents of `orchestrate` under retry ticks, server events and commands.
Beside each intent stands what was tried for it since its last reset: the
tries to send a punch, with the number and the delay which `drive_retries`
gives them, and `ConnectGaveUp`.  Instants are counted in nanoseconds here, so
that a tick can come at any time.
-/

namespace SechatClient

open StepSystem

/-- `Duration::from_secs` -/
def fromSecs (secs : ℕ) : ℕ := secs * 1000000000

/-- What one pass finds for one peer: a session or an attempt in flight, the
result of `send_punch_request`, and the time until `rearm` reads the clock. -/
structure TickView where
  hasSession : Bool
  sent : Bool
  rearmDelay : ℕ

/-! ## One intent in one pass -/

/-- A try to send a punch, or `ConnectGaveUp`.  The number is that of the
punches sent so far. -/
inductive LadderEntry where
  | tried (time : ℕ) (sent : Bool) (number delay : ℕ)
  | gaveUp (time : ℕ)
  deriving DecidableEq

inductive PassEffect where
  | none
  | reset
  | entry (entry : LadderEntry)

def driveIntent (view : TickView) (now : ℕ) (intent : ConnectIntent) :
    ConnectIntent :=
  match nextRetryAction intent view.hasSession now with
  | .done =>
      if intent.attempts ≠ 0 ∨ intent.backoffSecs ≠ 1 then
        intent.rearm (now + view.rearmDelay)
      else
        intent
  | .punch =>
      if view.sent then
        { intent with
          attempts := intent.attempts + 1
          dueAt := now + fromSecs intent.backoffSecs
          backoffSecs := bumpBackoff intent.backoffSecs }
      else
        { intent with
          dueAt := now + fromSecs (max intent.backoffSecs 1)
          backoffSecs := bumpBackoff intent.backoffSecs }
  | .giveUp => { intent with attempts := maxConnectAttempts + 1 }
  | .wait => intent

def passEffect (view : TickView) (now : ℕ) (intent : ConnectIntent) :
    PassEffect :=
  match nextRetryAction intent view.hasSession now with
  | .done =>
      if intent.attempts ≠ 0 ∨ intent.backoffSecs ≠ 1 then .reset else .none
  | .punch =>
      if view.sent then
        .entry (.tried now true (intent.attempts + 1) intent.backoffSecs)
      else
        .entry (.tried now false intent.attempts (max intent.backoffSecs 1))
  | .giveUp => .entry (.gaveUp now)
  | .wait => .none

/-- The same intent with its deadline in whole seconds. -/
def ConnectIntent.inNanos (intent : ConnectIntent) : ConnectIntent :=
  { intent with dueAt := fromSecs intent.dueAt }

/-- At whole seconds the pass is the one of the coarser clock. -/
theorem driveIntent_inNanos
    (hasSession sent : Bool) (now : ℕ) (intent : ConnectIntent) :
    driveIntent ⟨hasSession, sent, 0⟩ (fromSecs now) intent.inNanos =
      (driveRetry hasSession now sent intent).inNanos := by
  have haction : nextRetryAction intent.inNanos hasSession (fromSecs now) =
      nextRetryAction intent hasSession now := by
    simp [nextRetryAction, ConnectIntent.inNanos, fromSecs]
  unfold driveIntent driveRetry
  simp only [haction]
  cases nextRetryAction intent hasSession now with
  | done =>
      by_cases hreset : intent.attempts ≠ 0 ∨ intent.backoffSecs ≠ 1
      · have hnanos : intent.inNanos.attempts ≠ 0 ∨
            intent.inNanos.backoffSecs ≠ 1 := hreset
        rw [if_pos hreset, if_pos hnanos]
        simp only [Nat.add_zero, ConnectIntent.rearm, ConnectIntent.inNanos]
      · have hnanos : ¬ (intent.inNanos.attempts ≠ 0 ∨
            intent.inNanos.backoffSecs ≠ 1) := hreset
        rw [if_neg hreset, if_neg hnanos]
  | punch =>
      cases sent <;>
        simp [ConnectIntent.inNanos, fromSecs, Nat.add_mul]
  | giveUp => rfl
  | wait => rfl

/-- Everything a pass can do to an intent. -/
theorem driveIntent_cases
    (view : TickView) (now : ℕ) (intent : ConnectIntent) :
    (passEffect view now intent = .none ∧
        driveIntent view now intent = intent) ∨
      (passEffect view now intent = .reset ∧
        driveIntent view now intent =
          intent.rearm (now + view.rearmDelay)) ∨
      (intent.attempts < maxConnectAttempts ∧ intent.dueAt ≤ now ∧
        ((passEffect view now intent =
            .entry (.tried now true (intent.attempts + 1)
              intent.backoffSecs) ∧
          driveIntent view now intent =
            { intent with
              attempts := intent.attempts + 1
              dueAt := now + fromSecs intent.backoffSecs
              backoffSecs := bumpBackoff intent.backoffSecs }) ∨
        (passEffect view now intent =
            .entry (.tried now false intent.attempts
              (max intent.backoffSecs 1)) ∧
          driveIntent view now intent =
            { intent with
              dueAt := now + fromSecs (max intent.backoffSecs 1)
              backoffSecs := bumpBackoff intent.backoffSecs }))) ∨
      (view.hasSession = false ∧ intent.online = true ∧
        intent.attempts = maxConnectAttempts ∧
        passEffect view now intent = .entry (.gaveUp now) ∧
        driveIntent view now intent =
          { intent with attempts := maxConnectAttempts + 1 }) := by
  unfold passEffect driveIntent
  cases hsession : view.hasSession with
  | true =>
      have haction : nextRetryAction intent true now = .done := rfl
      simp only [haction]
      split
      · exact Or.inr (Or.inl ⟨rfl, rfl⟩)
      · exact Or.inl ⟨rfl, rfl⟩
  | false =>
      cases haction : nextRetryAction intent false now with
      | done => exact absurd haction (nextRetryAction_free_ne_done intent now)
      | wait => exact Or.inl ⟨rfl, rfl⟩
      | punch =>
          obtain ⟨_, hlow, hdue⟩ := (nextRetryAction_eq_punch intent now).mp
            haction
          refine Or.inr (Or.inr (Or.inl ⟨hlow, hdue, ?_⟩))
          cases view.sent with
          | true => exact Or.inl ⟨rfl, rfl⟩
          | false => exact Or.inr ⟨rfl, rfl⟩
      | giveUp =>
          obtain ⟨honline, hlast⟩ := (nextRetryAction_eq_giveUp intent
            now).mp haction
          exact Or.inr (Or.inr (Or.inr ⟨rfl, honline, hlast, rfl, rfl⟩))

/-! ## All intents -/

/-- The ladders of a peer, the current one first: a reset begins a new one. -/
abbrev Ladders := List (List LadderEntry)

def Ladders.add (ladders : Ladders) (entry : LadderEntry) : Ladders :=
  match ladders with
  | [] => [[entry]]
  | current :: earlier => (current ++ [entry]) :: earlier

def Ladders.after (ladders : Ladders) : PassEffect → Ladders
  | .none => ladders
  | .reset => [] :: ladders
  | .entry entry => ladders.add entry

structure RetryState where
  clock : ℕ
  intents : KeyType → Option ConnectIntent
  ladders : KeyType → Ladders
  events : KeyType → List AppEvent

def RetryState.initial : RetryState :=
  ⟨0, fun _ => none, fun _ => [], fun _ => []⟩

/-- Each step says how much time has passed since the one before it. -/
inductive RetryLabel where
  | tick (elapsed : ℕ) (views : KeyType → TickView)
  | serverEvent (elapsed : ℕ) (event : ServerEvent)
  | connect (elapsed : ℕ) (peer : KeyType) (known hasSession online : Bool)
  | forget (elapsed : ℕ) (peer : KeyType)

/-- One pass of `drive_retries`.  The intents do not depend on each other, so
neither does the result on the order in which the map is iterated. -/
def driveRetries (state : RetryState) (now : ℕ)
    (views : KeyType → TickView) : RetryState where
  clock := now
  intents := fun peer => (state.intents peer).map (driveIntent (views peer) now)
  ladders := fun peer =>
    match state.intents peer with
    | none => state.ladders peer
    | some intent =>
        (state.ladders peer).after (passEffect (views peer) now intent)
  events := fun peer =>
    match state.intents peer with
    | none => state.events peer
    | some intent =>
        state.events peer ++ driveRetryEvents peer (views peer).hasSession now
          (views peer).sent intent

/-- `handle_server_event` rearms a parked intent when its peer comes online. -/
def eventEffect (event : ServerEvent) (peer : KeyType)
    (intent : ConnectIntent) : PassEffect :=
  match event with
  | .peerOnline hash _ =>
      if hash = peer ∧ intent.parked then .reset else .none
  | _ => .none

def retryStep (state : RetryState) : RetryLabel → Option RetryState
  | .tick elapsed views =>
      some (driveRetries state (state.clock + elapsed) views)
  | .serverEvent elapsed event =>
      let now := state.clock + elapsed
      some
        { state with
          clock := now
          intents := fun peer =>
            (state.intents peer).map (intentAfterEvent now event peer)
          ladders := fun peer =>
            match state.intents peer with
            | none => state.ladders peer
            | some intent =>
                (state.ladders peer).after (eventEffect event peer intent) }
  | .connect elapsed peer known hasSession online =>
      let now := state.clock + elapsed
      if known && !hasSession then
        some
          { state with
            clock := now
            intents := Function.update state.intents peer
              (some (.armed online now))
            ladders := Function.update state.ladders peer
              ([] :: state.ladders peer) }
      else
        some { state with clock := now }
  | .forget elapsed peer =>
      some
        { state with
          clock := state.clock + elapsed
          intents := Function.update state.intents peer none }

/-! ## The discipline -/

def LadderEntry.isPunch : LadderEntry → Bool
  | .tried _ sent _ _ => sent
  | .gaveUp _ => false

/-- The punches that left the client. -/
def punchesSent (ladder : List LadderEntry) : ℕ :=
  ladder.countP LadderEntry.isPunch

/-- The second try waits for the delay of the first one, and its own delay is
not shorter. -/
def Spaced : LadderEntry → LadderEntry → Prop
  | .tried time _ _ delay, .tried later _ _ laterDelay =>
      time + fromSecs delay ≤ later ∧ delay ≤ laterDelay
  | _, _ => True

structure Disciplined (ladder : List LadderEntry) : Prop where
  numbered : ∀ before time sent number delay after,
    ladder = before ++ .tried time sent number delay :: after →
      number = punchesSent before + (if sent then 1 else 0)
  bounded : punchesSent ladder ≤ maxConnectAttempts
  spaced : ladder.Pairwise Spaced
  gaveUpLast : ∀ before time after,
    ladder = before ++ .gaveUp time :: after →
      punchesSent before = maxConnectAttempts ∧ after = []

/-- What the interface was told about a ladder. -/
def LadderEntry.event (peer : KeyType) : LadderEntry → Option AppEvent
  | .tried _ true number delay => some (.connectRetrying peer number delay)
  | .tried _ false _ _ => none
  | .gaveUp _ => some (.connectGaveUp peer)

def Ladders.events (peer : KeyType) (ladders : Ladders) : List AppEvent :=
  ladders.reverse.flatten.filterMap (LadderEntry.event peer)

/-! ## One more entry -/

theorem append_singleton_eq_append_cons
    {α : Type} {front before after : List α} {last item : α} :
    front ++ [last] = before ++ item :: after ↔
      (front = before ∧ last = item ∧ after = []) ∨
        ∃ rest, after = rest ++ [last] ∧ front = before ++ item :: rest := by
  constructor
  · intro heq
    rcases after.eq_nil_or_concat' with rfl | ⟨rest, final, rfl⟩
    · obtain ⟨hfront, hlast⟩ := List.append_inj' heq rfl
      exact Or.inl ⟨hfront, List.singleton_inj.mp hlast, rfl⟩
    · rw [← List.cons_append, ← List.append_assoc] at heq
      obtain ⟨hfront, hlast⟩ := List.append_inj' heq rfl
      cases List.singleton_inj.mp hlast
      exact Or.inr ⟨rest, rfl, hfront⟩
  · rintro (⟨rfl, rfl, rfl⟩ | ⟨rest, rfl, rfl⟩)
    · rfl
    · simp

section Discipline

variable {ladder : List LadderEntry}

@[simp] theorem punchesSent_append_tried
    (time : ℕ) (sent : Bool) (number delay : ℕ) :
    punchesSent (ladder ++ [.tried time sent number delay]) =
      punchesSent ladder + (if sent then 1 else 0) := by
  cases sent <;> simp [punchesSent, LadderEntry.isPunch]

@[simp] theorem punchesSent_append_gaveUp (time : ℕ) :
    punchesSent (ladder ++ [.gaveUp time]) = punchesSent ladder := by
  simp [punchesSent, LadderEntry.isPunch]

theorem Disciplined.nil : Disciplined [] where
  numbered := by simp
  bounded := by simp [punchesSent]
  spaced := .nil
  gaveUpLast := by simp

theorem Disciplined.append_tried
    (hladder : Disciplined ladder) (hopen : ∀ time, .gaveUp time ∉ ladder)
    {time delay : ℕ} {sent : Bool}
    (hbounded : punchesSent ladder < maxConnectAttempts)
    (hspaced : ∀ entry ∈ ladder, ∀ number,
      Spaced entry (.tried time sent number delay)) :
    Disciplined (ladder ++ [.tried time sent
      (punchesSent ladder + if sent then 1 else 0) delay]) where
  numbered := by
    intro before earlier wasSent number earlierDelay after heq
    obtain ⟨rfl, hentry, rfl⟩ | ⟨rest, rfl, hfront⟩ :=
      append_singleton_eq_append_cons.mp heq
    · cases hentry
      rfl
    · exact hladder.numbered _ _ _ _ _ _ hfront
  bounded := by
    rw [punchesSent_append_tried]
    split <;> omega
  spaced := by
    rw [List.pairwise_append]
    refine ⟨hladder.spaced, List.pairwise_singleton _ _, ?_⟩
    intro entry hentry last hlast
    rw [List.mem_singleton.mp hlast]
    exact hspaced entry hentry _
  gaveUpLast := by
    intro before gaveUpAt after heq
    obtain ⟨_, hentry, _⟩ | ⟨rest, rfl, hfront⟩ :=
      append_singleton_eq_append_cons.mp heq
    · cases hentry
    · exact absurd (by simp [hfront]) (hopen gaveUpAt)

theorem Disciplined.append_gaveUp
    (hladder : Disciplined ladder) (hopen : ∀ time, .gaveUp time ∉ ladder)
    (hlast : punchesSent ladder = maxConnectAttempts) (time : ℕ) :
    Disciplined (ladder ++ [.gaveUp time]) where
  numbered := by
    intro before earlier sent number delay after heq
    obtain ⟨_, hentry, _⟩ | ⟨rest, rfl, hfront⟩ :=
      append_singleton_eq_append_cons.mp heq
    · cases hentry
    · exact hladder.numbered _ _ _ _ _ _ hfront
  bounded := by
    rw [punchesSent_append_gaveUp]
    exact hladder.bounded
  spaced := by
    rw [List.pairwise_append]
    refine ⟨hladder.spaced, List.pairwise_singleton _ _, ?_⟩
    intro entry _ last hlast
    rw [List.mem_singleton.mp hlast]
    cases entry <;> trivial
  gaveUpLast := by
    intro before gaveUpAt after heq
    obtain ⟨rfl, _, rfl⟩ | ⟨rest, rfl, hfront⟩ :=
      append_singleton_eq_append_cons.mp heq
    · exact ⟨hlast, rfl⟩
    · exact absurd (by simp [hfront]) (hopen gaveUpAt)

/-! ## The intent and its ladder -/

/-- The counter, the delay and the deadline follow from the ladder. -/
structure Tracks (intent : ConnectIntent) (ladder : List LadderEntry) :
    Prop where
  disciplined : Disciplined ladder
  open_iff : (∀ time, .gaveUp time ∉ ladder) ↔ intent.attempts ≤
    maxConnectAttempts
  attempts : intent.attempts ≤ maxConnectAttempts →
    intent.attempts = punchesSent ladder
  parked : intent.attempts ≤ maxConnectAttempts + 1
  backoff : 1 ≤ intent.backoffSecs ∧ intent.backoffSecs ≤ retryBackoffCapSecs
  tries : ∀ time sent number delay, .tried time sent number delay ∈ ladder →
    time + fromSecs delay ≤ intent.dueAt ∧ delay ≤ intent.backoffSecs
  last : intent.attempts = maxConnectAttempts →
    ∃ time delay, .tried time true maxConnectAttempts delay ∈ ladder ∧
      intent.dueAt = time + fromSecs delay

theorem Tracks.reset {intent : ConnectIntent}
    (hattempts : intent.attempts = 0) (hbackoff : intent.backoffSecs = 1) :
    Tracks intent [] where
  disciplined := .nil
  open_iff := by simp [hattempts]
  attempts := by simp [hattempts, punchesSent]
  parked := by simp [hattempts]
  backoff := by simp [hbackoff, retryBackoffCapSecs]
  tries := by simp
  last := by simp [hattempts, maxConnectAttempts]

theorem Tracks.setOnline {intent : ConnectIntent}
    (htracks : Tracks intent ladder) (online : Bool) :
    Tracks { intent with online := online } ladder :=
  ⟨htracks.disciplined, htracks.open_iff, htracks.attempts, htracks.parked,
    htracks.backoff, htracks.tries, htracks.last⟩

theorem bumpBackoff_bounds {secs : ℕ}
    (hsecs : 1 ≤ secs ∧ secs ≤ retryBackoffCapSecs) :
    secs ≤ bumpBackoff secs ∧ bumpBackoff secs ≤ retryBackoffCapSecs := by
  simp only [bumpBackoff, retryBackoffCapSecs] at hsecs ⊢
  omega

/-- The new try comes after the deadline and takes the current delay. -/
theorem Tracks.append_tried
    {intent next : ConnectIntent} (htracks : Tracks intent ladder)
    (hlow : intent.attempts < maxConnectAttempts) {now : ℕ}
    (hdue : intent.dueAt ≤ now) {sent : Bool}
    (hattempts : next.attempts = intent.attempts + if sent then 1 else 0)
    (hdueAt : next.dueAt = now + fromSecs intent.backoffSecs)
    (hbackoff : next.backoffSecs = bumpBackoff intent.backoffSecs) :
    Tracks next (ladder ++ [.tried now sent next.attempts
      intent.backoffSecs]) := by
  have hopen := htracks.open_iff.mpr (by omega)
  have hpunches := htracks.attempts (by omega)
  have hnumber : next.attempts =
      punchesSent ladder + if sent then 1 else 0 := by
    rw [hattempts, hpunches]
  have hnext : next.attempts ≤ maxConnectAttempts := by
    rw [hattempts]
    split <;> omega
  have hbounds := bumpBackoff_bounds htracks.backoff
  rw [← hbackoff] at hbounds
  have htries : ∀ time wasSent number delay,
      .tried time wasSent number delay ∈
          ladder ++ [.tried now sent next.attempts intent.backoffSecs] →
        time + fromSecs delay ≤ next.dueAt ∧ delay ≤ next.backoffSecs := by
    intro time wasSent number delay hmem
    rcases List.mem_append.mp hmem with hmem | hmem
    · obtain ⟨htime, hdelay⟩ := htracks.tries _ _ _ _ hmem
      rw [hdueAt]
      constructor <;> omega
    · cases List.mem_singleton.mp hmem
      rw [hdueAt]
      exact ⟨le_refl _, hbounds.1⟩
  constructor
  case disciplined =>
    rw [hnumber]
    refine htracks.disciplined.append_tried hopen (by omega) ?_
    intro entry hentry number
    cases entry with
    | gaveUp time => trivial
    | tried time wasSent earlier delay =>
        obtain ⟨htime, hdelay⟩ := htracks.tries _ _ _ _ hentry
        exact ⟨htime.trans hdue, hdelay⟩
  case open_iff =>
    refine iff_of_true ?_ hnext
    intro time hmem
    rcases List.mem_append.mp hmem with hmem | hmem
    · exact hopen time hmem
    · cases List.mem_singleton.mp hmem
  case attempts =>
    intro _
    rw [punchesSent_append_tried, hnumber]
  case parked => omega
  case backoff => exact ⟨htracks.backoff.1.trans hbounds.1, hbounds.2⟩
  case tries => exact htries
  case last =>
    intro hlast
    cases sent with
    | true =>
        refine ⟨now, intent.backoffSecs, ?_, hdueAt⟩
        rw [← hlast]
        simp
    | false =>
        simp only [Bool.false_eq_true, if_false] at hattempts
        omega

theorem Tracks.append_gaveUp
    {intent : ConnectIntent} (htracks : Tracks intent ladder)
    (hlast : intent.attempts = maxConnectAttempts) (now : ℕ) :
    Tracks { intent with attempts := maxConnectAttempts + 1 }
      (ladder ++ [.gaveUp now]) where
  disciplined := by
    have hpunches := htracks.attempts (by omega)
    exact htracks.disciplined.append_gaveUp
      (htracks.open_iff.mpr (by omega)) (by omega) now
  open_iff := by
    constructor
    · intro hopen
      exact absurd (by simp) (hopen now)
    · intro hattempts
      simp at hattempts
  attempts := by simp
  parked := le_refl _
  backoff := htracks.backoff
  tries := by
    intro time sent number delay hmem
    rcases List.mem_append.mp hmem with hmem | hmem
    · exact htracks.tries _ _ _ _ hmem
    · cases List.mem_singleton.mp hmem
  last := by simp

end Discipline

/-! ## The invariant of a peer -/

def PassEffect.events (peer : KeyType) : PassEffect → List AppEvent
  | .entry made => (made.event peer).toList
  | .none => []
  | .reset => []

theorem driveRetryEvents_eq
    (peer : KeyType) (view : TickView) (now : ℕ) (intent : ConnectIntent) :
    driveRetryEvents peer view.hasSession now view.sent intent =
      (passEffect view now intent).events peer := by
  unfold driveRetryEvents passEffect
  cases nextRetryAction intent view.hasSession now with
  | done =>
      simp only
      split <;> rfl
  | punch => cases view.sent <;> rfl
  | giveUp => rfl
  | wait => rfl

theorem Ladders.events_after
    (peer : KeyType) {current : List LadderEntry} {earlier : Ladders}
    (effect : PassEffect) :
    Ladders.events peer (Ladders.after (current :: earlier) effect) =
      Ladders.events peer (current :: earlier) ++ effect.events peer := by
  cases effect with
  | none => simp [Ladders.after, PassEffect.events]
  | reset => simp [Ladders.after, PassEffect.events, Ladders.events]
  | entry entry =>
      simp only [Ladders.after, Ladders.add, PassEffect.events,
        Ladders.events, List.reverse_cons, List.flatten_append,
        List.filterMap_append, List.append_assoc]
      cases hevent : entry.event peer <;> simp [hevent]

structure PeerInvariant (peer : KeyType) (intent : Option ConnectIntent)
    (ladders : Ladders) (events : List AppEvent) : Prop where
  disciplined : ∀ ladder ∈ ladders, Disciplined ladder
  tracks : ∀ armed, intent = some armed →
    ∃ current earlier, ladders = current :: earlier ∧ Tracks armed current
  reported : events = Ladders.events peer ladders

section Peer

variable {peer : KeyType} {ladders : Ladders} {events : List AppEvent}

/-- A reset begins a ladder on which nothing has happened. -/
theorem PeerInvariant.reset
    {intent : Option ConnectIntent}
    (hinv : PeerInvariant peer intent ladders events) {armed : ConnectIntent}
    (hattempts : armed.attempts = 0) (hbackoff : armed.backoffSecs = 1) :
    PeerInvariant peer (some armed) ([] :: ladders) events where
  disciplined := by
    intro ladder hladder
    rcases List.mem_cons.mp hladder with rfl | hladder
    · exact .nil
    · exact hinv.disciplined ladder hladder
  tracks := by
    intro other hother
    cases hother
    exact ⟨[], ladders, rfl, .reset hattempts hbackoff⟩
  reported := by
    rw [hinv.reported]
    simp [Ladders.events]

theorem PeerInvariant.forget
    {intent : Option ConnectIntent}
    (hinv : PeerInvariant peer intent ladders events) :
    PeerInvariant peer none ladders events :=
  ⟨hinv.disciplined, by simp, hinv.reported⟩

/-- An entry that keeps the intent and its ladder together. -/
theorem PeerInvariant.entry
    {current : List LadderEntry} {earlier : Ladders}
    (hladders : ∀ ladder ∈ earlier, Disciplined ladder)
    (hevents : events = Ladders.events peer (current :: earlier))
    {next : ConnectIntent} {entry : LadderEntry}
    (htracks : Tracks next (current ++ [entry])) :
    PeerInvariant peer (some next)
      (Ladders.after (current :: earlier) (.entry entry))
      (events ++ PassEffect.events peer (.entry entry)) where
  disciplined := by
    intro ladder hladder
    rcases List.mem_cons.mp hladder with rfl | hladder
    · exact htracks.disciplined
    · exact hladders ladder hladder
  tracks := by
    intro other hother
    cases hother
    exact ⟨_, earlier, rfl, htracks⟩
  reported := by rw [Ladders.events_after, hevents]

theorem PeerInvariant.pass
    {intent : ConnectIntent}
    (hinv : PeerInvariant peer (some intent) ladders events)
    (view : TickView) (now : ℕ) :
    PeerInvariant peer (some (driveIntent view now intent))
      (ladders.after (passEffect view now intent))
      (events ++ driveRetryEvents peer view.hasSession now view.sent
        intent) := by
  rw [driveRetryEvents_eq]
  obtain ⟨current, earlier, rfl, htracks⟩ := hinv.tracks intent rfl
  have hearlier : ∀ ladder ∈ earlier, Disciplined ladder := by
    intro ladder hladder
    exact hinv.disciplined ladder (List.mem_cons_of_mem _ hladder)
  have hdelay : max intent.backoffSecs 1 = intent.backoffSecs :=
    max_eq_left htracks.backoff.1
  rcases driveIntent_cases view now intent with
    ⟨heffect, hnext⟩ | ⟨heffect, hnext⟩ | ⟨hlow, hdue, htry⟩ |
      ⟨_, _, hlast, heffect, hnext⟩
  · rw [heffect, hnext, PassEffect.events, List.append_nil]
    exact hinv
  · rw [heffect, hnext, PassEffect.events, List.append_nil]
    exact hinv.reset rfl rfl
  · rcases htry with ⟨heffect, hnext⟩ | ⟨heffect, hnext⟩
    · rw [heffect, hnext]
      exact .entry hearlier hinv.reported
        (htracks.append_tried hlow hdue rfl rfl rfl)
    · rw [heffect, hnext, hdelay]
      exact .entry hearlier hinv.reported
        (htracks.append_tried hlow hdue rfl rfl rfl)
  · rw [heffect, hnext]
    exact .entry hearlier hinv.reported (htracks.append_gaveUp hlast now)

theorem PeerInvariant.serverEvent
    {intent : ConnectIntent}
    (hinv : PeerInvariant peer (some intent) ladders events)
    (now : ℕ) (event : ServerEvent) :
    PeerInvariant peer (some (intentAfterEvent now event peer intent))
      (ladders.after (eventEffect event peer intent)) events := by
  have hsetOnline (online : Bool) : PeerInvariant peer
      (some { intent with online := online }) ladders events := by
    refine ⟨hinv.disciplined, ?_, hinv.reported⟩
    intro other hother
    cases hother
    obtain ⟨current, earlier, hladders, htracks⟩ := hinv.tracks intent rfl
    exact ⟨current, earlier, hladders, htracks.setOnline online⟩
  cases event with
  | peerOnline hash ipPort =>
      simp only [intentAfterEvent, eventEffect]
      by_cases hhash : hash = peer
      · by_cases hparked : intent.parked
        · have honline : ConnectIntent.parked { intent with online := true } :=
            hparked
          rw [if_pos hhash, if_pos honline, if_pos ⟨hhash, hparked⟩]
          exact hinv.reset rfl rfl
        · have honline :
              ¬ ConnectIntent.parked { intent with online := true } := hparked
          rw [if_pos hhash, if_neg honline,
            if_neg fun hboth => hparked hboth.2]
          exact hsetOnline true
      · rw [if_neg hhash, if_neg fun hboth => hhash hboth.1]
        exact hinv
  | peerOffline hash =>
      simp only [intentAfterEvent, eventEffect]
      split
      · exact hsetOnline false
      · exact hinv
  | authenticated | punchHole | holePunchDenied | blobStored | relayData
  | disconnected => exact hinv

end Peer

/-! ## Runs -/

def RetryInvariant (state : RetryState) : Prop :=
  ∀ peer, PeerInvariant peer (state.intents peer) (state.ladders peer)
    (state.events peer)

theorem RetryInvariant.initial : RetryInvariant .initial := by
  intro peer
  exact ⟨by simp [RetryState.initial], by simp [RetryState.initial], rfl⟩

theorem RetryInvariant.driveRetries
    {state : RetryState} (hinv : RetryInvariant state) (now : ℕ)
    (views : KeyType → TickView) :
    RetryInvariant (driveRetries state now views) := by
  intro peer
  have hpeer := hinv peer
  simp only [SechatClient.driveRetries]
  cases hintent : state.intents peer with
  | none =>
      rw [hintent] at hpeer
      exact hpeer
  | some intent =>
      rw [hintent] at hpeer
      exact hpeer.pass (views peer) now

theorem RetryInvariant.step
    {state next : RetryState} (hinv : RetryInvariant state)
    {label : RetryLabel} (hstep : retryStep state label = some next) :
    RetryInvariant next := by
  cases label with
  | tick elapsed views =>
      cases hstep
      exact hinv.driveRetries _ views
  | serverEvent elapsed event =>
      cases hstep
      intro peer
      have hpeer := hinv peer
      cases hintent : state.intents peer with
      | none =>
          rw [hintent] at hpeer
          simpa [hintent] using hpeer
      | some intent =>
          rw [hintent] at hpeer
          simpa [hintent] using
            hpeer.serverEvent (state.clock + elapsed) event
  | connect elapsed peer known hasSession online =>
      simp only [retryStep] at hstep
      split at hstep
      · cases hstep
        intro other
        by_cases hother : other = peer
        · subst hother
          have hreset : PeerInvariant other
              (some (.armed online (state.clock + elapsed)))
              ([] :: state.ladders other) (state.events other) :=
            (hinv other).reset rfl rfl
          simpa using hreset
        · simpa [Function.update_of_ne hother] using hinv other
      · cases hstep
        exact hinv
  | forget elapsed peer =>
      cases hstep
      intro other
      by_cases hother : other = peer
      · subst hother
        simpa using (hinv other).forget
      · simpa [Function.update_of_ne hother] using hinv other

theorem retryInvariant_of_run
    {labels : List RetryLabel} {final : RetryState}
    (hrun : runFrom retryStep .initial labels = some final) :
    RetryInvariant final :=
  runFrom_invariant RetryInvariant
    (fun _ _ _ hstate hstep => hstate.step hstep) .initial hrun

/-- In every run the counters of an intent stay in their bounds, and what
happens between two resets is disciplined: the punches are numbered from 1 on,
a failed try does not count, every try waits for the delay of the tries before
it, the delays do not decrease, and `ConnectGaveUp` comes once at most, behind
the last of `MAX_CONNECT_ATTEMPTS` punches and before no other try.  The
interface is told exactly this. -/
theorem retry_ladder_disciplined
    {labels : List RetryLabel} {final : RetryState}
    (hrun : runFrom retryStep .initial labels = some final)
    (peer : KeyType) :
    (∀ intent, final.intents peer = some intent →
        intent.attempts ≤ maxConnectAttempts + 1 ∧
          1 ≤ intent.backoffSecs ∧
          intent.backoffSecs ≤ retryBackoffCapSecs) ∧
      (∀ ladder ∈ final.ladders peer, Disciplined ladder) ∧
      final.events peer = Ladders.events peer (final.ladders peer) := by
  have hpeer := retryInvariant_of_run hrun peer
  refine ⟨?_, hpeer.disciplined, hpeer.reported⟩
  intro intent hintent
  obtain ⟨current, earlier, _, htracks⟩ := hpeer.tracks intent hintent
  exact ⟨htracks.parked, htracks.backoff⟩

/-! ## The delay of the last punch -/

/-- `ConnectGaveUp` waits for the delay reported with the last punch. -/
def GivesUpInTime (ladder : List LadderEntry) : Prop :=
  ∀ time delay gaveUpAt, .tried time true maxConnectAttempts delay ∈ ladder →
    .gaveUp gaveUpAt ∈ ladder → time + fromSecs delay ≤ gaveUpAt

theorem givesUpInTime_of_open
    {ladder : List LadderEntry} (hopen : ∀ time, .gaveUp time ∉ ladder) :
    GivesUpInTime ladder := by
  intro time delay gaveUpAt _ hgaveUp
  exact absurd hgaveUp (hopen gaveUpAt)

/-- No tick finds an intent with all punches sent, its peer online and free,
before the deadline. -/
def TicksAfterDelay (state : RetryState) : RetryLabel → Prop
  | .tick elapsed views =>
      ∀ peer intent, state.intents peer = some intent →
        intent.attempts = maxConnectAttempts → intent.online = true →
        (views peer).hasSession = false →
        intent.dueAt ≤ state.clock + elapsed
  | _ => True

theorem givesUpInTime_append_gaveUp_iff
    {intent : ConnectIntent} {ladder : List LadderEntry}
    (htracks : Tracks intent ladder)
    (hlast : intent.attempts = maxConnectAttempts) (now : ℕ) :
    GivesUpInTime (ladder ++ [.gaveUp now]) ↔ intent.dueAt ≤ now := by
  have hopen := htracks.open_iff.mpr (by omega)
  constructor
  · intro htime
    obtain ⟨time, delay, hpunch, hdueAt⟩ := htracks.last hlast
    rw [hdueAt]
    exact htime time delay now (by simp [hpunch]) (by simp)
  · intro hdue time delay gaveUpAt hpunch hgaveUp
    have hnow : gaveUpAt = now := by
      rcases List.mem_append.mp hgaveUp with hgaveUp | hgaveUp
      · exact absurd hgaveUp (hopen gaveUpAt)
      · cases List.mem_singleton.mp hgaveUp
        rfl
    have hmem : .tried time true maxConnectAttempts delay ∈ ladder := by
      simpa using hpunch
    rw [hnow]
    exact (htracks.tries _ _ _ _ hmem).1.trans hdue

/-- Exactly a pass that gives up before the deadline breaks it. -/
theorem givesUpInTime_pass_iff
    {peer : KeyType} {intent : ConnectIntent} {ladders : Ladders}
    {events : List AppEvent}
    (hinv : PeerInvariant peer (some intent) ladders events)
    (htime : ∀ ladder ∈ ladders, GivesUpInTime ladder) (view : TickView)
    (now : ℕ) :
    (∀ ladder ∈ ladders.after (passEffect view now intent),
        GivesUpInTime ladder) ↔
      (intent.attempts = maxConnectAttempts → intent.online = true →
        view.hasSession = false → intent.dueAt ≤ now) := by
  obtain ⟨current, earlier, rfl, htracks⟩ := hinv.tracks intent rfl
  have hearlier : ∀ ladder ∈ earlier, GivesUpInTime ladder := by
    intro ladder hladder
    exact htime ladder (List.mem_cons_of_mem _ hladder)
  by_cases hgives : intent.attempts = maxConnectAttempts ∧
      intent.online = true ∧ view.hasSession = false
  · obtain ⟨hlast, honline, hfree⟩ := hgives
    have heffect : passEffect view now intent = .entry (.gaveUp now) := by
      unfold passEffect
      rw [hfree, (nextRetryAction_eq_giveUp intent now).mpr ⟨honline, hlast⟩]
    rw [heffect]
    simp only [Ladders.after, Ladders.add, List.forall_mem_cons]
    rw [givesUpInTime_append_gaveUp_iff htracks hlast]
    constructor
    · intro hboth _ _ _
      exact hboth.1
    · intro hdue
      exact ⟨hdue hlast honline hfree, hearlier⟩
  · refine iff_of_true ?_ fun hlast honline hfree =>
      absurd ⟨hlast, honline, hfree⟩ hgives
    rcases driveIntent_cases view now intent with
      ⟨heffect, _⟩ | ⟨heffect, _⟩ | ⟨hlow, _, htry⟩ |
        ⟨hfree, honline, hlast, _, _⟩
    · rw [heffect]
      exact htime
    · rw [heffect]
      simp only [Ladders.after, List.forall_mem_cons]
      exact ⟨givesUpInTime_of_open (by simp), List.forall_mem_cons.mp htime⟩
    · have hopen := htracks.open_iff.mpr (by omega)
      rcases htry with ⟨heffect, _⟩ | ⟨heffect, _⟩ <;>
        rw [heffect] <;>
        simp only [Ladders.after, Ladders.add, List.forall_mem_cons] <;>
        exact ⟨givesUpInTime_of_open (by simpa using hopen), hearlier⟩
    · exact absurd ⟨hlast, honline, hfree⟩ hgives

def AllGiveUpInTime (state : RetryState) : Prop :=
  ∀ peer, ∀ ladder ∈ state.ladders peer, GivesUpInTime ladder

theorem retryStep_inTime_iff
    {state next : RetryState} (hinv : RetryInvariant state)
    (htime : AllGiveUpInTime state) {label : RetryLabel}
    (hstep : retryStep state label = some next) :
    AllGiveUpInTime next ↔ TicksAfterDelay state label := by
  cases label with
  | tick elapsed views =>
      cases hstep
      have hpeer (peer : KeyType) (intent : ConnectIntent)
          (hintent : state.intents peer = some intent) :=
        givesUpInTime_pass_iff (hintent ▸ hinv peer) (htime peer) (views peer)
          (state.clock + elapsed)
      constructor
      · intro hnext peer intent hintent
        apply (hpeer peer intent hintent).mp
        simpa [driveRetries, hintent] using hnext peer
      · intro hdelay peer
        cases hintent : state.intents peer with
        | none => simpa [driveRetries, hintent] using htime peer
        | some intent =>
            simpa [driveRetries, hintent] using
              (hpeer peer intent hintent).mpr (hdelay peer intent hintent)
  | serverEvent elapsed event =>
      cases hstep
      refine iff_of_true ?_ trivial
      intro peer
      cases hintent : state.intents peer with
      | none => simpa [hintent] using htime peer
      | some intent =>
          have hreset : ∀ ladder ∈ ([] : List LadderEntry) ::
              state.ladders peer, GivesUpInTime ladder := by
            rw [List.forall_mem_cons]
            exact ⟨givesUpInTime_of_open (by simp), htime peer⟩
          simp only [hintent]
          cases event with
          | peerOnline hash ipPort =>
              simp only [eventEffect]
              split
              · exact hreset
              · exact htime peer
          | _ => exact htime peer
  | connect elapsed peer known hasSession online =>
      refine iff_of_true ?_ trivial
      simp only [retryStep] at hstep
      split at hstep
      · cases hstep
        intro other
        by_cases hother : other = peer
        · subst hother
          simp only [Function.update_self, List.forall_mem_cons]
          exact ⟨givesUpInTime_of_open (by simp), htime other⟩
        · simpa [Function.update_of_ne hother] using htime other
      · cases hstep
        exact htime
  | forget elapsed peer =>
      cases hstep
      exact iff_of_true htime trivial

/-- In every state of a run `ConnectGaveUp` came after the delay reported with
the last punch exactly if no tick found an intent with all punches sent, its
peer online and free, before its deadline. -/
theorem gives_up_after_delay_iff (labels : List RetryLabel) :
    (∀ first state, first <+: labels →
        runFrom retryStep .initial first = some state →
        AllGiveUpInTime state) ↔
      AllSteps retryStep TicksAfterDelay .initial labels := by
  have hboth : (∀ first state, first <+: labels →
        runFrom retryStep .initial first = some state →
        RetryInvariant state ∧ AllGiveUpInTime state) ↔
      AllSteps retryStep TicksAfterDelay .initial labels := by
    apply invariant_along_iff_allSteps fun state =>
      RetryInvariant state ∧ AllGiveUpInTime state
    · intro state label
      cases label with
      | tick | serverEvent | forget => exact ⟨_, rfl⟩
      | connect elapsed peer known hasSession online =>
          simp only [retryStep]
          split <;> exact ⟨_, rfl⟩
    · rintro state label next ⟨hinv, htime⟩ hstep
      rw [← retryStep_inTime_iff hinv htime hstep]
      exact and_iff_right (hinv.step hstep)
    · exact ⟨.initial, by simp [AllGiveUpInTime, RetryState.initial]⟩
  rw [← hboth]
  constructor
  · intro htime first state hprefix hrun
    exact ⟨retryInvariant_of_run hrun, htime first state hprefix hrun⟩
  · intro hall first state hprefix hrun
    exact (hall first state hprefix hrun).2

/-! ## Five punches -/

def freeTick (elapsed : ℕ) : RetryLabel :=
  .tick elapsed fun _ => ⟨false, true, 0⟩

/-- A `Connect` command and the five punches, each sent as soon as it is due;
then one more tick. -/
def fivePunches (waited : ℕ) : List RetryLabel :=
  [.connect 0 samplePeer true false true, freeTick 0, freeTick (fromSecs 1),
    freeTick (fromSecs 2), freeTick (fromSecs 4), freeTick (fromSecs 8),
    freeTick waited]

def fivePunchesLadder (gaveUpAt : ℕ) : List LadderEntry :=
  [.tried 0 true 1 1, .tried 1000000000 true 2 2, .tried 3000000000 true 3 4,
    .tried 7000000000 true 4 8, .tried 15000000000 true 5 16,
    .gaveUp gaveUpAt]

theorem fivePunches_ladders (waited : ℕ) :
    ∃ final, runFrom retryStep .initial (fivePunches waited) = some final ∧
      final.ladders samplePeer = [fivePunchesLadder (15000000000 + waited)] := by
  exact ⟨_, rfl, rfl⟩

theorem five_punches_disciplined :
    ∃ final, runFrom retryStep .initial (fivePunches (fromSecs 16)) =
        some final ∧
      final.ladders samplePeer = [fivePunchesLadder (fromSecs 31)] ∧
      Disciplined (fivePunchesLadder (fromSecs 31)) := by
  obtain ⟨final, hrun, hladders⟩ := fivePunches_ladders (fromSecs 16)
  refine ⟨final, hrun, hladders, ?_⟩
  apply (retry_ladder_disciplined hrun samplePeer).2.1
  rw [hladders]
  exact List.mem_singleton_self _

/-- The fifth punch reports a delay of 16 seconds; the tick half a second later
gives up. -/
theorem last_delay_not_waited :
    ∃ final, runFrom retryStep .initial (fivePunches 500000000) =
        some final ∧
      final.ladders samplePeer = [fivePunchesLadder 15500000000] ∧
      ¬ AllGiveUpInTime final := by
  obtain ⟨final, hrun, hladders⟩ := fivePunches_ladders 500000000
  refine ⟨final, hrun, hladders, ?_⟩
  intro htime
  have hladder := htime samplePeer (fivePunchesLadder 15500000000) (by
    rw [hladders]
    exact List.mem_singleton_self _)
  have hdelay := hladder 15000000000 16 15500000000 (by decide) (by decide)
  exact absurd hdelay (by decide)

end SechatClient
