import SechatClient.ConnectReservations
import SechatClient.InnerLoop

/-!
# What the inner loop refines

The retry machine of `RetryState` drives all intents in one step and knows the
outcome of every request beforehand; the connect tasks of `connectStep` know
nothing of intents and commands.  Every run of the inner loop is a run of both:
a pass of `drive_retries` that is underway has driven some of the intents and
left the others as they were.
-/

namespace SechatClient

open ByteStrings StepSystem

/-! ## Commands -/

/-- The events that tell how the attempts to reach the peer go. -/
def AppEvent.retries (peer : KeyType) : AppEvent → Bool
  | .connectRetrying id _ _ => decide (id = peer)
  | .connectGaveUp id => decide (id = peer)
  | _ => false

section Commands

variable {P : Primitives} {messages : Codec Message}
  {blobs : Codec BlobPayload} {keys : Keys} {env : LoopEnv}
  {loop : CommandLoop} {result : LoopResult}

variable (P) in
/-- A `Connect` arms an intent. -/
def arms (loop : CommandLoop) (peer : KeyType) : Bool :=
  (loadPeerData P loop.peers peer).isOk && !(loop.sessionMap peer).isSome

variable (P env) in
def intentsAfter (loop : CommandLoop) :
    Command → KeyType → Option ConnectIntent
  | .connect peer =>
      if arms P loop peer then
        Function.update loop.intents peer (some (.armed
          (peerIsOnline P env.now loop.cache peer) env.instant))
      else
        loop.intents
  | .purge peer | .removePeer peer => Function.update loop.intents peer none
  | _ => loop.intents

/-- What a command does to the intents and sessions; it does not report
retries. -/
structure Obeyed (P : Primitives) (env : LoopEnv) (loop : CommandLoop)
    (cmd : Command) (result : LoopResult) : Prop where
  intents : result.loop.intents = intentsAfter P env loop cmd
  sessions : result.loop.sessionMap = loop.sessionMap ∨
    ∃ peer, result.loop.sessionMap =
      Function.update loop.sessionMap peer none
  silent : ∀ event ∈ result.emitted, ∀ peer, event.retries peer = false

theorem obeyed_send
    {peer : KeyType} {text : String} {sent : CommandResult}
    (hsend : handleSend P messages blobs keys env.toCommandEnv
      loop.toCommandState peer text = some sent) :
    Obeyed P env loop (.send peer text)
      ⟨{ loop with toCommandState := sent.state }, sent.emitted⟩ := by
  have hstored (state : CommandState) (peerPub : PeerPublic) :
      ∀ event ∈ (persistSent P messages keys env.toCommandEnv state peerPub
        peer text).emitted, ∀ other, event.retries other = false := by
    unfold persistSent
    intro event hevent other
    split at hevent
    · rw [List.mem_singleton.mp hevent]
      rfl
    · simp at hevent
  have hkept (state : CommandState) (peerPub : PeerPublic) :=
    (persistSent_channels P messages keys env state peerPub peer text).2.1
  unfold handleSend at hsend
  split at hsend
  next e _ =>
    cases hsend
    exact ⟨rfl, Or.inl rfl, by simp [AppEvent.retries]⟩
  next peerPub _ =>
    split at hsend
    next entry _ =>
      unfold sendOverSession at hsend
      split at hsend
      next => contradiction
      next channel accepted _ =>
        cases hsend
        refine ⟨rfl, ?_, hstored _ _⟩
        simp only [hkept]
        cases accepted with
        | true => exact Or.inl rfl
        | false => exact Or.inr ⟨peer, rfl⟩
    next =>
      unfold sendOffline at hsend
      split at hsend
      next =>
        cases hsend
        exact ⟨rfl, Or.inl rfl, by simp [AppEvent.retries]⟩
      next =>
        split at hsend
        next => contradiction
        next =>
          cases hsend
          exact ⟨rfl, Or.inl (hkept _ _), hstored _ _⟩

theorem obeyed_purge
    {peer : KeyType}
    (hresult : handlePurge P blobs keys env loop peer = some result) :
    Obeyed P env loop (.purge peer) result := by
  have hdropped (emitted : List AppEvent) (server : ServerChannel)
      (hemitted : ∀ event ∈ emitted, ∀ other, event.retries other = false) :
      Obeyed P env loop (.purge peer) (purgeLocally peer
        ((loop.dropSession peer).withServer server) emitted) := by
    refine ⟨rfl, Or.inr ⟨peer, rfl⟩, ?_⟩
    intro event hevent other
    rcases List.mem_append.mp hevent with hevent | hevent
    · exact hemitted event hevent other
    · rw [List.mem_singleton.mp hevent]
      rfl
  simp only [handlePurge] at hresult
  split at hresult
  next =>
    cases hresult
    exact ⟨rfl, Or.inr ⟨peer, rfl⟩, by simp [AppEvent.retries]⟩
  next =>
    split at hresult
    next e _ =>
      cases hresult
      exact hdropped _ (loop.dropSession peer).server
        (by simp [AppEvent.retries])
    next =>
      split at hresult
      next => contradiction
      next server _ _ =>
        cases hresult
        exact hdropped [] server (by simp)

theorem handleCommand_obeyed
    {cmd : Command}
    (hresult : handleCommand P messages blobs keys env loop cmd =
      some result) :
    Obeyed P env loop cmd result := by
  cases cmd with
  | connect peer =>
      simp only [handleCommand, Option.some.injEq] at hresult
      subst hresult
      unfold handleConnect
      cases hload : loadPeerData P loop.peers peer with
      | error e =>
          refine ⟨?_, Or.inl rfl, by simp [AppEvent.retries]⟩
          simp [intentsAfter, arms, hload, Except.isOk, Except.toBool]
      | ok peerPub =>
          cases hsession : (loop.sessionMap peer).isSome with
          | true =>
              refine ⟨?_, Or.inl rfl, by simp⟩
              simp [intentsAfter, arms, hsession]
          | false =>
              refine ⟨?_, Or.inl rfl, by simp⟩
              simp [intentsAfter, arms, hload, hsession, Except.isOk,
                Except.toBool]
  | setServer addr =>
      cases hresult
      exact ⟨rfl, Or.inl rfl, by simp⟩
  | shutdown =>
      cases hresult
      exact ⟨rfl, Or.inl rfl, by simp⟩
  | removePeer peer =>
      cases hresult
      exact ⟨rfl, Or.inr ⟨peer, rfl⟩, by simp [handleRemovePeer]⟩
  | announceNow =>
      simp only [handleCommand, handleAnnounceNow] at hresult
      split at hresult
      next =>
        cases hresult
        exact ⟨rfl, Or.inl rfl, by simp⟩
      next =>
        obtain ⟨server, -, rfl⟩ := Option.map_eq_some_iff.mp hresult
        exact ⟨rfl, Or.inl rfl, by simp⟩
  | purge peer => exact obeyed_purge hresult
  | send peer text =>
      obtain ⟨sent, hsent, rfl⟩ := Option.map_eq_some_iff.mp hresult
      exact obeyed_send hsent

end Commands

/-! ## One intent of a pass -/

/-- All entries in the order in which they were made. -/
def Ladders.entries (ladders : Ladders) : List LadderEntry :=
  ladders.reverse.flatten

def PassEffect.entries : PassEffect → List LadderEntry
  | .entry made => [made]
  | .none => []
  | .reset => []

theorem entries_after (ladders : Ladders) (effect : PassEffect) :
    (ladders.after effect).entries = ladders.entries ++ effect.entries := by
  cases effect with
  | none => simp [Ladders.after, PassEffect.entries]
  | reset => simp [Ladders.after, Ladders.entries, PassEffect.entries]
  | entry made =>
      cases ladders with
      | nil =>
          simp [Ladders.after, Ladders.add, Ladders.entries,
            PassEffect.entries]
      | cons current earlier =>
          simp [Ladders.after, Ladders.add, Ladders.entries,
            PassEffect.entries]

/-- What the interface was told of an entry, with the instant of the pass. -/
def LadderEntry.toldAt (peer : KeyType) :
    LadderEntry → Option (ℕ × AppEvent)
  | .tried time true number delay =>
      some (time, .connectRetrying peer number delay)
  | .tried _ false _ _ => none
  | .gaveUp time => some (time, .connectGaveUp peer)

/-- The call of `send_punch_request` of an entry: the instant of its pass, and
whether the request went out. -/
def LadderEntry.triedAt : LadderEntry → Option (ℕ × Bool)
  | .tried time sent _ _ => some (time, sent)
  | .gaveUp _ => none

theorem events_eq_map_toldAt (peer : KeyType) (ladders : Ladders) :
    Ladders.events peer ladders =
      (ladders.entries.filterMap (LadderEntry.toldAt peer)).map Prod.snd := by
  have hentry : ∀ entry : LadderEntry, entry.event peer =
      (entry.toldAt peer).map Prod.snd := by
    intro entry
    cases entry with
    | tried time sent number delay => cases sent <;> rfl
    | gaveUp time => rfl
  rw [List.map_filterMap]
  exact List.filterMap_congr fun entry _ => hentry entry

namespace InnerLoop

def toldOf (peer : KeyType) (state : InnerLoop) : List (ℕ × AppEvent) :=
  state.told.filter fun told => told.2.retries peer

def triesOf (peer : KeyType) (state : InnerLoop) : List (ℕ × Bool) :=
  (state.tries.filter fun made => decide (made.peer = peer)).map fun made =>
    (made.instant, made.request.isSome)

/-- The requests for the peer that went out. -/
def requestsTo (peer : KeyType) (state : InnerLoop) : ℕ :=
  (state.triesOf peer).countP Prod.snd

variable (peer other : KeyType) (state : InnerLoop) (instant : ℕ)

@[simp] theorem toldOf_setIntent (intent : ConnectIntent) :
    (state.setIntent other intent).toldOf peer = state.toldOf peer := rfl

@[simp] theorem triesOf_setIntent (intent : ConnectIntent) :
    (state.setIntent other intent).triesOf peer = state.triesOf peer := rfl

@[simp] theorem toldOf_tellAt (events : List AppEvent) :
    (state.tellAt instant events).toldOf peer = state.toldOf peer ++
      (events.filter (AppEvent.retries peer)).map
        fun event => (instant, event) := by
  simp only [toldOf, tellAt, List.filter_append, List.filter_map]
  rfl

@[simp] theorem triesOf_tellAt (events : List AppEvent) :
    (state.tellAt instant events).triesOf peer = state.triesOf peer := rfl

@[simp] theorem toldOf_afterRequest (result : PunchResult) :
    (state.afterRequest instant other result).toldOf peer =
      state.toldOf peer ++
        (result.emitted.filter (AppEvent.retries peer)).map
          fun event => (instant, event) :=
  toldOf_tellAt peer state instant result.emitted

@[simp] theorem triesOf_afterRequest (result : PunchResult) :
    (state.afterRequest instant other result).triesOf peer =
      state.triesOf peer ++
        if peer = other then [(instant, result.request.isSome)] else [] := by
  by_cases hpeer : peer = other
  · subst hpeer
    simp [triesOf, afterRequest, tellAt]
  · simp [triesOf, afterRequest, tellAt, hpeer, Ne.symm hpeer]

end InnerLoop

/-- The intent of one peer has been driven, with the given outcome of its
request. -/
structure Driven (env : RequestEnv) (instant : ℕ) (live : Bool)
    (peer : KeyType) (intent : ConnectIntent) (sent : Bool)
    (state next : InnerLoop) : Prop where
  intents : next.loop.intents = Function.update state.loop.intents peer
    (some (driveIntent ⟨live, sent, env.rearmDelay⟩ instant intent))
  told : ∀ other, next.toldOf other = state.toldOf other ++
    if other = peer then
      (passEffect ⟨live, sent, env.rearmDelay⟩ instant
        intent).entries.filterMap (LadderEntry.toldAt peer)
    else []
  tries : ∀ other, next.triesOf other = state.triesOf other ++
    if other = peer then
      (passEffect ⟨live, sent, env.rearmDelay⟩ instant
        intent).entries.filterMap LadderEntry.triedAt
    else []
  armed : next.armed = state.armed
  phase : next.phase = state.phase
  clock : next.clock = state.clock
  client : next.client = state.client

section Drive

variable {P : Primitives} {keys : Keys} {env : RequestEnv} {instant : ℕ}
  {live : Bool} {peer : KeyType} {intent : ConnectIntent}
  {state next : InnerLoop}

theorem sendPunchRequest_emitted
    {loop : CommandLoop} {result : PunchResult}
    (hresult : sendPunchRequest P keys env loop peer = some result)
    (other : KeyType) :
    result.emitted.filter (AppEvent.retries other) = [] := by
  unfold sendPunchRequest at hresult
  split at hresult
  next =>
    cases hresult
    rfl
  next =>
    simp only at hresult
    split at hresult
    · contradiction
    · cases hresult
      rfl
    · cases hresult
      rfl

theorem drive_driven
    (hdrive : state.drive P keys env instant live peer intent = some next)
    (hintent : state.loop.intents peer = some intent) :
    ∃ sent, Driven env instant live peer intent sent state next := by
  have hunchanged : Function.update state.loop.intents peer (some intent) =
      state.loop.intents := by
    rw [← hintent, Function.update_eq_self]
  unfold InnerLoop.drive at hdrive
  cases haction : nextRetryAction intent live instant with
  | done =>
      refine ⟨false, ?_⟩
      simp only [haction] at hdrive
      split at hdrive
      next hreset =>
        cases hdrive
        constructor <;>
          simp [InnerLoop.setIntent, InnerLoop.withIntents, InnerLoop.toldOf,
            InnerLoop.triesOf, driveIntent, passEffect, PassEffect.entries,
            haction, hreset]
      next hfresh =>
        cases hdrive
        constructor <;>
          simp [driveIntent, passEffect, PassEffect.entries, haction, hfresh,
            hunchanged]
  | punch =>
      simp only [haction] at hdrive
      obtain ⟨result, hresult, hnext⟩ := Option.map_eq_some_iff.mp hdrive
      have hsilent := sendPunchRequest_emitted hresult
      refine ⟨result.request.isSome, ?_⟩
      cases hrequest : result.request with
      | none =>
          simp only [hrequest, Option.isSome_none, Bool.false_eq_true,
            if_false] at hnext
          subst hnext
          constructor
          case told =>
            intro other
            simp [hsilent, passEffect, PassEffect.entries, LadderEntry.toldAt,
              haction]
          case tries =>
            intro other
            simp [hrequest, passEffect, PassEffect.entries,
              LadderEntry.triedAt, haction]
          all_goals
            simp [InnerLoop.setIntent, InnerLoop.withIntents,
              InnerLoop.afterRequest, InnerLoop.tellAt, driveIntent, haction]
      | some msg =>
          simp only [hrequest, Option.isSome_some, if_true] at hnext
          subst hnext
          constructor
          case told =>
            intro other
            by_cases hother : other = peer
            · subst hother
              simp [hsilent, passEffect, PassEffect.entries,
                LadderEntry.toldAt, haction, AppEvent.retries]
            · simp [hsilent, AppEvent.retries, hother, Ne.symm hother]
          case tries =>
            intro other
            simp [hrequest, passEffect, PassEffect.entries,
              LadderEntry.triedAt, haction]
          all_goals
            simp [InnerLoop.setIntent, InnerLoop.withIntents,
              InnerLoop.afterRequest, InnerLoop.tellAt, driveIntent, haction]
  | giveUp =>
      refine ⟨false, ?_⟩
      simp only [haction, Option.some.injEq] at hdrive
      subst hdrive
      constructor
      case told =>
        intro other
        by_cases hother : other = peer
        · subst hother
          simp [passEffect, PassEffect.entries, LadderEntry.toldAt, haction,
            AppEvent.retries]
        · simp [AppEvent.retries, hother, Ne.symm hother]
      all_goals
        simp [InnerLoop.setIntent, InnerLoop.withIntents, InnerLoop.tellAt,
          InnerLoop.triesOf, driveIntent, passEffect, PassEffect.entries,
          LadderEntry.triedAt, haction]
  | wait =>
      refine ⟨false, ?_⟩
      simp only [haction, Option.some.injEq] at hdrive
      subst hdrive
      constructor <;>
        simp [driveIntent, passEffect, PassEffect.entries, haction, hunchanged]

end Drive

/-! ## The retry machine -/

/-- What moves the retry machine, as both levels show it. -/
inductive RetryCause where
  | passed
  | event (event : ServerEvent)
  | connect (peer : KeyType)
  | forget (peer : KeyType)
  deriving DecidableEq

def RetryLabel.causes : RetryLabel → List RetryCause
  | .tick _ _ => [.passed]
  | .serverEvent _ event => [.event event]
  | .connect _ peer _ _ _ => [.connect peer]
  | .forget _ peer => [.forget peer]

def InnerLabel.causes : InnerLabel → List RetryCause
  | .passEnds => [.passed]
  | .event _ (some occurred) => [.event occurred]
  | .command _ (.connect peer) => [.connect peer]
  | .command _ (.purge peer) => [.forget peer]
  | .command _ (.removePeer peer) => [.forget peer]
  | _ => []

/-- The intent of the peer is that of the retry machine, and what went out for
the peer is what the machine's ladders say. -/
structure AgreesAt (peer : KeyType) (state : InnerLoop) (spec : RetryState) :
    Prop where
  intents : state.loop.intents peer = spec.intents peer
  told : state.toldOf peer =
    (Ladders.entries (spec.ladders peer)).filterMap (LadderEntry.toldAt peer)
  tries : state.triesOf peer =
    (Ladders.entries (spec.ladders peer)).filterMap LadderEntry.triedAt

/-- The intents of the pass that are not driven yet are those before the tick
of the retry machine, the others those after it. -/
structure PassUnderway (state : InnerLoop) (pass : RetryPass)
    (spec : RetryState) : Prop where
  after : spec.clock ≤ pass.instant
  before : pass.instant ≤ state.clock
  nodup : pass.remaining.Nodup
  driven : ∃ views : KeyType → TickView, ∀ peer,
    (peer ∈ pass.remaining → AgreesAt peer state spec) ∧
    (peer ∉ pass.remaining →
      AgreesAt peer state (driveRetries spec pass.instant views))

structure RefinesRetries (state : InnerLoop) (spec : RetryState) : Prop where
  clock : spec.clock ≤ state.clock
  nodup : state.armed.Nodup
  armed : ∀ peer, peer ∈ state.armed ↔
    (state.loop.intents peer).isSome = true
  idle : state.pass = none → ∀ peer, AgreesAt peer state spec
  driving : ∀ pass, state.pass = some pass → PassUnderway state pass spec

section Relation

variable {peer : KeyType} {state next : InnerLoop} {spec other : RetryState}

theorem AgreesAt.of_same
    (hagrees : AgreesAt peer state spec)
    (hintents : next.loop.intents peer = state.loop.intents peer)
    (htold : next.toldOf peer = state.toldOf peer)
    (htries : next.triesOf peer = state.triesOf peer) :
    AgreesAt peer next spec :=
  ⟨hintents.trans hagrees.intents, htold.trans hagrees.told,
    htries.trans hagrees.tries⟩

/-- The pass does nothing for a peer without an intent. -/
theorem AgreesAt.unarmed
    (hagrees : AgreesAt peer state spec)
    (hnone : state.loop.intents peer = none) (instant : ℕ)
    (views : KeyType → TickView) :
    AgreesAt peer state (driveRetries spec instant views) := by
  have hspec : spec.intents peer = none := by
    rw [← hagrees.intents, hnone]
  constructor
  · simp [driveRetries, hspec, hnone]
  · simp [driveRetries, hspec, hagrees.told]
  · simp [driveRetries, hspec, hagrees.tries]

theorem AgreesAt.driven
    {env : RequestEnv} {instant : ℕ} {live sent : Bool}
    {intent : ConnectIntent} {views : KeyType → TickView}
    (hagrees : AgreesAt peer state spec)
    (hintent : state.loop.intents peer = some intent)
    (hdriven : Driven env instant live peer intent sent state next)
    (hview : views peer = ⟨live, sent, env.rearmDelay⟩) :
    AgreesAt peer next (driveRetries spec instant views) := by
  have hspec : spec.intents peer = some intent := by
    rw [← hagrees.intents, hintent]
  constructor
  · simp [driveRetries, hspec, hdriven.intents, hview]
  · simp [driveRetries, hspec, hdriven.told, hview, hagrees.told,
      entries_after]
  · simp [driveRetries, hspec, hdriven.tries, hview, hagrees.tries,
      entries_after]

/-- Only the peer that was driven changes. -/
theorem AgreesAt.undriven
    {env : RequestEnv} {instant : ℕ} {live sent : Bool} {id : KeyType}
    {intent : ConnectIntent}
    (hagrees : AgreesAt peer state spec) (hne : peer ≠ id)
    (hdriven : Driven env instant live id intent sent state next) :
    AgreesAt peer next spec := by
  apply hagrees.of_same
  · rw [hdriven.intents, Function.update_of_ne hne]
  · simp [hdriven.told, hne]
  · simp [hdriven.tries, hne]

/-- What the machine does with a peer depends on that peer's view. -/
theorem AgreesAt.of_view
    {instant : ℕ} {views views' : KeyType → TickView}
    (hagrees : AgreesAt peer state (driveRetries spec instant views))
    (hview : views' peer = views peer) :
    AgreesAt peer state (driveRetries spec instant views') := by
  constructor
  · rw [hagrees.intents]
    simp only [driveRetries, hview]
  · rw [hagrees.told]
    simp only [driveRetries, hview]
  · rw [hagrees.tries]
    simp only [driveRetries, hview]

/-- Nothing that the retry machine knows of has changed. -/
structure SameRetries (state next : InnerLoop) : Prop where
  intents : next.loop.intents = state.loop.intents
  told : ∀ peer, next.toldOf peer = state.toldOf peer
  tries : ∀ peer, next.triesOf peer = state.triesOf peer
  armed : next.armed = state.armed
  pass : next.pass = state.pass
  clock : state.clock ≤ next.clock

theorem SameRetries.agreesAt
    (hsame : SameRetries state next) (hagrees : AgreesAt peer state spec) :
    AgreesAt peer next spec :=
  hagrees.of_same (by rw [hsame.intents]) (hsame.told peer)
    (hsame.tries peer)

theorem RefinesRetries.of_same
    (hrefines : RefinesRetries state spec) (hsame : SameRetries state next) :
    RefinesRetries next spec where
  clock := hrefines.clock.trans hsame.clock
  nodup := by
    rw [hsame.armed]
    exact hrefines.nodup
  armed := by
    rw [hsame.armed, hsame.intents]
    exact hrefines.armed
  idle := by
    intro hpass id
    rw [hsame.pass] at hpass
    exact hsame.agreesAt (hrefines.idle hpass id)
  driving := by
    intro pass hpass
    rw [hsame.pass] at hpass
    have hunderway := hrefines.driving pass hpass
    obtain ⟨views, hviews⟩ := hunderway.driven
    refine ⟨hunderway.after, hunderway.before.trans hsame.clock,
      hunderway.nodup, views, ?_⟩
    intro id
    exact ⟨fun hmem => hsame.agreesAt ((hviews id).1 hmem),
      fun hmem => hsame.agreesAt ((hviews id).2 hmem)⟩

theorem InnerLoop.Idle.pass_eq_none (hidle : state.Idle) :
    state.pass = none := by
  rw [InnerLoop.pass, hidle.2]

/-- A step between two passes, with the machine's own step. -/
theorem RefinesRetries.of_idle
    (hpass : next.pass = none) (hclock : spec.clock ≤ next.clock)
    (hnodup : next.armed.Nodup)
    (harmed : ∀ peer, peer ∈ next.armed ↔
      (next.loop.intents peer).isSome = true)
    (hagrees : ∀ peer, AgreesAt peer next spec) :
    RefinesRetries next spec where
  clock := hclock
  nodup := hnodup
  armed := harmed
  idle := fun _ => hagrees
  driving := by
    intro pass hsome
    rw [hpass] at hsome
    contradiction

end Relation

/-! ## Steps -/

section Steps

variable {P : Primitives} {messages : Codec Message}
  {blobs : Codec BlobPayload} {frames : Codec PeerMessage} {keys : Keys}
  {state next : InnerLoop} {spec : RetryState}

/-- The pass begins with the snapshot. -/
theorem RefinesRetries.readsConnecting
    (hrefines : RefinesRetries state spec) {sessions : KeyType → Bool}
    (hlisted : state.phase = .listed sessions) (order : MapOrder)
    (live : KeyType → Bool) :
    RefinesRetries { state with
      phase := .driving ⟨state.clock, live, order.arrange state.armed⟩ }
        spec where
  clock := hrefines.clock
  nodup := hrefines.nodup
  armed := hrefines.armed
  idle := by simp [InnerLoop.pass]
  driving := by
    intro pass hpass
    cases hpass
    refine ⟨hrefines.clock, le_refl _,
      (order.perm _).nodup_iff.mpr hrefines.nodup, fun _ => ⟨false, false, 0⟩,
      ?_⟩
    intro peer
    have hagrees := hrefines.idle (by simp [InnerLoop.pass, hlisted]) peer
    refine ⟨fun _ => hagrees.of_same rfl rfl rfl, ?_⟩
    intro hmem
    have hunarmed : state.loop.intents peer = none := by
      rw [(order.perm _).mem_iff, hrefines.armed] at hmem
      simpa using hmem
    exact (hagrees.unarmed hunarmed _ _).of_same rfl rfl rfl

/-- The next intent of the pass is driven. -/
theorem RefinesRetries.drives
    {env : RequestEnv} (hrefines : RefinesRetries state spec)
    (hstep : state.drives P keys env = some next) :
    RefinesRetries next spec := by
  unfold InnerLoop.drives at hstep
  split at hstep
  next instant live id rest hphase =>
    have hpass : state.pass = some ⟨instant, live, id :: rest⟩ := by
      rw [InnerLoop.pass, hphase]
    have hunderway := hrefines.driving _ hpass
    obtain ⟨views, hviews⟩ := hunderway.driven
    obtain ⟨hid, hrest⟩ := List.nodup_cons.mp hunderway.nodup
    simp only at hstep
    cases hintent : state.loop.intents id with
    | none =>
        -- no intent, so nothing to drive
        simp only [hintent, Option.some.injEq] at hstep
        subst hstep
        refine ⟨hrefines.clock, hrefines.nodup, hrefines.armed,
          by simp [InnerLoop.pass], ?_⟩
        intro pass hsome
        cases hsome
        refine ⟨hunderway.after, hunderway.before, hrest, views, ?_⟩
        intro peer
        refine ⟨fun hmem => ((hviews peer).1
          (List.mem_cons_of_mem _ hmem)).of_same rfl rfl rfl, ?_⟩
        intro hmem
        by_cases hpeer : peer = id
        · subst hpeer
          exact (((hviews peer).1 List.mem_cons_self).unarmed hintent instant
            views).of_same rfl rfl rfl
        · exact ((hviews peer).2 (by simp [hpeer, hmem])).of_same rfl rfl rfl
    | some intent =>
        simp only [hintent] at hstep
        obtain ⟨sent, hdriven⟩ := drive_driven hstep hintent
        have hsame : ∀ peer target, AgreesAt peer state target →
            AgreesAt peer { state with phase := .driving ⟨instant, live, rest⟩ }
              target :=
          fun peer target hagrees => hagrees.of_same rfl rfl rfl
        refine ⟨hrefines.clock.trans_eq hdriven.clock.symm, ?_, ?_, ?_, ?_⟩
        · rw [hdriven.armed]
          exact hrefines.nodup
        · intro peer
          rw [hdriven.armed, hdriven.intents]
          by_cases hpeer : peer = id
          · subst hpeer
            simp [hrefines.armed, hintent]
          · simpa [Function.update_of_ne hpeer] using hrefines.armed peer
        · intro hnone
          rw [InnerLoop.pass, hdriven.phase] at hnone
          contradiction
        · intro pass hsome
          rw [InnerLoop.pass, hdriven.phase] at hsome
          cases hsome
          refine ⟨hunderway.after,
            hunderway.before.trans_eq hdriven.clock.symm, hrest,
            Function.update views id ⟨live id, sent, env.rearmDelay⟩, ?_⟩
          intro peer
          constructor
          · intro hmem
            have hpeer : peer ≠ id := by
              rintro rfl
              exact hid hmem
            exact (hsame peer _ ((hviews peer).1
              (List.mem_cons_of_mem _ hmem))).undriven hpeer hdriven
          · intro hmem
            by_cases hpeer : peer = id
            · subst hpeer
              exact (hsame peer _ ((hviews peer).1
                List.mem_cons_self)).driven hintent hdriven (by simp)
            · exact ((hsame peer _ ((hviews peer).2
                (by simp [hpeer, hmem]))).undriven hpeer hdriven).of_view
                (by simp [Function.update_of_ne hpeer])
  next => contradiction

/-- At the end of a pass the retry machine takes its tick. -/
theorem RefinesRetries.passEnds
    (hrefines : RefinesRetries state spec) {instant : ℕ}
    {live : KeyType → Bool} (hphase : state.phase = .driving ⟨instant, live, []⟩) :
    ∃ elapsed views,
      RefinesRetries { state with phase := .idle }
        (driveRetries spec (spec.clock + elapsed) views) := by
  have hpass : state.pass = some ⟨instant, live, []⟩ := by
    rw [InnerLoop.pass, hphase]
  have hunderway := hrefines.driving _ hpass
  obtain ⟨views, hviews⟩ := hunderway.driven
  refine ⟨instant - spec.clock, views, .of_idle rfl ?_ hrefines.nodup
    hrefines.armed ?_⟩
  · have hafter := hunderway.after
    have hbefore := hunderway.before
    simp only [driveRetries] at hafter hbefore ⊢
    omega
  · intro peer
    have hafter : spec.clock + (instant - spec.clock) = instant :=
      Nat.add_sub_cancel' hunderway.after
    rw [hafter]
    exact ((hviews peer).2 (by simp)).of_same rfl rfl rfl

/-! ## Events -/

/-- What a server event changes of what the retry machine knows. -/
structure Noted (env : EventEnv) (event : ServerEvent)
    (state next : InnerLoop) : Prop where
  intents : next.loop.intents = fun peer =>
    (state.loop.intents peer).map (intentAfterEvent env.instant event peer)
  told : ∀ peer, next.toldOf peer = state.toldOf peer
  tries : next.tries = state.tries
  armed : next.armed = state.armed
  pass : next.pass = state.pass
  clock : next.clock = state.clock

/-- The event leaves all intents alone. -/
theorem Noted.of_silent
    {env : EventEnv} {event : ServerEvent}
    (hevent : ∀ peer, intentAfterEvent env.instant event peer = id)
    (hintents : next.loop.intents = state.loop.intents)
    (htold : ∀ peer, next.toldOf peer = state.toldOf peer)
    (htries : next.tries = state.tries)
    (harmed : next.armed = state.armed) (hpass : next.pass = state.pass)
    (hclock : next.clock = state.clock) : Noted env event state next where
  intents := by
    rw [hintents]
    funext peer
    rw [hevent peer, Option.map_id, id]
  told := htold
  tries := htries
  armed := harmed
  pass := hpass
  clock := hclock

variable (state) in
theorem toldOf_tell
    {events : List AppEvent} {peer : KeyType}
    (hsilent : ∀ event ∈ events, event.retries peer = false) :
    (state.tell events).toldOf peer = state.toldOf peer := by
  have hnone : events.filter (AppEvent.retries peer) = [] := by
    simpa [List.filter_eq_nil_iff] using hsilent
  simp [InnerLoop.tell, hnone]

theorem handleServerEvent_noted
    {env : EventEnv} {event : ServerEvent}
    (hevent : state.handleServerEvent P env event = some next) :
    Noted env event state next := by
  have htold (events : List AppEvent)
      (hsilent : ∀ told ∈ events, ∀ peer, told.retries peer = false) :
      ∀ peer, (state.tell events).toldOf peer = state.toldOf peer :=
    fun peer => toldOf_tell state fun told hmem => hsilent told hmem peer
  cases event with
  | authenticated observedAddress =>
      cases hevent
      exact .of_silent (fun _ => rfl) rfl
        (htold _ (by simp [AppEvent.retries])) rfl rfl rfl rfl
  | peerOnline hash ipPort =>
      cases hevent
      refine ⟨rfl, fun peer => ?_, rfl, rfl, rfl, rfl⟩
      exact toldOf_tell _ (by simp [AppEvent.retries])
  | peerOffline hash =>
      cases hevent
      refine ⟨rfl, fun peer => ?_, rfl, rfl, rfl, rfl⟩
      exact toldOf_tell _ (by simp [AppEvent.retries])
  | punchHole token peerHash ipPort punchtimestamp =>
      simp only [InnerLoop.handleServerEvent, Option.some.injEq] at hevent
      subst hevent
      unfold InnerLoop.punchHole
      simp only
      split
      · exact .of_silent (fun _ => rfl) rfl (fun _ => rfl) rfl rfl rfl rfl
      · exact .of_silent (fun _ => rfl) rfl (fun _ => rfl) rfl rfl rfl rfl
  | holePunchDenied peer reason =>
      cases hevent
      exact .of_silent (fun _ => rfl) rfl
        (htold _ (by simp [AppEvent.retries])) rfl rfl rfl rfl
  | blobStored senderHash =>
      cases hevent
      exact .of_silent (fun _ => rfl) rfl
        (htold _ (by simp [AppEvent.retries])) rfl rfl rfl rfl
  | relayData senderHash payload =>
      obtain ⟨client, -, rfl⟩ := Option.map_eq_some_iff.mp hevent
      exact .of_silent (fun _ => rfl) rfl (fun _ => rfl) rfl rfl rfl rfl
  | disconnected =>
      cases hevent
      exact .of_silent (fun _ => rfl) rfl (fun _ => rfl) rfl rfl rfl rfl

theorem receive_noted
    {env : EventEnv} {event : ServerEvent}
    (hevent : state.receive P env (some event) = some next) :
    Noted env event state next := by
  cases event with
  | disconnected =>
      cases hevent
      refine .of_silent (fun _ => rfl) rfl (fun peer => ?_) rfl rfl rfl rfl
      exact toldOf_tell _ (by simp [AppEvent.retries])
  | authenticated | peerOnline | peerOffline | punchHole | holePunchDenied
  | blobStored | relayData => exact handleServerEvent_noted (P := P) hevent

/-- The tick of the machine's clock before an event or a command. -/
theorem clock_elapsed {instant : ℕ} (hrefines : RefinesRetries state spec)
    (hclock : state.clock ≤ instant) :
    spec.clock + (instant - spec.clock) = instant :=
  Nat.add_sub_cancel' (hrefines.clock.trans hclock)

theorem RefinesRetries.noted
    {env : EventEnv} {event : ServerEvent}
    (hrefines : RefinesRetries state spec) (hidle : state.Idle)
    (hclock : state.clock ≤ env.instant)
    (hnoted : Noted env event { state with clock := env.instant } next) :
    ∃ elapsed specNext,
      retryStep spec (.serverEvent elapsed event) = some specNext ∧
        RefinesRetries next specNext := by
  have helapsed := clock_elapsed hrefines hclock
  refine ⟨env.instant - spec.clock, _, rfl, ?_⟩
  simp only [helapsed]
  have hpass : state.pass = none := hidle.pass_eq_none
  refine .of_idle (hnoted.pass.trans hpass) ?_ ?_ ?_ ?_
  · exact hnoted.clock.symm.le
  · rw [hnoted.armed]
    exact hrefines.nodup
  · intro peer
    rw [hnoted.armed, hnoted.intents]
    simpa using hrefines.armed peer
  · intro peer
    have hagrees := hrefines.idle hpass peer
    have hintent := hagrees.intents
    have htries : next.triesOf peer = state.triesOf peer := by
      simp [InnerLoop.triesOf, hnoted.tries]
    have heffect : ∀ intent,
        (eventEffect event peer intent).entries = [] := by
      intro intent
      cases event with
      | peerOnline hash ipPort =>
          simp only [eventEffect]
          split <;> rfl
      | _ => rfl
    constructor
    · simp only [hnoted.intents, hintent]
    · refine ((hnoted.told peer).trans hagrees.told).trans ?_
      cases hspec : spec.intents peer with
      | none => simp only [hspec]
      | some intent =>
          simp only [hspec, entries_after, heffect, List.append_nil]
    · refine (htries.trans hagrees.tries).trans ?_
      cases hspec : spec.intents peer with
      | none => simp only [hspec]
      | some intent =>
          simp only [hspec, entries_after, heffect, List.append_nil]

/-! ## Commands -/

/-- A command changes the intents as it says, and reports no retries. -/
theorem obey_eq_some
    {env : LoopEnv} {cmd : Command} (hredirects : cmd.redirects = false)
    (hobey : state.obey P messages blobs keys env cmd = some next) :
    ∃ result, handleCommand P messages blobs keys env state.loop cmd =
        some result ∧
      next = { (state.withLoop result.loop).tell result.emitted with
        armed := InnerLoop.armedAfter state.armed result.loop.intents cmd } := by
  cases cmd with
  | setServer addr => simp [Command.redirects] at hredirects
  | shutdown => simp [Command.redirects] at hredirects
  | send | connect | purge | removePeer | announceNow =>
      simp only [InnerLoop.obey, Option.map_eq_some_iff] at hobey
      obtain ⟨result, hresult, rfl⟩ := hobey
      exact ⟨result, hresult, rfl⟩

/-- The list of armed peers follows the intents. -/
theorem armedAfter_spec
    (env : LoopEnv) (cmd : Command) {loop : CommandLoop}
    {armed : List KeyType} (hnodup : armed.Nodup)
    (harmed : ∀ peer, peer ∈ armed ↔ (loop.intents peer).isSome = true) :
    (InnerLoop.armedAfter armed (intentsAfter P env loop cmd) cmd).Nodup ∧
      ∀ peer, peer ∈ InnerLoop.armedAfter armed
          (intentsAfter P env loop cmd) cmd ↔
        (intentsAfter P env loop cmd peer).isSome = true := by
  have hforgotten (id : KeyType) :
      (armed.filter fun other => other ≠ id).Nodup ∧
        ∀ peer, peer ∈ armed.filter (fun other => other ≠ id) ↔
          (Function.update loop.intents id none peer).isSome = true := by
    refine ⟨hnodup.filter _, ?_⟩
    intro peer
    by_cases hpeer : peer = id
    · subst hpeer
      simp
    · simp [hpeer, harmed]
  cases cmd with
  | connect id =>
      simp only [InnerLoop.armedAfter, intentsAfter]
      by_cases harms : arms P loop id = true
      · simp only [if_pos harms, Function.update_self, Option.isSome_some,
          true_and]
        by_cases hmem : id ∈ armed
        · simp only [hmem, not_true_eq_false, if_false]
          refine ⟨hnodup, ?_⟩
          intro peer
          by_cases hpeer : peer = id
          · subst hpeer
            simp [hmem]
          · simp [hpeer, harmed]
        · simp only [hmem, not_false_eq_true, if_true]
          constructor
          · rw [List.nodup_append]
            refine ⟨hnodup, List.nodup_singleton _, ?_⟩
            intro other hother last hlast heq
            rw [List.mem_singleton.mp hlast] at heq
            exact hmem (heq ▸ hother)
          · intro peer
            by_cases hpeer : peer = id
            · subst hpeer
              simp
            · simp [hpeer, harmed]
      · have hcond : ¬ ((loop.intents id).isSome = true ∧ id ∉ armed) := by
          rw [harmed]
          exact and_not_self
        simp only [if_neg harms, if_neg hcond]
        exact ⟨hnodup, harmed⟩
  | purge id => exact hforgotten id
  | removePeer id => exact hforgotten id
  | send | announceNow | setServer | shutdown => exact ⟨hnodup, harmed⟩

variable (P) in
/-- The machine's steps for a command. -/
def Command.retryLabels (env : LoopEnv) (loop : CommandLoop) (elapsed : ℕ) :
    Command → List RetryLabel
  | .connect peer =>
      [.connect elapsed peer (loadPeerData P loop.peers peer).isOk
        (loop.sessionMap peer).isSome
        (peerIsOnline P env.now loop.cache peer)]
  | .purge peer => [.forget elapsed peer]
  | .removePeer peer => [.forget elapsed peer]
  | _ => []

theorem retryLabels_causes
    (env : LoopEnv) (loop : CommandLoop) (elapsed : ℕ) (cmd : Command) :
    (cmd.retryLabels P env loop elapsed).flatMap RetryLabel.causes =
      (InnerLabel.command env cmd).causes := by
  cases cmd <;> rfl

/-- The machine keeps up with a command. -/
theorem retryLabels_run
    (cmd : Command) {env : LoopEnv} {loop : CommandLoop}
    (hclock : spec.clock ≤ env.instant)
    (hintents : ∀ peer, loop.intents peer = spec.intents peer) :
    ∃ specNext, runFrom retryStep spec
        (cmd.retryLabels P env loop (env.instant - spec.clock)) =
          some specNext ∧
      specNext.clock ≤ env.instant ∧
      (∀ peer, specNext.intents peer = intentsAfter P env loop cmd peer) ∧
      ∀ peer, Ladders.entries (specNext.ladders peer) =
        Ladders.entries (spec.ladders peer) := by
  have helapsed : spec.clock + (env.instant - spec.clock) = env.instant :=
    Nat.add_sub_cancel' hclock
  have hforgets (id : KeyType) :
      ∃ specNext, runFrom retryStep spec
          [.forget (env.instant - spec.clock) id] = some specNext ∧
        specNext.clock ≤ env.instant ∧
        (∀ peer, specNext.intents peer =
          Function.update loop.intents id none peer) ∧
        ∀ peer, Ladders.entries (specNext.ladders peer) =
          Ladders.entries (spec.ladders peer) := by
    refine ⟨_, rfl, helapsed.le, ?_, fun _ => rfl⟩
    intro peer
    by_cases hpeer : peer = id
    · subst hpeer
      simp
    · simp [Function.update_of_ne hpeer, hintents]
  cases cmd with
  | connect id =>
      have hreset (peer : KeyType) : Ladders.entries (Function.update
          spec.ladders id ([] :: spec.ladders id) peer) =
            Ladders.entries (spec.ladders peer) := by
        by_cases hpeer : peer = id
        · subst hpeer
          simp [Ladders.entries]
        · rw [Function.update_of_ne hpeer]
      simp only [Command.retryLabels, runFrom_cons_eq_some, retryStep]
      cases harms : arms P loop id with
      | false =>
          have hcond : ((loadPeerData P loop.peers id).isOk &&
            !(loop.sessionMap id).isSome) = false := harms
          simp only [hcond, Bool.false_eq_true, if_false, helapsed]
          refine ⟨_, ⟨_, rfl, rfl⟩, le_refl _, ?_, fun _ => rfl⟩
          intro peer
          simp [intentsAfter, harms, hintents]
      | true =>
          have hcond : ((loadPeerData P loop.peers id).isOk &&
            !(loop.sessionMap id).isSome) = true := harms
          simp only [hcond, if_true, helapsed]
          refine ⟨_, ⟨_, rfl, rfl⟩, le_refl _, ?_, hreset⟩
          intro peer
          simp only [intentsAfter, harms, if_true]
          by_cases hpeer : peer = id
          · subst hpeer
            simp
          · simp [Function.update_of_ne hpeer, hintents]
  | purge id => exact hforgets id
  | removePeer id => exact hforgets id
  | send | announceNow | setServer | shutdown =>
      exact ⟨spec, rfl, hclock, fun peer => (hintents peer).symm,
        fun _ => rfl⟩

theorem RefinesRetries.command
    {env : LoopEnv} {cmd : Command}
    (hrefines : RefinesRetries state spec) (hidle : state.Idle)
    (hclock : state.clock ≤ env.instant) (hredirects : cmd.redirects = false)
    (hobey : InnerLoop.obey P messages blobs keys env
      { state with clock := env.instant } cmd = some next) :
    ∃ specNext, runFrom retryStep spec
        (cmd.retryLabels P env state.loop (env.instant - spec.clock)) =
          some specNext ∧
      RefinesRetries next specNext := by
  obtain ⟨result, hresult, rfl⟩ := obey_eq_some hredirects hobey
  have hobeyed := handleCommand_obeyed hresult
  have hagrees := hrefines.idle hidle.pass_eq_none
  obtain ⟨specNext, hrun, hbefore, hintents, hladders⟩ :=
    retryLabels_run (P := P) cmd (hrefines.clock.trans hclock)
      fun peer => (hagrees peer).intents
  obtain ⟨hnodup, harmed⟩ := armedAfter_spec (P := P) env cmd hrefines.nodup
    hrefines.armed
  rw [← hobeyed.intents] at hnodup harmed
  refine ⟨specNext, hrun, .of_idle hidle.pass_eq_none hbefore hnodup harmed
    ?_⟩
  intro peer
  constructor
  · rw [hintents]
    exact congrFun hobeyed.intents peer
  · rw [hladders]
    have htold := toldOf_tell { state with clock := env.instant }
      fun event hevent => hobeyed.silent event hevent peer
    exact htold.trans (hagrees peer).told
  · rw [hladders]
    exact (hagrees peer).tries

/-! ## All steps -/

theorem RefinesRetries.step
    {label : InnerLabel} (hrefines : RefinesRetries state spec)
    (hstep : innerStep P messages blobs frames keys state label = some next) :
    ∃ specLabels specNext, runFrom retryStep spec specLabels = some specNext ∧
      specLabels.flatMap RetryLabel.causes = label.causes ∧
      RefinesRetries next specNext := by
  have hstays (hcauses : label.causes = [])
      (hsame : RefinesRetries next spec) :
      ∃ specLabels specNext,
        runFrom retryStep spec specLabels = some specNext ∧
        specLabels.flatMap RetryLabel.causes = label.causes ∧
        RefinesRetries next specNext :=
    ⟨[], spec, rfl, hcauses.symm, hsame⟩
  cases label with
  | tick instant =>
      simp only [innerStep] at hstep
      split at hstep
      next henabled =>
        cases hstep
        have hpass := henabled.1.pass_eq_none
        exact hstays rfl (hrefines.of_same ⟨rfl, fun _ => rfl, fun _ => rfl,
          rfl, hpass.symm, henabled.2⟩)
      next => contradiction
  | readsSessions =>
      simp only [innerStep] at hstep
      split at hstep
      next hbegun =>
        cases hstep
        have hpass : state.pass = none := by rw [InnerLoop.pass, hbegun]
        exact hstays rfl (hrefines.of_same ⟨rfl, fun _ => rfl, fun _ => rfl,
          rfl, hpass.symm, le_refl _⟩)
      next => contradiction
  | readsConnecting order =>
      simp only [innerStep] at hstep
      split at hstep
      next sessions hlisted =>
        cases hstep
        exact hstays rfl (hrefines.readsConnecting hlisted order _)
      next => contradiction
  | drives env => exact hstays rfl (hrefines.drives hstep)
  | passEnds =>
      simp only [innerStep] at hstep
      split at hstep
      next instant live hpass =>
        cases hstep
        obtain ⟨elapsed, views, hnext⟩ := hrefines.passEnds hpass
        exact ⟨[.tick elapsed views], _, rfl, rfl, hnext⟩
      next => contradiction
  | event env event =>
      simp only [innerStep] at hstep
      split at hstep
      next henabled =>
        obtain ⟨hidle, hclock⟩ := henabled
        cases event with
        | none =>
            cases hstep
            refine hstays rfl (hrefines.of_same ⟨rfl, ?_, fun _ => rfl, rfl,
              rfl, hclock⟩)
            intro peer
            exact toldOf_tell _ (by simp [AppEvent.retries])
        | some event =>
            obtain ⟨elapsed, specNext, hspec, hnext⟩ :=
              hrefines.noted hidle hclock (receive_noted hstep)
            exact ⟨[.serverEvent elapsed event], specNext,
              runFrom_cons_eq_some.mpr ⟨specNext, hspec, rfl⟩, rfl, hnext⟩
      next => contradiction
  | command env cmd =>
      simp only [innerStep] at hstep
      split at hstep
      next henabled =>
        obtain ⟨hidle, hclock⟩ := henabled
        cases hredirects : cmd.redirects with
        | false =>
            obtain ⟨specNext, hspec, hnext⟩ :=
              hrefines.command hidle hclock hredirects hstep
            exact ⟨_, specNext, hspec, retryLabels_causes _ _ _ _, hnext⟩
        | true =>
            -- the two commands which the loop acts on itself
            cases cmd with
            | setServer addr =>
                cases hstep
                exact hstays rfl (hrefines.of_same
                  ⟨rfl, fun _ => rfl, fun _ => rfl, rfl, rfl, hclock⟩)
            | shutdown =>
                obtain ⟨server, -, rfl⟩ := Option.map_eq_some_iff.mp hstep
                exact hstays rfl (hrefines.of_same
                  ⟨rfl, fun _ => rfl, fun _ => rfl, rfl, rfl, hclock⟩)
            | send | connect | purge | removePeer | announceNow =>
                simp [Command.redirects] at hredirects
      next => contradiction
  | closed =>
      simp only [innerStep] at hstep
      split at hstep
      next =>
        cases hstep
        exact hstays rfl (hrefines.of_same
          ⟨rfl, fun _ => rfl, fun _ => rfl, rfl, rfl, le_refl _⟩)
      next => contradiction
  | reconnected server =>
      simp only [innerStep] at hstep
      split at hstep
      next =>
        cases hstep
        exact hstays rfl (hrefines.of_same
          ⟨rfl, fun _ => rfl, fun _ => rfl, rfl, rfl, le_refl _⟩)
      next => contradiction
  | task label =>
      simp only [innerStep] at hstep
      split at hstep
      next =>
        obtain ⟨client, -, rfl⟩ := Option.map_eq_some_iff.mp hstep
        exact hstays rfl (hrefines.of_same
          ⟨rfl, fun _ => rfl, fun _ => rfl, rfl, rfl, le_refl _⟩)
      next => contradiction
  | others data =>
      cases hstep
      exact hstays rfl (hrefines.of_same
        ⟨rfl, fun _ => rfl, fun _ => rfl, rfl, rfl, le_refl _⟩)

theorem RefinesRetries.initial (data : SharedData) :
    RefinesRetries (.initial data) .initial where
  clock := le_refl _
  nodup := .nil
  armed := by simp [InnerLoop.initial]
  idle := fun _ _ => ⟨rfl, rfl, rfl⟩
  driving := by simp [InnerLoop.initial, InnerLoop.pass]

/-- What was tried for a peer follows disciplined ladders, also while a pass is
underway. -/
theorem RefinesRetries.disciplined
    (hrefines : RefinesRetries state spec) (hinv : RetryInvariant spec)
    (peer : KeyType) :
    ∃ ladders : Ladders, (∀ ladder ∈ ladders, Disciplined ladder) ∧
      state.toldOf peer =
        ladders.entries.filterMap (LadderEntry.toldAt peer) ∧
      state.triesOf peer = ladders.entries.filterMap LadderEntry.triedAt := by
  have hagreed (target : RetryState) (htarget : RetryInvariant target)
      (hagrees : AgreesAt peer state target) :
      ∃ ladders : Ladders, (∀ ladder ∈ ladders, Disciplined ladder) ∧
        state.toldOf peer =
          ladders.entries.filterMap (LadderEntry.toldAt peer) ∧
        state.triesOf peer =
          ladders.entries.filterMap LadderEntry.triedAt :=
    ⟨target.ladders peer, (htarget peer).disciplined, hagrees.told,
      hagrees.tries⟩
  cases hpass : state.pass with
  | none => exact hagreed spec hinv (hrefines.idle hpass peer)
  | some pass =>
      obtain ⟨views, hviews⟩ := (hrefines.driving pass hpass).driven
      by_cases hmem : peer ∈ pass.remaining
      · exact hagreed spec hinv ((hviews peer).1 hmem)
      · exact hagreed _ (hinv.driveRetries pass.instant views)
          ((hviews peer).2 hmem)

end Steps

/-- In every state of every run of the inner loop, whatever the other tasks do
in between, the calls of `send_punch_request` for a peer and what the
application was told of them are those of ladders that are disciplined, and
the times in the ladders are the instants of the passes that made them.
Between two passes the loop is where the retry machine is after the same
passes, events and commands. -/
theorem inner_loop_refines_retries
    (P : Primitives) (messages : Codec Message) (blobs : Codec BlobPayload)
    (frames : Codec PeerMessage) (keys : Keys) (data : SharedData)
    {labels : List InnerLabel} {final : InnerLoop}
    (hrun : runFrom (innerStep P messages blobs frames keys) (.initial data)
      labels = some final) :
    (∀ peer, ∃ ladders : Ladders,
      (∀ ladder ∈ ladders, Disciplined ladder) ∧
      final.toldOf peer =
        ladders.entries.filterMap (LadderEntry.toldAt peer) ∧
      final.triesOf peer =
        ladders.entries.filterMap LadderEntry.triedAt) ∧
    (final.pass = none → ∃ retryLabels spec,
      runFrom retryStep .initial retryLabels = some spec ∧
      retryLabels.flatMap RetryLabel.causes =
        labels.flatMap InnerLabel.causes ∧
      spec.clock ≤ final.clock ∧
      ∀ peer, final.loop.intents peer = spec.intents peer ∧
        (final.toldOf peer).map Prod.snd = spec.events peer ∧
        final.toldOf peer = (Ladders.entries (spec.ladders peer)).filterMap
          (LadderEntry.toldAt peer) ∧
        final.triesOf peer = (Ladders.entries (spec.ladders peer)).filterMap
          LadderEntry.triedAt) := by
  obtain ⟨retryLabels, spec, hspec, hcauses, hrefines⟩ :=
    runFrom_refines (fun hrefines hstep => hrefines.step hstep)
      (RefinesRetries.initial data) hrun
  have hinv := retryInvariant_of_run hspec
  refine ⟨hrefines.disciplined hinv, ?_⟩
  intro hpass
  refine ⟨retryLabels, spec, hspec, hcauses, hrefines.clock, ?_⟩
  intro peer
  have hagrees := hrefines.idle hpass peer
  refine ⟨hagrees.intents, ?_, hagrees.told, hagrees.tries⟩
  rw [hagrees.told, (hinv peer).reported, events_eq_map_toldAt]

/-! ## A contact that comes online -/

def sampleShared : SharedData where
  peers := initializePeer .transparent ∅ (sampleKeys 3).publicPart
  outbounds := fun _ => ⟨true, .empty⟩
  server := ⟨true, .empty⟩
  cache := []
  aliasFile := none
  myAddress := none

def listedKeys : MapOrder where
  arrange := fun ids => ids
  perm := fun _ => .rfl

/-- The user asks to connect, the contact comes online, and a pass drives its
intent. -/
def sampleDialing : List InnerLabel :=
  [.reconnected ⟨true, .empty⟩,
    .command sampleLoopEnv (.connect ((sampleKeys 3).id .transparent)),
    .event ⟨1000, 0⟩ (some (.peerOnline ((sampleKeys 3).id .transparent)
      "203.0.113.9:4000")),
    .tick 0, .readsSessions, .readsConnecting listedKeys,
    .drives ⟨1000, 0, ⟨true, .empty⟩⟩, .passEnds]

/-- The next pass half a second later is too early, the one after it asks
again. -/
def sampleRedialing : List InnerLabel :=
  sampleDialing ++
    [.tick 500000000, .readsSessions, .readsConnecting listedKeys,
      .drives ⟨1000, 0, ⟨true, .empty⟩⟩, .passEnds,
      .tick 1000000000, .readsSessions, .readsConnecting listedKeys,
      .drives ⟨1001, 0, ⟨true, .empty⟩⟩, .passEnds]

set_option maxRecDepth 4000 in
theorem sampleRedialing_runs :
    ∃ final, runFrom (innerStep .transparent transparentMessages
        transparentBlobs transparentFrames (sampleKeys 1))
        (.initial sampleShared) sampleRedialing = some final ∧
      final.pass = none ∧
      final.triesOf ((sampleKeys 3).id .transparent) =
        [(0, true), (1000000000, true)] :=
  ⟨_, rfl, rfl, rfl⟩

/-- Two punch requests, a second apart. -/
theorem sample_request_disciplined :
    ∃ final, runFrom (innerStep .transparent transparentMessages
        transparentBlobs transparentFrames (sampleKeys 1))
        (.initial sampleShared) sampleRedialing = some final ∧
      ∃ ladders : Ladders, (∀ ladder ∈ ladders, Disciplined ladder) ∧
        final.toldOf ((sampleKeys 3).id .transparent) =
          ladders.entries.filterMap
            (LadderEntry.toldAt ((sampleKeys 3).id .transparent)) ∧
        [(0, true), (1000000000, true)] =
          ladders.entries.filterMap LadderEntry.triedAt := by
  obtain ⟨final, hrun, -, htries⟩ := sampleRedialing_runs
  obtain ⟨ladders, hdisciplined, hevents, hmade⟩ :=
    (inner_loop_refines_retries .transparent transparentMessages
      transparentBlobs transparentFrames (sampleKeys 1) sampleShared hrun).1
      ((sampleKeys 3).id .transparent)
  rw [htries] at hmade
  exact ⟨final, hrun, ladders, hdisciplined, hevents, hmade⟩

end SechatClient
