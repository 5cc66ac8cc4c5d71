import SechatClient.InnerLoopRefinement

/-!
# Whom the inner loop leaves alone

A peer which the user purged or removed, and one which was never named in a
`Connect`, is not asked for.  Neither is one that had a session when the pass
listed the sessions, or an attempt in flight when it read the `Connecting`
set: the client of the inner loop is that of a run of connect tasks, so the
set lists the peers which they hold.  The two are read one after the other,
and an attempt that succeeds in between is in neither.
-/

namespace SechatClient

open Reservations StepSystem

section Steps

variable {P : Primitives} {messages : Codec Message}
  {blobs : Codec BlobPayload} {frames : Codec PeerMessage} {keys : Keys}
  {state next : InnerLoop} {peer : KeyType}

/-! ## Peers without an intent -/

/-- The peer has no intent, and nothing went out for it. -/
structure LeftAlone (peer : KeyType) (state next : InnerLoop) : Prop where
  unarmed : next.loop.intents peer = none
  tries : next.triesOf peer = state.triesOf peer
  told : next.toldOf peer = state.toldOf peer

theorem LeftAlone.requests (halone : LeftAlone peer state next) :
    next.requestsTo peer = state.requestsTo peer := by
  rw [InnerLoop.requestsTo, halone.tries, InnerLoop.requestsTo]

theorem LeftAlone.trans
    {last : InnerLoop} (hfirst : LeftAlone peer state next)
    (hsecond : LeftAlone peer next last) : LeftAlone peer state last :=
  ⟨hsecond.unarmed, hsecond.tries.trans hfirst.tries,
    hsecond.told.trans hfirst.told⟩

theorem intentsAfter_none
    {env : LoopEnv} {loop : CommandLoop} {cmd : Command}
    (hgone : loop.intents peer = none) (hcmd : cmd ≠ .connect peer) :
    intentsAfter P env loop cmd peer = none := by
  cases cmd with
  | connect id =>
      have hne : peer ≠ id := by
        rintro rfl
        exact hcmd rfl
      simp only [intentsAfter]
      split
      · rw [Function.update_of_ne hne, hgone]
      · exact hgone
  | purge id =>
      by_cases hpeer : peer = id
      · subst hpeer
        simp [intentsAfter]
      · simp [intentsAfter, Function.update_of_ne hpeer, hgone]
  | removePeer id =>
      by_cases hpeer : peer = id
      · subst hpeer
        simp [intentsAfter]
      · simp [intentsAfter, Function.update_of_ne hpeer, hgone]
  | send | announceNow | setServer | shutdown => exact hgone

theorem obey_leftAlone
    {env : LoopEnv} {cmd : Command}
    (hobey : state.obey P messages blobs keys env cmd = some next)
    (hredirects : cmd.redirects = false)
    (hafter : intentsAfter P env state.loop cmd peer = none) :
    LeftAlone peer state next := by
  obtain ⟨result, hresult, rfl⟩ := obey_eq_some hredirects hobey
  have hobeyed := handleCommand_obeyed hresult
  refine ⟨?_, rfl, ?_⟩
  · rw [← hafter, ← hobeyed.intents]
    rfl
  · exact toldOf_tell state
      fun event hevent => hobeyed.silent event hevent peer

theorem drives_leftAlone
    {env : RequestEnv} (hgone : state.loop.intents peer = none)
    (hstep : state.drives P keys env = some next) :
    LeftAlone peer state next := by
  unfold InnerLoop.drives at hstep
  split at hstep
  next instant live id rest hphase =>
    simp only at hstep
    cases hintent : state.loop.intents id with
    | none =>
        simp only [hintent, Option.some.injEq] at hstep
        subst hstep
        exact ⟨hgone, rfl, rfl⟩
    | some intent =>
        have hne : peer ≠ id := by
          rintro rfl
          rw [hgone] at hintent
          contradiction
        simp only [hintent] at hstep
        obtain ⟨sent, hdriven⟩ := drive_driven hstep hintent
        constructor
        · rw [hdriven.intents, Function.update_of_ne hne, hgone]
        · rw [hdriven.tries]
          simp [hne, InnerLoop.triesOf]
        · rw [hdriven.told]
          simp [hne, InnerLoop.toldOf]
  next => contradiction

theorem receive_leftAlone
    {env : EventEnv} {event : Option ServerEvent}
    (hreceive : state.receive P env event = some next)
    (hgone : state.loop.intents peer = none) :
    LeftAlone peer state next := by
  cases event with
  | none =>
      cases hreceive
      exact ⟨hgone, rfl, toldOf_tell _ (by simp [AppEvent.retries])⟩
  | some event =>
      have hnoted := receive_noted hreceive
      constructor
      · simp [hnoted.intents, hgone]
      · simp [InnerLoop.triesOf, hnoted.tries]
      · exact hnoted.told peer

theorem innerStep_leftAlone
    {label : InnerLabel} (hgone : state.loop.intents peer = none)
    (hlabel : .connect peer ∉ label.causes)
    (hstep : innerStep P messages blobs frames keys state label = some next) :
    LeftAlone peer state next := by
  have hsame (hintents : next.loop.intents = state.loop.intents)
      (htries : next.tries = state.tries)
      (htold : next.told = state.told) : LeftAlone peer state next := by
    refine ⟨by rw [hintents, hgone], ?_, ?_⟩
    · rw [InnerLoop.triesOf, htries, InnerLoop.triesOf]
    · rw [InnerLoop.toldOf, htold, InnerLoop.toldOf]
  cases label with
  | tick instant =>
      simp only [innerStep] at hstep
      split at hstep
      next =>
        cases hstep
        exact hsame rfl rfl rfl
      next => contradiction
  | readsSessions =>
      simp only [innerStep] at hstep
      split at hstep
      next =>
        cases hstep
        exact hsame rfl rfl rfl
      next => contradiction
  | readsConnecting order =>
      simp only [innerStep] at hstep
      split at hstep
      next =>
        cases hstep
        exact hsame rfl rfl rfl
      next => contradiction
  | drives env => exact drives_leftAlone hgone hstep
  | passEnds =>
      simp only [innerStep] at hstep
      split at hstep
      next =>
        cases hstep
        exact hsame rfl rfl rfl
      next => contradiction
  | event env event =>
      simp only [innerStep] at hstep
      split at hstep
      next =>
        have halone := receive_leftAlone hstep hgone
        exact ⟨halone.unarmed, halone.tries, halone.told⟩
      next => contradiction
  | command env cmd =>
      simp only [innerStep] at hstep
      split at hstep
      next =>
        cases hredirects : cmd.redirects with
        | false =>
            have hcmd : cmd ≠ .connect peer := by
              rintro rfl
              simp [InnerLabel.causes] at hlabel
            have halone := obey_leftAlone hstep hredirects
              (intentsAfter_none hgone hcmd)
            exact ⟨halone.unarmed, halone.tries, halone.told⟩
        | true =>
            cases cmd with
            | setServer addr =>
                cases hstep
                exact hsame rfl rfl rfl
            | shutdown =>
                obtain ⟨server, -, rfl⟩ := Option.map_eq_some_iff.mp hstep
                exact hsame rfl rfl rfl
            | send | connect | purge | removePeer | announceNow =>
                simp [Command.redirects] at hredirects
      next => contradiction
  | closed =>
      simp only [innerStep] at hstep
      split at hstep
      next =>
        cases hstep
        exact hsame rfl rfl rfl
      next => contradiction
  | reconnected server =>
      simp only [innerStep] at hstep
      split at hstep
      next =>
        cases hstep
        exact hsame rfl rfl rfl
      next => contradiction
  | task label =>
      simp only [innerStep] at hstep
      split at hstep
      next =>
        obtain ⟨client, -, rfl⟩ := Option.map_eq_some_iff.mp hstep
        exact hsame rfl rfl rfl
      next => contradiction
  | others data =>
      cases hstep
      exact hsame rfl rfl rfl

/-- Until the next `Connect` nothing goes out for a peer without an intent. -/
theorem runFrom_leftAlone
    {labels : List InnerLabel} {final : InnerLoop}
    (hrun : runFrom (innerStep P messages blobs frames keys) state labels =
      some final)
    (hlabels : ∀ label ∈ labels, .connect peer ∉ label.causes)
    (hgone : state.loop.intents peer = none) : LeftAlone peer state final := by
  induction labels generalizing state with
  | nil =>
      cases hrun
      exact ⟨hgone, rfl, rfl⟩
  | cons label rest ih =>
      obtain ⟨next, hstep, hrest⟩ := runFrom_cons_eq_some.mp hrun
      have hfirst := innerStep_leftAlone hgone
        (hlabels label List.mem_cons_self) hstep
      exact hfirst.trans (ih hrest
        (fun other hother => hlabels other (List.mem_cons_of_mem _ hother))
        hfirst.unarmed)

end Steps

/-- A peer which was never named in a `Connect` is not asked for, and one that
was purged or removed is not asked for again until the next `Connect`. -/
theorem forgotten_peer_left_alone
    (P : Primitives) (messages : Codec Message) (blobs : Codec BlobPayload)
    (frames : Codec PeerMessage) (keys : Keys) (peer : KeyType)
    {labels : List InnerLabel} {final : InnerLoop}
    (hlabels : ∀ label ∈ labels, .connect peer ∉ label.causes) :
    (∀ data, runFrom (innerStep P messages blobs frames keys)
        (.initial data) labels = some final →
      final.loop.intents peer = none ∧ final.requestsTo peer = 0 ∧
        final.toldOf peer = []) ∧
    ∀ state env cmd, cmd = .purge peer ∨ cmd = .removePeer peer →
      runFrom (innerStep P messages blobs frames keys) state
        (.command env cmd :: labels) = some final →
      final.loop.intents peer = none ∧
        final.requestsTo peer = state.requestsTo peer ∧
        final.toldOf peer = state.toldOf peer := by
  constructor
  · intro data hrun
    have halone := runFrom_leftAlone hrun hlabels rfl
    exact ⟨halone.unarmed, halone.requests, halone.told⟩
  · intro state env cmd hcmd hrun
    obtain ⟨next, hstep, hrest⟩ := runFrom_cons_eq_some.mp hrun
    have hredirects : cmd.redirects = false := by
      rcases hcmd with rfl | rfl <;> rfl
    have hforgotten : intentsAfter P env state.loop cmd peer = none := by
      rcases hcmd with rfl | rfl <;> simp [intentsAfter]
    simp only [innerStep] at hstep
    split at hstep
    next =>
      have hfirst := obey_leftAlone hstep hredirects hforgotten
      have hlast := runFrom_leftAlone hrest hlabels hfirst.unarmed
      exact ⟨hlast.unarmed, hlast.requests.trans hfirst.requests,
        hlast.told.trans hfirst.told⟩
    next => contradiction

/-- The user gives up on the contact: it comes online, a pass goes by. -/
def sampleForgetting : List InnerLabel :=
  [.event ⟨1010, 1000000000⟩ (some (.peerOnline ((sampleKeys 3).id
      .transparent) "203.0.113.9:4000")),
    .tick 1500000000, .readsSessions, .readsConnecting listedKeys, .passEnds]

set_option maxRecDepth 4000 in
theorem sampleForgetting_runs :
    ∃ before final, runFrom (innerStep .transparent transparentMessages
        transparentBlobs transparentFrames (sampleKeys 1))
        (.initial sampleShared) sampleDialing = some before ∧
      before.requestsTo ((sampleKeys 3).id .transparent) = 1 ∧
      runFrom (innerStep .transparent transparentMessages transparentBlobs
        transparentFrames (sampleKeys 1)) before
        (.command sampleLoopEnv (.purge ((sampleKeys 3).id .transparent)) ::
          sampleForgetting) = some final :=
  ⟨_, _, rfl, rfl, rfl⟩

theorem sample_peer_forgotten :
    ∃ before final, runFrom (innerStep .transparent transparentMessages
        transparentBlobs transparentFrames (sampleKeys 1))
        (.initial sampleShared) sampleDialing = some before ∧
      runFrom (innerStep .transparent transparentMessages transparentBlobs
        transparentFrames (sampleKeys 1)) before
        (.command sampleLoopEnv (.purge ((sampleKeys 3).id .transparent)) ::
          sampleForgetting) = some final ∧
      final.loop.intents ((sampleKeys 3).id .transparent) = none ∧
      final.requestsTo ((sampleKeys 3).id .transparent) = 1 := by
  obtain ⟨before, final, hbefore, hrequests, hrun⟩ := sampleForgetting_runs
  obtain ⟨hgone, hsame, -⟩ := (forgotten_peer_left_alone .transparent
    transparentMessages transparentBlobs transparentFrames (sampleKeys 1)
    ((sampleKeys 3).id .transparent) (by decide)).2 before sampleLoopEnv
      (.purge ((sampleKeys 3).id .transparent)) (Or.inl rfl) hrun
  exact ⟨before, final, hbefore, hrun, hgone, hsame.trans hrequests⟩

/-! ## The connect tasks -/

/-- The steps of tasks and the frames for sessions, as both levels show
them. -/
def ConnectLabel.shown (label : ConnectLabel) : List ConnectLabel :=
  match label with
  | .punchHole _ => []
  | .dropSession _ => []
  | .shutdown => []
  | _ => [label]

def InnerLabel.shown : InnerLabel → List ConnectLabel
  | .task connectLabel => connectLabel.shown
  | .event _ (some (.relayData senderHash payload)) =>
      [.relayData senderHash payload]
  | _ => []

section ConnectTasks

variable {P : Primitives} {messages : Codec Message}
  {blobs : Codec BlobPayload} {frames : Codec PeerMessage} {keys : Keys}
  {state next : InnerLoop}

/-- The connect tasks get from the client of one state to that of the next by
the labels that are shown. -/
def FollowedBy (P : Primitives) (frames : Codec PeerMessage) (keys : Keys)
    (shown : List ConnectLabel) (state next : InnerLoop) : Prop :=
  ∃ connectLabels,
    runFrom (connectStep P frames keys) state.client connectLabels =
      some next.client ∧
    connectLabels.flatMap ConnectLabel.shown = shown

theorem FollowedBy.of_same (hclient : next.client = state.client) :
    FollowedBy P frames keys [] state next :=
  ⟨[], by rw [hclient]; rfl, rfl⟩

theorem FollowedBy.of_step
    (label : ConnectLabel)
    (hstep : connectStep P frames keys state.client label =
      some next.client) :
    FollowedBy P frames keys label.shown state next :=
  ⟨[label], runFrom_cons_eq_some.mpr ⟨next.client, hstep, rfl⟩, by simp⟩

/-- Commands drop the entry of one peer at most. -/
theorem withLoop_followedBy
    {loop : CommandLoop} (hnext : next.client = (state.withLoop loop).client)
    (hsessions : loop.sessionMap = state.loop.sessionMap ∨
      ∃ peer, loop.sessionMap =
        Function.update state.loop.sessionMap peer none) :
    FollowedBy P frames keys [] state next := by
  have hshared := state.shared
  rcases hsessions with hsame | ⟨peer, hdropped⟩
  · apply FollowedBy.of_same
    rw [hnext, InnerLoop.withLoop]
    simp only [hsame, ← hshared]
  · apply FollowedBy.of_step (.dropSession peer)
    rw [hnext, InnerLoop.withLoop]
    simp only [hdropped, ← hshared]
    rfl

theorem receive_followedBy
    {env : EventEnv} {event : Option ServerEvent}
    (hreceive : state.receive P env event = some next) :
    FollowedBy P frames keys (InnerLabel.event env event).shown state next := by
  cases event with
  | none =>
      cases hreceive
      exact .of_same rfl
  | some event =>
      cases event with
      | relayData senderHash payload =>
          simp only [InnerLoop.receive, InnerLoop.handleServerEvent,
            Option.map_eq_some_iff] at hreceive
          obtain ⟨client, hroute, rfl⟩ := hreceive
          exact .of_step (.relayData senderHash payload) hroute
      | punchHole token peerHash ipPort punchtimestamp =>
          simp only [InnerLoop.receive, InnerLoop.handleServerEvent,
            Option.some.injEq] at hreceive
          subst hreceive
          unfold InnerLoop.punchHole
          simp only
          split
          next => exact .of_same rfl
          next peer _ =>
            exact ⟨[.punchHole peer], rfl, rfl⟩
      | authenticated | peerOnline | peerOffline | holePunchDenied
      | blobStored | disconnected =>
          cases hreceive
          exact .of_same rfl

theorem obey_followedBy
    {env : LoopEnv} {cmd : Command}
    (hobey : state.obey P messages blobs keys env cmd = some next) :
    FollowedBy P frames keys [] state next := by
  cases hredirects : cmd.redirects with
  | false =>
      obtain ⟨result, hresult, rfl⟩ := obey_eq_some hredirects hobey
      exact withLoop_followedBy rfl (handleCommand_obeyed hresult).sessions
  | true =>
      cases cmd with
      | setServer addr =>
          cases hobey
          exact .of_same rfl
      | shutdown =>
          obtain ⟨server, -, rfl⟩ := Option.map_eq_some_iff.mp hobey
          exact .of_step .shutdown rfl
      | send | connect | purge | removePeer | announceNow =>
          simp [Command.redirects] at hredirects

theorem drives_client
    {env : RequestEnv} (hstep : state.drives P keys env = some next) :
    next.client = state.client := by
  unfold InnerLoop.drives at hstep
  split at hstep
  next instant live id rest hphase =>
    simp only at hstep
    cases hintent : state.loop.intents id with
    | none =>
        simp only [hintent, Option.some.injEq] at hstep
        rw [← hstep]
    | some intent =>
        simp only [hintent] at hstep
        obtain ⟨sent, hdriven⟩ := drive_driven hstep hintent
        exact hdriven.client
  next => contradiction

theorem innerStep_followedBy
    {label : InnerLabel}
    (hstep : innerStep P messages blobs frames keys state label = some next) :
    FollowedBy P frames keys label.shown state next := by
  cases label with
  | tick instant =>
      simp only [innerStep] at hstep
      split at hstep
      next =>
        cases hstep
        exact .of_same rfl
      next => contradiction
  | readsSessions =>
      simp only [innerStep] at hstep
      split at hstep
      next =>
        cases hstep
        exact .of_same rfl
      next => contradiction
  | readsConnecting order =>
      simp only [innerStep] at hstep
      split at hstep
      next =>
        cases hstep
        exact .of_same rfl
      next => contradiction
  | drives env => exact .of_same (drives_client hstep)
  | passEnds =>
      simp only [innerStep] at hstep
      split at hstep
      next =>
        cases hstep
        exact .of_same rfl
      next => contradiction
  | event env event =>
      simp only [innerStep] at hstep
      split at hstep
      next =>
        show FollowedBy P frames keys _ { state with clock := env.instant } next
        exact receive_followedBy hstep
      next => contradiction
  | command env cmd =>
      simp only [innerStep] at hstep
      split at hstep
      next =>
        show FollowedBy P frames keys _ { state with clock := env.instant } next
        exact obey_followedBy hstep
      next => contradiction
  | closed =>
      simp only [innerStep] at hstep
      split at hstep
      next =>
        cases hstep
        exact .of_same rfl
      next => contradiction
  | reconnected server =>
      simp only [innerStep] at hstep
      split at hstep
      next =>
        cases hstep
        exact .of_same rfl
      next => contradiction
  | task label =>
      simp only [innerStep] at hstep
      split at hstep
      next =>
        obtain ⟨client, hclient, rfl⟩ := Option.map_eq_some_iff.mp hstep
        exact .of_step label hclient
      next => contradiction
  | others data =>
      cases hstep
      exact .of_same rfl

/-- The client of the inner loop is that of the connect tasks. -/
def HasClient (state : InnerLoop) (client : ClientState) : Prop :=
  state.client = client

theorem HasClient.step
    {label : InnerLabel} {client : ClientState}
    (hclient : HasClient state client)
    (hstep : innerStep P messages blobs frames keys state label = some next) :
    ∃ connectLabels after,
      runFrom (connectStep P frames keys) client connectLabels = some after ∧
      connectLabels.flatMap ConnectLabel.shown = label.shown ∧
      HasClient next after := by
  obtain ⟨connectLabels, hconnect, hshown⟩ := innerStep_followedBy hstep
  rw [HasClient] at hclient
  rw [hclient] at hconnect
  exact ⟨connectLabels, next.client, hconnect, hshown, rfl⟩

/-- In a run of the inner loop the `Connecting` set lists the peers that an
attempt holds. -/
theorem reservations_of_innerRun
    {data : SharedData} {labels : List InnerLabel} {final : InnerLoop}
    (hrun : runFrom (innerStep P messages blobs frames keys) (.initial data)
      labels = some final) :
    Matches (final.client.holder P) final.client.connecting := by
  have hinitial : HasClient (.initial data) .initial := rfl
  obtain ⟨connectLabels, client, hconnect, -, hclient⟩ :=
    runFrom_refines (fun hclient hstep => hclient.step hstep) hinitial hrun
  subst hclient
  exact (reservations_of_run P frames keys hconnect).2

end ConnectTasks

/-- The sessions and connect attempts of the inner loop are those of a run of
the connect tasks alone, with the same steps of tasks and the same frames in
the same order.  So no two attempts hold one peer, and the `Connecting` set
lists the held peers. -/
theorem inner_loop_runs_connect_tasks
    (P : Primitives) (messages : Codec Message) (blobs : Codec BlobPayload)
    (frames : Codec PeerMessage) (keys : Keys) (data : SharedData)
    {labels : List InnerLabel} {final : InnerLoop}
    (hrun : runFrom (innerStep P messages blobs frames keys) (.initial data)
      labels = some final) :
    (∃ connectLabels,
      runFrom (connectStep P frames keys) .initial connectLabels =
        some final.client ∧
      connectLabels.flatMap ConnectLabel.shown =
        labels.flatMap InnerLabel.shown) ∧
    final.loop.sessionMap = final.client.sessionMap ∧
    Matches (final.client.holder P) final.client.connecting := by
  have hinitial : HasClient (.initial data) .initial := rfl
  obtain ⟨connectLabels, client, hconnect, hshown, hclient⟩ :=
    runFrom_refines (fun hclient hstep => hclient.step hstep) hinitial hrun
  subst hclient
  exact ⟨⟨connectLabels, hconnect, hshown⟩, final.shared.symm,
    reservations_of_innerRun hrun⟩

/-- The contact is asked for, the server brokers a hole punch, and the attempt
reserves the contact. -/
def sampleBrokering : List InnerLabel :=
  sampleDialing ++ [.event ⟨1001, 0⟩ (some (.punchHole (Vector.replicate 32 0)
      ((sampleKeys 3).id .transparent) "203.0.113.9:4000" 1001)),
    .task (.lookup 0), .task (.reserve 0 (Vector.replicate 32 7))]

set_option maxRecDepth 4000 in
theorem sampleBrokering_runs :
    ∃ final, runFrom (innerStep .transparent transparentMessages
        transparentBlobs transparentFrames (sampleKeys 1))
        (.initial sampleShared) sampleBrokering = some final ∧
      (sampleKeys 3).id .transparent ∈ final.client.connecting :=
  ⟨_, rfl, by decide⟩

theorem sample_attempt_holds_contact :
    ∃ final, runFrom (innerStep .transparent transparentMessages
        transparentBlobs transparentFrames (sampleKeys 1))
        (.initial sampleShared) sampleBrokering = some final ∧
      ∃ task, final.client.holder .transparent task =
        some ((sampleKeys 3).id .transparent) := by
  obtain ⟨final, hrun, hmem⟩ := sampleBrokering_runs
  have hmatch := (inner_loop_runs_connect_tasks .transparent
    transparentMessages transparentBlobs transparentFrames (sampleKeys 1)
    sampleShared hrun).2.2
  exact ⟨final, hrun, (hmatch.mem_iff _).mp hmem⟩

/-! ## Peers that are engaged -/

section Snapshot

variable {P : Primitives} {messages : Codec Message}
  {blobs : Codec BlobPayload} {frames : Codec PeerMessage} {keys : Keys}
  {state next : InnerLoop} {instant : ℕ} {live sessions : KeyType → Bool}

/-- Where a step can take `drive_retries` while it is underway. -/
inductive PassMove (state : InnerLoop) : InnerLabel → RetryPhase → Prop
  | stays (label : InnerLabel) : PassMove state label state.phase
  | lists (hbegun : state.phase = .begun) :
      PassMove state .readsSessions
        (.listed fun peer => (state.client.sessionMap peer).isSome)
  | snapshots (sessions : KeyType → Bool) (order : MapOrder)
      (hlisted : state.phase = .listed sessions) :
      PassMove state (.readsConnecting order)
        (.driving ⟨state.clock,
          fun peer => sessions peer || decide (peer ∈ state.client.connecting),
          order.arrange state.armed⟩)
  | drives (env : RequestEnv) (pass : RetryPass) (rest : List KeyType)
      (hdriving : state.phase = .driving pass) :
      PassMove state (.drives env) (.driving { pass with remaining := rest })

theorem drives_passMove
    {env : RequestEnv} (hstep : state.drives P keys env = some next) :
    next.clock = state.clock ∧ PassMove state (.drives env) next.phase := by
  unfold InnerLoop.drives at hstep
  split at hstep
  next instant live id rest hphase =>
    simp only at hstep
    cases hintent : state.loop.intents id with
    | none =>
        simp only [hintent, Option.some.injEq] at hstep
        subst hstep
        exact ⟨rfl, .drives env _ rest hphase⟩
    | some intent =>
        simp only [hintent] at hstep
        obtain ⟨sent, hdriven⟩ := drive_driven hstep hintent
        rw [hdriven.phase]
        exact ⟨hdriven.clock, .drives env _ rest hphase⟩
  next => contradiction

/-- Events, commands and the next tick wait for the end of the pass. -/
theorem innerStep_passMove
    {label : InnerLabel} (hbusy : state.phase ≠ .idle)
    (hlabel : label ≠ .passEnds)
    (hstep : innerStep P messages blobs frames keys state label = some next) :
    next.clock = state.clock ∧ PassMove state label next.phase := by
  have hnotIdle : ¬ state.Idle := fun hidle => hbusy hidle.2
  cases label with
  | tick instant => simp [innerStep, hnotIdle] at hstep
  | readsSessions =>
      simp only [innerStep] at hstep
      split at hstep
      next hbegun =>
        cases hstep
        exact ⟨rfl, .lists hbegun⟩
      next => contradiction
  | readsConnecting order =>
      simp only [innerStep] at hstep
      split at hstep
      next sessions hlisted =>
        cases hstep
        exact ⟨rfl, .snapshots sessions order hlisted⟩
      next => contradiction
  | drives env => exact drives_passMove hstep
  | passEnds => exact absurd rfl hlabel
  | event env event => simp [innerStep, hnotIdle] at hstep
  | command env cmd => simp [innerStep, hnotIdle] at hstep
  | closed => simp [innerStep, hnotIdle] at hstep
  | reconnected server =>
      simp only [innerStep] at hstep
      split at hstep
      next =>
        cases hstep
        exact ⟨rfl, .stays _⟩
      next => contradiction
  | task label =>
      simp only [innerStep] at hstep
      split at hstep
      next =>
        obtain ⟨client, -, rfl⟩ := Option.map_eq_some_iff.mp hstep
        exact ⟨rfl, .stays _⟩
      next => contradiction
  | others data =>
      cases hstep
      exact ⟨rfl, .stays _⟩

/-- The pass which began at the instant is underway. -/
def SinceTick (instant : ℕ) (state : InnerLoop) : Prop :=
  match state.phase with
  | .idle => False
  | .begun => state.clock = instant
  | .listed _ => state.clock = instant
  | .driving pass => pass.instant = instant

/-- The pass has listed the sessions as given. -/
def SinceListed (sessions : KeyType → Bool) (state : InnerLoop) : Prop :=
  match state.phase with
  | .idle => False
  | .begun => False
  | .listed listed => listed = sessions
  | .driving _ => True

/-- The pass drives the intents by the given snapshot. -/
def SinceSnapshot (live : KeyType → Bool) (state : InnerLoop) : Prop :=
  ∃ pass, state.phase = .driving pass ∧ pass.live = live

theorem SinceTick.step
    {label : InnerLabel} (hsince : SinceTick instant state)
    (hlabel : label ≠ .passEnds)
    (hstep : innerStep P messages blobs frames keys state label = some next) :
    SinceTick instant next := by
  have hbusy : state.phase ≠ .idle := by
    intro hidle
    rw [SinceTick, hidle] at hsince
    exact hsince
  obtain ⟨hclock, hmove⟩ := innerStep_passMove hbusy hlabel hstep
  unfold SinceTick at hsince ⊢
  rw [hclock]
  generalize next.phase = after at hmove
  cases hmove with
  | stays => exact hsince
  | lists hbegun => simpa only [hbegun] using hsince
  | snapshots sessions order hlisted => simpa only [hlisted] using hsince
  | drives env pass rest hdriving => simpa only [hdriving] using hsince

theorem SinceListed.step
    {label : InnerLabel} (hsince : SinceListed sessions state)
    (hlabel : label ≠ .passEnds)
    (hstep : innerStep P messages blobs frames keys state label = some next) :
    SinceListed sessions next := by
  have hbusy : state.phase ≠ .idle := by
    intro hidle
    rw [SinceListed, hidle] at hsince
    exact hsince
  have hmove := (innerStep_passMove hbusy hlabel hstep).2
  unfold SinceListed at hsince ⊢
  generalize next.phase = after at hmove
  cases hmove with
  | stays => exact hsince
  | lists hbegun => simp only [hbegun] at hsince
  | snapshots sessions order hlisted => trivial
  | drives env pass rest hdriving => trivial

theorem SinceSnapshot.step
    {label : InnerLabel} (hsince : SinceSnapshot live state)
    (hlabel : label ≠ .passEnds)
    (hstep : innerStep P messages blobs frames keys state label = some next) :
    SinceSnapshot live next := by
  obtain ⟨pass, hphase, hlive⟩ := hsince
  have hbusy : state.phase ≠ .idle := by simp [hphase]
  have hmove := (innerStep_passMove hbusy hlabel hstep).2
  unfold SinceSnapshot
  generalize next.phase = after at hmove
  cases hmove with
  | stays => exact ⟨pass, hphase, hlive⟩
  | lists hbegun => simp [hphase] at hbegun
  | snapshots sessions order hlisted => simp [hphase] at hlisted
  | drives env other rest hdriving =>
      rw [hphase] at hdriving
      cases hdriving
      exact ⟨_, rfl, hlive⟩

/-- What the steps of one pass keep holds until it ends. -/
theorem runFrom_untilPassEnds
    {Inv : InnerLoop → Prop}
    (hkeep : ∀ {state label next}, Inv state → label ≠ .passEnds →
      innerStep P messages blobs frames keys state label = some next →
      Inv next)
    {labels : List InnerLabel} {final : InnerLoop} (hinv : Inv state)
    (hlabels : ∀ label ∈ labels, label ≠ .passEnds)
    (hrun : runFrom (innerStep P messages blobs frames keys) state labels =
      some final) : Inv final :=
  runFrom_invariant_of_allSteps Inv
    (fun _ _ _ hstate hlabel hstep => hkeep hstate hlabel hstep) hinv
    (allSteps_of_forall_mem (fun label hmem _ => hlabels label hmem) state)
    hrun

/-- Without a punch no request goes out. -/
theorem Driven.requestsTo_eq
    {env : RequestEnv} {peer : KeyType} {intent : ConnectIntent}
    {listed sent : Bool}
    (hdriven : Driven env instant listed peer intent sent state next)
    (hother : nextRetryAction intent listed instant ≠ .punch) :
    next.requestsTo peer = state.requestsTo peer := by
  rw [InnerLoop.requestsTo, hdriven.tries, if_pos rfl, List.countP_append]
  have hnone : (passEffect ⟨listed, sent, env.rearmDelay⟩ instant
      intent).entries.filterMap LadderEntry.triedAt = [] := by
    unfold passEffect
    cases haction : nextRetryAction intent listed instant with
    | punch => exact absurd haction hother
    | done =>
        simp only
        split <;> rfl
    | giveUp | wait => simp [PassEffect.entries, LadderEntry.triedAt]
  rw [hnone]
  rfl

/-- A request goes out for a peer whose intent says so and which the snapshot
does not list. -/
theorem drives_asks
    {env : RequestEnv} {peer : KeyType} (hsince : SinceTick instant state)
    (hsnapshot : SinceSnapshot live state)
    (hstep : state.drives P keys env = some next)
    (hasked : next.requestsTo peer ≠ state.requestsTo peer) :
    live peer = false ∧ ∃ intent, state.loop.intents peer = some intent ∧
      nextRetryAction intent false instant = .punch := by
  obtain ⟨⟨began, snapshot, remaining⟩, hphase, hlive⟩ := hsnapshot
  rw [SinceTick, hphase] at hsince
  simp only at hsince hlive
  subst began snapshot
  unfold InnerLoop.drives at hstep
  rw [hphase] at hstep
  cases remaining with
  | nil => contradiction
  | cons id rest =>
      simp only at hstep
      cases hintent : state.loop.intents id with
      | none =>
          simp only [hintent, Option.some.injEq] at hstep
          subst hstep
          exact absurd rfl hasked
      | some intent =>
          simp only [hintent] at hstep
          obtain ⟨sent, hdriven⟩ := drive_driven hstep hintent
          have hpeer : peer = id := by
            by_contra hne
            apply hasked
            rw [InnerLoop.requestsTo, hdriven.tries, if_neg hne,
              List.append_nil]
            rfl
          subst hpeer
          have hpunch : nextRetryAction intent (live peer) instant = .punch :=
            by_contra fun hother => hasked (hdriven.requestsTo_eq hother)
          cases hlive : live peer with
          | true =>
              rw [hlive] at hpunch
              contradiction
          | false => exact ⟨rfl, intent, hintent, by rwa [hlive] at hpunch⟩

end Snapshot

/-- Whatever happens while a pass is underway, a punch request goes out only
for a peer that had no session when the pass listed the sessions and no attempt
in flight when it then read the `Connecting` set, and whose intent is online,
not exhausted and was due when the pass began. -/
theorem engaged_peer_not_asked
    (P : Primitives) (messages : Codec Message) (blobs : Codec BlobPayload)
    (frames : Codec PeerMessage) (keys : Keys) (data : SharedData)
    (peer : KeyType) {first waiting between middle : List InnerLabel}
    {instant : ℕ} {order : MapOrder} {env : RequestEnv}
    {listing connecting state next : InnerLoop}
    (hlisting : runFrom (innerStep P messages blobs frames keys)
      (.initial data) (first ++ .tick instant :: waiting) = some listing)
    (hconnecting : runFrom (innerStep P messages blobs frames keys) listing
      (.readsSessions :: between) = some connecting)
    (hstate : runFrom (innerStep P messages blobs frames keys) connecting
      (.readsConnecting order :: middle) = some state)
    (hpass : ∀ label ∈ waiting ++ between ++ middle, label ≠ .passEnds)
    (hdrives : innerStep P messages blobs frames keys state (.drives env) =
      some next)
    (hasked : next.requestsTo peer ≠ state.requestsTo peer) :
    listing.client.sessionMap peer = none ∧
      (∀ task, connecting.client.holder P task ≠ some peer) ∧
      ∃ intent, state.loop.intents peer = some intent ∧
        intent.online = true ∧ intent.attempts < maxConnectAttempts ∧
        intent.dueAt ≤ instant := by
  simp only [List.mem_append, or_imp, forall_and] at hpass
  obtain ⟨⟨hwaiting, hbetween⟩, hmiddle⟩ := hpass
  -- the three reads and what the pass keeps of each
  obtain ⟨idle, -, htick⟩ := runFrom_append_eq_some.mp hlisting
  obtain ⟨begun, hbegins, htick⟩ := runFrom_cons_eq_some.mp htick
  obtain ⟨listed, hlists, hsessions⟩ := runFrom_cons_eq_some.mp hconnecting
  obtain ⟨driving, hreads, hrest⟩ := runFrom_cons_eq_some.mp hstate
  have hsinceTick : SinceTick instant state := by
    have hbegun : SinceTick instant begun := by
      simp only [innerStep] at hbegins
      split at hbegins
      next =>
        cases hbegins
        exact rfl
      next => contradiction
    have hatListing := runFrom_untilPassEnds (fun h => h.step) hbegun hwaiting
      htick
    have hatListed := hatListing.step (by simp) hlists
    have hatConnecting := runFrom_untilPassEnds (fun h => h.step) hatListed
      hbetween hsessions
    exact runFrom_untilPassEnds (fun h => h.step)
      (hatConnecting.step (by simp) hreads) hmiddle hrest
  have hsinceListed : SinceListed
      (fun id => (listing.client.sessionMap id).isSome) connecting := by
    have hatListed : SinceListed
        (fun id => (listing.client.sessionMap id).isSome) listed := by
      simp only [innerStep] at hlists
      split at hlists
      next =>
        cases hlists
        exact rfl
      next => contradiction
    exact runFrom_untilPassEnds (fun h => h.step) hatListed hbetween hsessions
  have hsinceSnapshot : SinceSnapshot (fun id =>
      (listing.client.sessionMap id).isSome ||
        decide (id ∈ connecting.client.connecting)) state := by
    have hatDriving : SinceSnapshot (fun id =>
        (listing.client.sessionMap id).isSome ||
          decide (id ∈ connecting.client.connecting)) driving := by
      simp only [innerStep] at hreads
      split at hreads
      next sessions hphase =>
        cases hreads
        rw [SinceListed, hphase] at hsinceListed
        simp only at hsinceListed
        subst hsinceListed
        exact ⟨_, rfl, rfl⟩
      next => contradiction
    exact runFrom_untilPassEnds (fun h => h.step) hatDriving hmiddle hrest
  obtain ⟨hfree, intent, hintent, hpunch⟩ :=
    drives_asks hsinceTick hsinceSnapshot hdrives hasked
  simp only [Bool.or_eq_false_iff, Option.isSome_eq_false_iff,
    Option.isNone_iff_eq_none, decide_eq_false_iff_not] at hfree
  have hmatch := reservations_of_innerRun
    (runFrom_append_eq_some.mpr ⟨listing, hlisting, hconnecting⟩)
  refine ⟨hfree.1, ?_, intent, hintent,
    (nextRetryAction_eq_punch intent instant).mp hpunch⟩
  intro task htask
  exact hfree.2 ((hmatch.mem_iff peer).mpr ⟨task, htask⟩)

/-- The contact has asked for a connection itself, and the attempt holds it
when the pass lists the sessions. -/
def sampleListing : List InnerLabel :=
  [.reconnected ⟨true, .empty⟩,
    .command sampleLoopEnv (.connect ((sampleKeys 3).id .transparent)),
    .event ⟨1000, 0⟩ (some (.peerOnline ((sampleKeys 3).id .transparent)
      "203.0.113.9:4000")),
    .event ⟨1001, 0⟩ (some (.punchHole (Vector.replicate 32 0)
      ((sampleKeys 3).id .transparent) "203.0.113.9:4000" 1001)),
    .task (.lookup 0), .task (.reserve 0 (Vector.replicate 32 7))]

/-- Before the pass reads the `Connecting` set the attempt has inserted its
session and dropped its guard. -/
def samplePublishing : List InnerLabel :=
  [.task (.punched 0 (some "203.0.113.9:4000")),
    .task (.handshaken 0 (some (Vector.replicate 32 5))),
    .task (.insert 0), .task (.finish 0)]

set_option maxRecDepth 4000 in
theorem samplePublishing_asks :
    ∃ listing connecting state next,
      runFrom (innerStep .transparent transparentMessages transparentBlobs
        transparentFrames (sampleKeys 1)) (.initial sampleShared)
        (sampleListing ++ [.tick 0]) = some listing ∧
      runFrom (innerStep .transparent transparentMessages transparentBlobs
        transparentFrames (sampleKeys 1)) listing
        (.readsSessions :: samplePublishing) = some connecting ∧
      runFrom (innerStep .transparent transparentMessages transparentBlobs
        transparentFrames (sampleKeys 1)) connecting
        [.readsConnecting listedKeys] = some state ∧
      innerStep .transparent transparentMessages transparentBlobs
        transparentFrames (sampleKeys 1) state
        (.drives ⟨1001, 0, ⟨true, .empty⟩⟩) = some next ∧
      (∃ task, listing.client.holder .transparent task =
        some ((sampleKeys 3).id .transparent)) ∧
      (connecting.client.sessionMap
        ((sampleKeys 3).id .transparent)).isSome = true ∧
      state.requestsTo ((sampleKeys 3).id .transparent) = 0 ∧
      next.requestsTo ((sampleKeys 3).id .transparent) = 1 :=
  ⟨_, _, _, _, rfl, rfl, rfl, rfl, ⟨0, rfl⟩, rfl, rfl, rfl⟩

/-- The contact is asked although an attempt or a session of it was there all
the time; neither was there when it was looked for. -/
theorem sample_asked_between_reads :
    ∃ listing connecting,
      runFrom (innerStep .transparent transparentMessages transparentBlobs
        transparentFrames (sampleKeys 1)) (.initial sampleShared)
        (sampleListing ++ [.tick 0]) = some listing ∧
      runFrom (innerStep .transparent transparentMessages transparentBlobs
        transparentFrames (sampleKeys 1)) listing
        (.readsSessions :: samplePublishing) = some connecting ∧
      listing.client.sessionMap ((sampleKeys 3).id .transparent) = none ∧
      (∃ task, listing.client.holder .transparent task =
        some ((sampleKeys 3).id .transparent)) ∧
      (∀ task, connecting.client.holder .transparent task ≠
        some ((sampleKeys 3).id .transparent)) ∧
      (connecting.client.sessionMap
        ((sampleKeys 3).id .transparent)).isSome = true := by
  obtain ⟨listing, connecting, state, next, hlisting, hconnecting, hstate,
    hdrives, hheld, hsession, hnone, hone⟩ := samplePublishing_asks
  have hasked : next.requestsTo ((sampleKeys 3).id .transparent) ≠
      state.requestsTo ((sampleKeys 3).id .transparent) := by
    rw [hnone, hone]
    decide
  obtain ⟨hvacant, hfree, -⟩ :=
    engaged_peer_not_asked .transparent transparentMessages transparentBlobs
      transparentFrames (sampleKeys 1) sampleShared
      ((sampleKeys 3).id .transparent) hlisting hconnecting hstate
      (by simp [samplePublishing]) hdrives hasked
  exact ⟨listing, connecting, hlisting, hconnecting, hvacant, hheld, hfree,
    hsession⟩

end SechatClient
