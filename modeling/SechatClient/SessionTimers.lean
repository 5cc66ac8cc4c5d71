import SechatClient.ReceiveLoops

/-!
# Timers of a session

The receive loops of a session give up after 45 seconds without a datagram,
the send loops send a heartbeat every 15 seconds.  Heartbeats which are late
or lost within bounds keep the loop of the peer running, so that the timers
change nothing about what a session delivers; and when nothing comes any more
the loop ends within the limit.  Times are in milliseconds.
-/

namespace SechatClient

open ByteStrings Watchdog

/-- `HEARTBEAT_SECS` -/
def heartbeatMillis : ℕ := 15 * 1000

/-! ## The heartbeats of the peer -/

/-- A turn of the send loop with the time of its frame, and when the frame
arrives unless it is lost. -/
structure TimedTurn where
  outgoing : Outgoing
  sent : ℕ
  arrived : Option ℕ

def TimedTurn.heartbeat? (turn : TimedTurn) : Option Beat :=
  match turn.outgoing with
  | .heartbeat => some ⟨turn.sent, turn.arrived⟩
  | .text _ => none
  | .closed => none

def heartbeats (turns : List TimedTurn) : List Beat :=
  turns.filterMap TimedTurn.heartbeat?

/-- A send loop whose interval started at `start`: every heartbeat is sent at
most `lag` after it is due, up to `horizon`, of any `losses + 1` in a row one
arrives, and it takes at most `delay`. -/
structure HeartbeatsArrive (start lag losses delay horizon : ℕ)
    (turns : List TimedTurn) : Prop where
  paced : Paced heartbeatMillis lag (start + heartbeatMillis)
    (heartbeats turns) horizon
  loss : BoundedLoss losses delay (heartbeats turns)

/-- The heartbeats that arrive are among what the loop takes in, in the order
of its arrival and up to `horizon`. -/
structure TakesIn {α : Type} (horizon : ℕ) (turns : List TimedTurn)
    (inbound : List (Timed α)) : Prop where
  sorted : (inbound.map Timed.arrived).Pairwise (· ≤ ·)
  until_horizon : ∀ item ∈ inbound, item.arrived ≤ horizon
  heartbeats : ∀ beat ∈ heartbeats turns, ∀ time, beat.arrived = some time →
    time ∈ inbound.map Timed.arrived

theorem HeartbeatsArrive.guarded {α : Type} {start lag losses delay horizon : ℕ}
    {turns : List TimedTurn}
    (hsent : HeartbeatsArrive start lag losses delay horizon turns)
    (hlimit : heartbeatMillis * (losses + 1) + lag + delay ≤
      sessionIdleTimeoutMillis)
    {inbound : List (Timed α)} (htaken : TakesIn horizon turns inbound)
    (step : RecvState → α → RecvState × Bool) :
    (guarded sessionIdleTimeoutMillis step start .initial inbound).toLoopRun =
        loop step .initial (inbound.map Timed.item) ∧
      ((guarded sessionIdleTimeoutMillis step start .initial inbound).stopped =
          false →
        horizon < (guarded sessionIdleTimeoutMillis step start .initial
          inbound).endedAt) :=
  guarded_of_fed htaken.sorted htaken.until_horizon
    (hsent.paced.fedUntil (by decide) hsent.loss hlimit htaken.heartbeats)
    RecvState.initial

/-- Heartbeats that are late or lost within bounds keep a session open: over
either transport the receive loop with its timer delivers what it would
deliver without, and it does not run into the timeout before the horizon. -/
theorem heartbeats_keep_session_open (P : Primitives)
    (frames : Codec PeerMessage) (receiver : Receiver) (remote : SocketAddr)
    {start lag losses delay horizon : ℕ} {turns : List TimedTurn}
    (hsent : HeartbeatsArrive start lag losses delay horizon turns)
    (hlimit : heartbeatMillis * (losses + 1) + lag + delay ≤
      sessionIdleTimeoutMillis)
    {inbound : List (Timed Delivery)} (hinbound : TakesIn horizon turns inbound)
    {datagrams : List (Timed Datagram)}
    (hdatagrams : TakesIn horizon turns datagrams) :
    let relay := timedRecvLoop P frames receiver start inbound
    let direct := timedDirectRecvLoop P frames receiver remote start datagrams
    let untimedRelay := recvLoop P frames receiver .initial
      (inbound.map Timed.item)
    let untimedDirect := directRecvLoop P frames receiver remote .initial
      (datagrams.map Timed.item)
    (relay.state = untimedRelay.state ∧ relay.stopped = untimedRelay.stopped ∧
        (relay.stopped = false → horizon < relay.endedAt)) ∧
      direct.state = untimedDirect.state ∧
        direct.stopped = untimedDirect.stopped ∧
        (direct.stopped = false → horizon < direct.endedAt) := by
  obtain ⟨hrelay, hrelayOpen⟩ := hsent.guarded hlimit hinbound
    (handleInboundFrame P frames receiver)
  obtain ⟨hdirect, hdirectOpen⟩ := hsent.guarded hlimit hdatagrams
    (directRecvStep P frames receiver remote)
  rw [loop_handleInboundFrame] at hrelay
  rw [loop_directRecvStep] at hdirect
  exact ⟨⟨congrArg LoopRun.state hrelay, congrArg LoopRun.stopped hrelay,
      hrelayOpen⟩,
    congrArg LoopRun.state hdirect, congrArg LoopRun.stopped hdirect,
    hdirectOpen⟩

/-- The second of three heartbeats is lost. -/
def sampleTurns : List TimedTurn :=
  [⟨.heartbeat, 15000, some 16000⟩, ⟨.text "hi", 20000, none⟩,
    ⟨.heartbeat, 30000, none⟩, ⟨.heartbeat, 45500, some 46000⟩]

theorem heartbeats_sampleTurns :
    heartbeats sampleTurns =
      [⟨15000, some 16000⟩, ⟨30000, none⟩, ⟨45500, some 46000⟩] := rfl

theorem sampleTurns_arrive :
    HeartbeatsArrive 0 1000 1 2000 60000 sampleTurns where
  paced := by
    simp [heartbeats_sampleTurns, Paced, heartbeatMillis]
  loss := by
    intro index hindex
    have hcases : index = 0 ∨ index = 1 := by
      rw [heartbeats_sampleTurns] at hindex
      simp only [List.length_cons, List.length_nil] at hindex
      omega
    rcases hcases with rfl | rfl
    · exact ⟨0, by decide, ⟨15000, some 16000⟩, rfl, 16000, rfl, by decide,
        by decide⟩
    · exact ⟨1, by decide, ⟨45500, some 46000⟩, rfl, 46000, rfl, by decide,
        by decide⟩

theorem sampleTurns_taken {α : Type} (first second : α) :
    TakesIn 60000 sampleTurns [⟨first, 16000, 0⟩, ⟨second, 46000, 5⟩] where
  sorted := by simp
  until_horizon := by simp
  heartbeats := by simp [heartbeats_sampleTurns]

/-- The loop of the sample session outlives the lost heartbeat. -/
theorem sample_session_stays_open :
    60000 < (timedRecvLoop .transparent transparentFrames
      ⟨.replicate 32 1, .replicate 32 2, .replicate 32 3⟩ 0
      [⟨⟨[], 16, true⟩, 16000, 0⟩, ⟨⟨[], 46, true⟩, 46000, 5⟩]).endedAt := by
  have hopen := heartbeats_keep_session_open .transparent transparentFrames
    ⟨.replicate 32 1, .replicate 32 2, .replicate 32 3⟩ "203.0.113.7:4000"
    sampleTurns_arrive (by decide)
    (sampleTurns_taken (⟨[], 16, true⟩ : Delivery) ⟨[], 46, true⟩)
    (sampleTurns_taken (⟨"203.0.113.7:4000", [], 16, true⟩ : Datagram)
      ⟨"203.0.113.7:4000", [], 46, true⟩)
  exact hopen.1.2.2 rfl

/-! ## Silence -/

/-- The timer of a run that no frame stopped went off 45 seconds behind the
last item it took at the earliest, before the next item came, and at most 45
seconds behind everything that arrived and the time spent on it. -/
structure TimesOut {α : Type} (inbound taken : List (Timed α)) (silent : ℕ)
    (run : GuardedRun RecvState) : Prop where
  from_front : taken <+: inbound
  not_early : ∀ item ∈ taken,
    item.arrived + sessionIdleTimeoutMillis ≤ run.endedAt
  before_next : ∀ next ∈ (inbound.drop taken.length).head?,
    run.endedAt < next.arrived
  not_late : run.endedAt ≤
    silent + (inbound.map Timed.busy).sum + sessionIdleTimeoutMillis

theorem timesOut_of_silence {α : Type} (step : RecvState → α → RecvState × Bool)
    {armed silent : ℕ} (harmed : armed ≤ silent) {inbound : List (Timed α)}
    (hsilent : ∀ item ∈ inbound, item.arrived ≤ silent) :
    let run := guarded sessionIdleTimeoutMillis step armed RecvState.initial
      inbound
    ∃ taken, run.toLoopRun = loop step .initial (taken.map Timed.item) ∧
      (run.stopped = false → TimesOut inbound taken silent run) := by
  obtain ⟨taken, rest, hsplit, hrun, hended⟩ := guarded_cuts
    sessionIdleTimeoutMillis step inbound armed RecvState.initial
  refine ⟨taken, hrun, fun hopen => ?_⟩
  obtain ⟨htaken, -, hnext⟩ := hended hopen
  have hdrop : inbound.drop taken.length = rest := by
    rw [hsplit, List.drop_left]
  exact
    { from_front := ⟨rest, hsplit.symm⟩
      not_early := htaken
      before_next := by rwa [hdrop]
      not_late := endedAt_le_of_silence hsilent harmed RecvState.initial }

/-- When nothing arrives any more, from whomever, a receive loop that no frame
has stopped runs into its timeout, neither early nor late, having delivered
what the untimed loop delivers on the items it took. -/
theorem silent_session_times_out (P : Primitives)
    (frames : Codec PeerMessage) (receiver : Receiver) (remote : SocketAddr)
    {armed silent : ℕ} (harmed : armed ≤ silent)
    {inbound : List (Timed Delivery)}
    (hinbound : ∀ item ∈ inbound, item.arrived ≤ silent)
    {datagrams : List (Timed Datagram)}
    (hdatagrams : ∀ item ∈ datagrams, item.arrived ≤ silent) :
    let relay := timedRecvLoop P frames receiver armed inbound
    let direct := timedDirectRecvLoop P frames receiver remote armed datagrams
    (∃ taken, relay.state = (recvLoop P frames receiver .initial
          (taken.map Timed.item)).state ∧
        (relay.stopped = false → TimesOut inbound taken silent relay)) ∧
      ∃ taken, direct.state = (directRecvLoop P frames receiver remote .initial
          (taken.map Timed.item)).state ∧
        (direct.stopped = false →
          TimesOut datagrams taken silent direct) := by
  constructor
  · obtain ⟨taken, hrun, hended⟩ := timesOut_of_silence
      (handleInboundFrame P frames receiver) harmed hinbound
    rw [loop_handleInboundFrame] at hrun
    exact ⟨taken, congrArg LoopRun.state hrun, hended⟩
  · obtain ⟨taken, hrun, hended⟩ := timesOut_of_silence
      (directRecvStep P frames receiver remote) harmed hdatagrams
    rw [loop_directRecvStep] at hrun
    exact ⟨taken, congrArg LoopRun.state hrun, hended⟩

/-- The timer of a relay session which takes in one unreadable frame. -/
theorem sample_session_times_out :
    (timedRecvLoop .transparent transparentFrames
      ⟨.replicate 32 1, .replicate 32 2, .replicate 32 3⟩ 0
      [⟨⟨[], 16, true⟩, 16000, 5⟩]).endedAt ≤ 61005 := by
  have hinbound : ∀ item ∈ [(⟨⟨[], 16, true⟩, 16000, 5⟩ : Timed Delivery)],
      item.arrived ≤ 16000 := by simp
  have hdatagrams : ∀ item ∈ ([] : List (Timed Datagram)),
      item.arrived ≤ 16000 := by simp
  obtain ⟨⟨taken, -, hended⟩, -⟩ := silent_session_times_out .transparent
    transparentFrames ⟨.replicate 32 1, .replicate 32 2, .replicate 32 3⟩
    "203.0.113.7:4000" (Nat.zero_le 16000) hinbound hdatagrams
  exact (hended rfl).not_late

end SechatClient
