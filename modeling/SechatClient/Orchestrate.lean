import SechatClient.ConnectIntents
import SechatClient.StepSystem

/-!
# The orchestration loop

`orchestrate` calls `run_client` in its outer loop and reads the commands of
the application only in the inner loop, which it enters when the call
succeeds.  Between a failed call and the next one no command is read, so a new
server address or a shutdown has to wait for the server that cannot be
reached.

The state holds what decides which address is called when.  What the commands
do otherwise, the intents and the sessions are modelled elsewhere.
-/

namespace SechatClient

open StepSystem

inductive Command where
  | send (peer : KeyType) (text : String)
  | connect (peer : KeyType)
  | purge (peer : KeyType)
  | removePeer (peer : KeyType)
  | announceNow
  | setServer (addr : String)
  | shutdown
  deriving DecidableEq

/-- The commands which the inner loop of `orchestrate` acts on itself. -/
def Command.redirects : Command → Bool
  | .setServer _ => true
  | .shutdown => true
  | _ => false

inductive OrchestratePhase where
  /-- at the top of the outer loop -/
  | discovering
  /-- `run_client` has been called -/
  | attempting
  /-- in the inner loop -/
  | connected
  /-- in one of the two sleeps -/
  | sleeping
  | returned
  deriving DecidableEq

/-- The first arguments of a call of `run_client` that vary. -/
structure ClientCall where
  serverAddress : String
  announceOverride : Option String
  deriving DecidableEq

/-- `processed` and `failures` record the past: the commands read so far, and
for each failed call how many commands had been sent when it failed. -/
structure OrchestrateState where
  phase : OrchestratePhase
  serverAddress : String
  backoffSecs : ℕ
  savedServer : Option String
  queue : List Command
  appEvents : List AppEvent
  calls : List ClientCall
  processed : List Command
  failures : List ℕ

def OrchestrateState.initial (serverAddress : String) : OrchestrateState where
  phase := .discovering
  serverAddress := serverAddress
  backoffSecs := 1
  savedServer := none
  queue := []
  appEvents := []
  calls := []
  processed := []
  failures := []

inductive OrchestrateLabel where
  /-- a method of `Client` sends a command -/
  | command (cmd : Command)
  /-- `stun_discover` has returned, `run_client` is called -/
  | call (announce : Option String)
  | succeeds
  | fails (error : ClientErrors)
  | wakes
  /-- the retry tick or an event other than `Disconnected` -/
  | serves
  | disconnects
  /-- `cmd_rx.recv()` returns, `saved` is the outcome of `save_server` -/
  | recv (saved : Bool)
  /-- `cmd_rx.recv()` finds the channel empty and closed -/
  | closed

namespace OrchestrateState

variable (state : OrchestrateState)

def sleep : OrchestrateState :=
  { state with phase := .sleeping }

/-- The inner loop on the command in front of the queue. -/
def receive (saved : Bool) (cmd : Command) (rest : List Command) :
    OrchestrateState :=
  let read := { state with
    queue := rest
    processed := state.processed ++ [cmd] }
  match cmd with
  | .setServer addr =>
      { read with
        phase := .sleeping
        serverAddress := addr
        savedServer := if saved then some addr else read.savedServer
        backoffSecs := 1 }
  | .shutdown => { read with phase := .returned }
  | _ => read

end OrchestrateState

def orchestrateStep (state : OrchestrateState) :
    OrchestrateLabel → Option OrchestrateState
  | .command cmd =>
      -- the receiver is gone once the loop has returned
      if state.phase = .returned then some state
      else some { state with queue := state.queue ++ [cmd] }
  | .call announce =>
      if state.phase = .discovering then
        some { state with
          phase := .attempting
          calls := state.calls ++ [⟨state.serverAddress, announce⟩] }
      else none
  | .succeeds =>
      if state.phase = .attempting then
        some { state with phase := .connected, backoffSecs := 1 }
      else none
  | .fails error =>
      if state.phase = .attempting then
        some { state.sleep with
          appEvents := state.appEvents ++
            [.error ("connect failed: " ++ error.display)]
          failures := state.failures ++
            [state.processed.length + state.queue.length] }
      else none
  | .wakes =>
      if state.phase = .sleeping then
        some { state with
          phase := .discovering
          backoffSecs := min (state.backoffSecs * 2) 30 }
      else none
  | .serves => if state.phase = .connected then some state else none
  | .disconnects =>
      if state.phase = .connected then
        some { state.sleep with
          appEvents := state.appEvents ++ [.disconnected] }
      else none
  | .recv saved =>
      match state.phase, state.queue with
      | .connected, cmd :: rest => some (state.receive saved cmd rest)
      | _, _ => none
  | .closed =>
      match state.phase, state.queue with
      | .connected, [] => some { state with phase := .returned }
      | _, _ => none

/-! ## What a call owes to the commands -/

/-- The address which commands leave, handled one after another. -/
def latestServer (serverAddress : String) (commands : List Command) : String :=
  commands.foldl (fun address cmd =>
    match cmd with
    | .setServer addr => addr
    | _ => address) serverAddress

/-- The unprocessed commands among the first `mark` that were sent. -/
def OrchestrateState.overdue (state : OrchestrateState) (mark : ℕ) :
    List Command :=
  state.queue.take (mark - state.processed.length)

/-- Of the commands sent before a failure, no `SetServer` and no `Shutdown` is
unprocessed; the address is that of the latest `SetServer`, and there was no
`Shutdown`. -/
structure OrchestrateState.ServedBy (start : String)
    (state : OrchestrateState) (mark : ℕ) : Prop where
  overdue : ∀ cmd ∈ state.overdue mark, cmd.redirects = false
  address : state.serverAddress =
    latestServer start (state.processed ++ state.overdue mark)
  running : .shutdown ∉ state.processed ++ state.overdue mark

/-- A call of `run_client` comes after the commands that were queued when an
earlier call failed. -/
def CallsServed (start : String) (state : OrchestrateState) :
    OrchestrateLabel → Prop
  | .call _ =>
      state.phase = .discovering →
        ∀ mark ∈ state.failures, state.ServedBy start mark
  | _ => True

/-- No `SetServer` and no `Shutdown` is queued when a call fails. -/
def FailsUnredirected (state : OrchestrateState) : OrchestrateLabel → Prop
  | .fails _ =>
      state.phase = .attempting →
        ∀ cmd ∈ state.queue, cmd.redirects = false
  | _ => True

instance (state : OrchestrateState) :
    (label : OrchestrateLabel) → Decidable (FailsUnredirected state label)
  | .fails _ => inferInstanceAs (Decidable (_ → _))
  | .command _ | .call _ | .succeeds | .wakes | .serves | .disconnects
  | .recv _ | .closed => .isTrue trivial

/-! ## The commands read so far -/

section Invariant

variable {start : String} {state next : OrchestrateState}
  {label : OrchestrateLabel}

theorem latestServer_append_of_not_redirects
    {commands more : List Command}
    (hmore : ∀ cmd ∈ more, cmd.redirects = false) (start : String) :
    latestServer start (commands ++ more) = latestServer start commands := by
  rw [latestServer, List.foldl_append]
  induction more with
  | nil => rfl
  | cons cmd rest ih =>
      have hcmd := hmore cmd List.mem_cons_self
      have hrest := ih fun other hother =>
        hmore other (List.mem_cons_of_mem _ hother)
      cases cmd with
      | setServer addr => simp [Command.redirects] at hcmd
      | shutdown => simp [Command.redirects] at hcmd
      | send | connect | purge | removePeer | announceNow => exact hrest

theorem not_shutdown_of_not_redirects
    {commands : List Command}
    (hcommands : ∀ cmd ∈ commands, cmd.redirects = false) :
    .shutdown ∉ commands := by
  intro hmem
  have hshutdown := hcommands _ hmem
  simp [Command.redirects] at hshutdown

/-- The address comes from the commands that were read, and the loop runs
unless a `Shutdown` was among them. -/
structure ReadsCommands (start : String) (state : OrchestrateState) :
    Prop where
  address : state.serverAddress = latestServer start state.processed
  running : .shutdown ∈ state.processed → state.phase = .returned

theorem ReadsCommands.initial (start : String) :
    ReadsCommands start (.initial start) where
  address := rfl
  running := by simp [OrchestrateState.initial]

theorem ReadsCommands.of_same
    (hreads : ReadsCommands start state)
    (haddress : next.serverAddress = state.serverAddress)
    (hprocessed : next.processed = state.processed)
    (hphase : state.phase ≠ .returned) :
    ReadsCommands start next where
  address := by rw [haddress, hprocessed, hreads.address]
  running := by
    intro hmem
    rw [hprocessed] at hmem
    exact absurd (hreads.running hmem) hphase

theorem ReadsCommands.receive
    (hreads : ReadsCommands start state) (hphase : state.phase = .connected)
    (saved : Bool) (cmd : Command) (rest : List Command) :
    ReadsCommands start (state.receive saved cmd rest) := by
  have hprocessed : (state.receive saved cmd rest).processed =
      state.processed ++ [cmd] := by
    cases cmd <;> rfl
  have hrunning : .shutdown ∉ state.processed := by
    intro hmem
    rw [hreads.running hmem] at hphase
    contradiction
  constructor
  · rw [hprocessed, latestServer, List.foldl_append]
    have hold := hreads.address
    cases cmd <;> first | rfl | exact hold
  · intro hmem
    rw [hprocessed, List.mem_append, List.mem_singleton] at hmem
    rcases hmem with hmem | rfl
    · exact absurd hmem hrunning
    · rfl

theorem ReadsCommands.step
    (hreads : ReadsCommands start state)
    (hstep : orchestrateStep state label = some next) :
    ReadsCommands start next := by
  cases label with
  | command cmd =>
      simp only [orchestrateStep] at hstep
      split at hstep
      next =>
        cases hstep
        exact hreads
      next hphase =>
        cases hstep
        exact hreads.of_same rfl rfl hphase
  | recv saved =>
      simp only [orchestrateStep] at hstep
      split at hstep
      next cmd rest hphase hqueue =>
        cases hstep
        exact hreads.receive hphase saved cmd rest
      next => contradiction
  | closed =>
      simp only [orchestrateStep] at hstep
      split at hstep
      next hphase hqueue =>
        cases hstep
        exact hreads.of_same rfl rfl (by simp [hphase])
      next => contradiction
  | call | succeeds | fails | wakes | serves | disconnects =>
      simp only [orchestrateStep] at hstep
      split at hstep
      next hphase =>
        cases hstep
        exact hreads.of_same rfl rfl (by simp [hphase])
      next => contradiction

/-! ## The commands queued at a failure -/

/-- No redirecting command that was queued at a failure waits. -/
def NoneOverdue (state : OrchestrateState) : Prop :=
  ∀ mark ∈ state.failures,
    mark ≤ state.processed.length + state.queue.length ∧
      ∀ cmd ∈ state.overdue mark, cmd.redirects = false

theorem NoneOverdue.enqueue
    (hnone : NoneOverdue state) (cmd : Command) :
    NoneOverdue { state with queue := state.queue ++ [cmd] } := by
  intro mark hmark
  obtain ⟨hbound, hoverdue⟩ := hnone mark hmark
  have htake : (state.queue ++ [cmd]).take (mark - state.processed.length) =
      state.overdue mark :=
    List.take_append_of_le_length (by omega)
  refine ⟨by simp; omega, ?_⟩
  intro other hother
  simp only [OrchestrateState.overdue, htake] at hother
  exact hoverdue other hother

theorem NoneOverdue.receive
    (hnone : NoneOverdue state) {cmd : Command} {rest : List Command}
    (hqueue : state.queue = cmd :: rest) (saved : Bool) :
    NoneOverdue (state.receive saved cmd rest) := by
  have hprocessed : (state.receive saved cmd rest).processed =
      state.processed ++ [cmd] := by
    cases cmd <;> rfl
  have hrest : (state.receive saved cmd rest).queue = rest := by
    cases cmd <;> rfl
  have hfailures : (state.receive saved cmd rest).failures =
      state.failures := by
    cases cmd <;> rfl
  intro mark hmark
  rw [hfailures] at hmark
  obtain ⟨hbound, hoverdue⟩ := hnone mark hmark
  rw [hqueue, List.length_cons] at hbound
  constructor
  · rw [hprocessed, hrest, List.length_append, List.length_singleton]
    omega
  · intro other hother
    simp only [OrchestrateState.overdue, hprocessed, hrest,
      List.length_append, List.length_singleton] at hother
    apply hoverdue
    rw [OrchestrateState.overdue, hqueue]
    by_cases hmarked : state.processed.length < mark
    · have hsucc : mark - state.processed.length =
          (mark - (state.processed.length + 1)) + 1 := by omega
      rw [hsucc, List.take_succ_cons]
      exact List.mem_cons_of_mem _ hother
    · have hzero : mark - (state.processed.length + 1) = 0 := by omega
      rw [hzero, List.take_zero] at hother
      contradiction

theorem NoneOverdue.fail
    (hnone : NoneOverdue state)
    (hidle : ∀ cmd ∈ state.queue, cmd.redirects = false)
    (appEvents : List AppEvent) :
    NoneOverdue { state.sleep with
      appEvents := appEvents
      failures := state.failures ++
        [state.processed.length + state.queue.length] } := by
  intro mark hmark
  rcases List.mem_append.mp hmark with hmark | hmark
  · exact hnone mark hmark
  · rw [List.mem_singleton.mp hmark]
    refine ⟨le_rfl, ?_⟩
    intro cmd hcmd
    exact hidle cmd (List.mem_of_mem_take hcmd)

theorem NoneOverdue.step
    (hnone : NoneOverdue state) (hidle : FailsUnredirected state label)
    (hstep : orchestrateStep state label = some next) :
    NoneOverdue next := by
  cases label with
  | command cmd =>
      simp only [orchestrateStep] at hstep
      split at hstep
      next =>
        cases hstep
        exact hnone
      next =>
        cases hstep
        exact hnone.enqueue cmd
  | fails error =>
      simp only [orchestrateStep] at hstep
      split at hstep
      next hphase =>
        cases hstep
        exact hnone.fail (hidle hphase) _
      next => contradiction
  | recv saved =>
      simp only [orchestrateStep] at hstep
      split at hstep
      next cmd rest hphase hqueue =>
        cases hstep
        exact hnone.receive hqueue saved
      next => contradiction
  | closed =>
      simp only [orchestrateStep] at hstep
      split at hstep
      next =>
        cases hstep
        exact hnone
      next => contradiction
  | call | succeeds | wakes | serves | disconnects =>
      simp only [orchestrateStep] at hstep
      split at hstep
      next =>
        cases hstep
        exact hnone
      next => contradiction

theorem servedBy_of_noneOverdue
    (hreads : ReadsCommands start state) (hphase : state.phase ≠ .returned)
    {mark : ℕ}
    (hoverdue : ∀ cmd ∈ state.overdue mark, cmd.redirects = false) :
    state.ServedBy start mark where
  overdue := hoverdue
  address := by
    rw [latestServer_append_of_not_redirects hoverdue, hreads.address]
  running := by
    rw [List.mem_append, not_or]
    exact ⟨fun hmem => hphase (hreads.running hmem),
      not_shutdown_of_not_redirects hoverdue⟩

/-- A call that fails with a redirecting command in the queue is followed by
one that still has it there. -/
theorem overdue_at_next_call
    {labels : List OrchestrateLabel} {error : ClientErrors}
    (hrun : runFrom orchestrateStep (.initial start) labels = some state)
    (hphase : state.phase = .attempting) {cmd : Command}
    (hmem : cmd ∈ state.queue) (hcmd : cmd.redirects = true)
    (announce : Option String) :
    (∃ final, runFrom orchestrateStep (.initial start)
        (labels ++ [.fails error, .wakes, .call announce]) = some final) ∧
      ¬ AllSteps orchestrateStep (CallsServed start) (.initial start)
        (labels ++ [.fails error, .wakes, .call announce]) := by
  obtain ⟨failed, hfailed, hsleeping, hqueue, hprocessed, hmark⟩ :
      ∃ failed, orchestrateStep state (.fails error) = some failed ∧
        failed.phase = .sleeping ∧ failed.queue = state.queue ∧
        failed.processed = state.processed ∧
        state.processed.length + state.queue.length ∈ failed.failures := by
    simp only [orchestrateStep, if_pos hphase]
    exact ⟨_, rfl, rfl, rfl, rfl, List.mem_append_right _ (by simp)⟩
  obtain ⟨awake, hawake, hdiscovering, hwaking⟩ :
      ∃ awake, orchestrateStep failed .wakes = some awake ∧
        awake.phase = .discovering ∧ awake.queue = failed.queue ∧
        awake.processed = failed.processed ∧
        awake.failures = failed.failures := by
    simp only [orchestrateStep, if_pos hsleeping]
    exact ⟨_, rfl, rfl, rfl, rfl, rfl⟩
  obtain ⟨hwaitsQueue, hwaitsProcessed, hwaitsMark⟩ := hwaking
  obtain ⟨called, hcalled⟩ :
      ∃ called, orchestrateStep awake (.call announce) = some called := by
    simp only [orchestrateStep, if_pos hdiscovering]
    exact ⟨_, rfl⟩
  constructor
  · simp only [runFrom_append_eq_some, runFrom_cons_eq_some]
    exact ⟨called, state, hrun, failed, hfailed, awake, hawake, called,
      hcalled, rfl⟩
  · intro hall
    obtain ⟨_, hrest⟩ := allSteps_append hall hrun
    have hcall := ((hrest failed hfailed).2 awake hawake).1
    have hserved := hcall hdiscovering _ (hwaitsMark ▸ hmark)
    have hoverdue : cmd ∈ awake.overdue
        (state.processed.length + state.queue.length) := by
      simp [OrchestrateState.overdue, hwaitsQueue, hwaitsProcessed, hqueue,
        hprocessed, hmem]
    rw [hserved.overdue cmd hoverdue] at hcmd
    contradiction

end Invariant

/-- In every run in which no `SetServer` or `Shutdown` is queued when a call of
`run_client` fails, every call after a failure comes behind the commands which
were queued then.  Where one is queued, the next call does not. -/
theorem queued_commands_served (start : String) :
    (∀ labels,
        AllSteps orchestrateStep FailsUnredirected (.initial start) labels →
        AllSteps orchestrateStep (CallsServed start) (.initial start)
          labels) ∧
      ∀ labels state error,
        runFrom orchestrateStep (.initial start) labels = some state →
        ¬ FailsUnredirected state (.fails error) → ∀ announce,
          (∃ final, runFrom orchestrateStep (.initial start)
            (labels ++ [.fails error, .wakes, .call announce]) =
              some final) ∧
          ¬ AllSteps orchestrateStep (CallsServed start) (.initial start)
            (labels ++ [.fails error, .wakes, .call announce]) := by
  constructor
  · intro labels hidle
    refine allSteps_imp_of_invariant
      (fun state => ReadsCommands start state ∧ NoneOverdue state) ?_ ?_
      ⟨.initial start, ?_⟩ hidle
    · rintro state label next ⟨hreads, hnone⟩ hok hstep
      exact ⟨hreads.step hstep, hnone.step hok hstep⟩
    · rintro state label ⟨hreads, hnone⟩ _
      cases label with
      | call announce =>
          intro hphase mark hmark
          exact servedBy_of_noneOverdue hreads (by simp [hphase])
            (hnone mark hmark).2
      | command | succeeds | fails | wakes | serves | disconnects | recv
      | closed => trivial
    · intro mark hmark
      simp [OrchestrateState.initial] at hmark
  · intro labels state error hrun hredirected announce
    simp only [FailsUnredirected, not_forall, Bool.not_eq_false] at hredirected
    obtain ⟨hphase, cmd, hmem, hcmd⟩ := hredirected
    exact overdue_at_next_call hrun hphase hmem hcmd announce

/-! ## A server that cannot be reached -/

def sampleReconnects : List OrchestrateLabel :=
  [.call none, .fails .connectionTimeout, .wakes, .call none, .succeeds,
    .command (.setServer "relay.example:443"), .recv true, .wakes, .call none]

theorem sample_reconnects_served :
    AllSteps orchestrateStep (CallsServed "192.0.2.1:443")
        (.initial "192.0.2.1:443") sampleReconnects ∧
      ∃ final, runFrom orchestrateStep (.initial "192.0.2.1:443")
          sampleReconnects = some final ∧
        final.calls = [⟨"192.0.2.1:443", none⟩, ⟨"192.0.2.1:443", none⟩,
          ⟨"relay.example:443", none⟩] :=
  ⟨(queued_commands_served "192.0.2.1:443").1 sampleReconnects (by decide),
    _, rfl, rfl⟩

/-- The user enters another server while the first one cannot be reached; the
next call still goes to the first one. -/
def redirectedFailure : List OrchestrateLabel :=
  [.call none, .command (.setServer "relay.example:443"),
    .fails .connectionTimeout, .wakes, .call none]

theorem redirected_call_uses_old_server :
    (∃ final, runFrom orchestrateStep (.initial "192.0.2.1:443")
        redirectedFailure = some final ∧
      final.calls = [⟨"192.0.2.1:443", none⟩, ⟨"192.0.2.1:443", none⟩] ∧
      final.queue = [.setServer "relay.example:443"] ∧
      final.failures = [1]) ∧
      ¬ AllSteps orchestrateStep (CallsServed "192.0.2.1:443")
        (.initial "192.0.2.1:443") redirectedFailure := by
  refine ⟨⟨_, rfl, rfl, rfl, rfl⟩, ?_⟩
  have hrun : runFrom orchestrateStep (.initial "192.0.2.1:443")
      [.call none, .command (.setServer "relay.example:443")] = some _ := rfl
  exact (overdue_at_next_call hrun rfl List.mem_cons_self rfl none).2

end SechatClient
