import SechatClient.ConnectIntents
import SechatClient.StepSystem

/-!
# From presence messages to connect-intents

A presence message passes through `handle_message` into the cache, and the
events which that call emits pass through `handle_server_event` into the
intents.  `handle_message` emits no presence event, so an intent keeps the
flag it was armed with and a parked intent stays parked.
-/

namespace SechatClient

open StepSystem

/-- The state of the pipeline.  `arming` and `lastPresence` record, per
peer, the cache value when its intent was armed and the last presence
message since then. -/
structure PresenceState where
  handler : HandlerState
  intents : KeyType → Option ConnectIntent
  arming : KeyType → Bool
  lastPresence : KeyType → Option Bool

def PresenceState.initial (handler : HandlerState) : PresenceState where
  handler := handler
  intents := fun _ => none
  arming := fun _ => false
  lastPresence := fun _ => none

inductive PresenceLabel where
  | connect (peer : KeyType) (live : Bool) (clock : Int64) (now : ℕ)
  | tick (hasSession sent : KeyType → Bool) (now : ℕ)
  | message (msg : ServerMessage) (env : HandlerEnv) (now : ℕ)

def ServerMessage.presence : ServerMessage → Option (KeyType × Bool)
  | .peerOnline hash _ => some (hash, true)
  | .peerOffline hash => some (hash, false)
  | _ => none

def notePresence (msg : ServerMessage) (last : KeyType → Option Bool) :
    KeyType → Option Bool :=
  match msg.presence with
  | none => last
  | some (hash, online) => Function.update last hash (some online)

section Steps

variable (P : Primitives) (messages : Codec Message)
  (blobs : Codec BlobPayload) (privkey : KeyType)

def armIntent (state : PresenceState) (peer : KeyType) (live : Bool)
    (clock : Int64) (now : ℕ) : PresenceState :=
  match loadPeerData P state.handler.peers peer with
  | .error _ => state
  | .ok _ =>
      if live then
        state
      else
        let online := peerIsOnline P clock state.handler.cache peer
        { handler := { state.handler with
            cache := loadOnlinePeers clock state.handler.cache }
          intents := Function.update state.intents peer
            (some (.armed online now))
          arming := Function.update state.arming peer online
          lastPresence := Function.update state.lastPresence peer none }

def dispatchMessage (state : PresenceState) (msg : ServerMessage)
    (env : HandlerEnv) (now : ℕ) : PresenceState :=
  let result := handleMessage P messages blobs privkey env state.handler msg
  { state with
    handler := result.state
    intents := fun peer =>
      (state.intents peer).map fun intent =>
        match result.event with
        | none => intent
        | some event => intentAfterEvent now event peer intent
    lastPresence := notePresence msg state.lastPresence }

def presenceStep (state : PresenceState) :
    PresenceLabel → Option PresenceState
  | .connect peer live clock now =>
      some (armIntent P state peer live clock now)
  | .tick hasSession sent now =>
      some { state with
        intents := fun peer =>
          (state.intents peer).map
            (driveRetry (hasSession peer) now (sent peer)) }
  | .message msg env now =>
      some (dispatchMessage P messages blobs privkey state msg env now)

end Steps

/-- Every intent's flag says what its peer was last reported as. -/
def PresenceState.FlagsTrack (state : PresenceState) : Prop :=
  ∀ peer intent, state.intents peer = some intent →
    intent.online = (state.lastPresence peer).getD (state.arming peer)

/-- The flags are right after the step, and if it was a `PeerOnline` for a
parked intent, the intent is armed again. -/
def PresenceDrives (P : Primitives) (messages : Codec Message)
    (blobs : Codec BlobPayload) (privkey : KeyType) (state : PresenceState)
    (label : PresenceLabel) : Prop :=
  ∀ next, presenceStep P messages blobs privkey state label = some next →
    next.FlagsTrack ∧
      ∀ hash ipPort env now intent,
        label = .message (.peerOnline hash ipPort) env now →
        state.intents hash = some intent → intent.parked →
        next.intents hash =
          some (ConnectIntent.rearm { intent with online := true } now)

/-- A presence message tells no intent anything new. -/
def PresenceAgrees (state : PresenceState) : PresenceLabel → Prop
  | .message msg _ _ =>
      ∀ hash online, msg.presence = some (hash, online) →
        ∀ intent, state.intents hash = some intent →
          intent.online = online ∧ (online = true → ¬ intent.parked)
  | _ => True

/-! ## No presence event is emitted -/

section Events

variable {P : Primitives} {messages : Codec Message}
  {blobs : Codec BlobPayload} {privkey : KeyType}

variable (P messages) in
theorem handleBlob_event_cases
    (peers : PeersDir) (myPriv : KeyType) (env : BlobEnv)
    (payload : BlobPayload) :
    (handleBlob P messages peers myPriv env payload).event = none ∨
      ∃ hash, (handleBlob P messages peers myPriv env payload).event =
        some (.blobStored hash) := by
  cases payload with
  | offlineMessage senderPubHash timestamp ciphertext signature =>
      simp only [handleBlob]
      split
      next => exact Or.inl rfl
      next =>
        split
        next => exact Or.inl rfl
        next => exact Or.inr ⟨senderPubHash, rfl⟩
  | purge senderPubHash signature timestamp =>
      simp only [handleBlob]
      split <;> exact Or.inl rfl

/-- Whatever event a message emits, it leaves every intent as it is. -/
theorem intentAfterEvent_handleMessage
    {env : HandlerEnv} {state : HandlerState} {msg : ServerMessage}
    {event : ServerEvent}
    (hevent : (handleMessage P messages blobs privkey env state msg).event =
      some event)
    (now : ℕ) (peer : KeyType) (intent : ConnectIntent) :
    intentAfterEvent now event peer intent = intent := by
  cases msg with
  | pendingBlob blobId blob timestamp =>
      simp only [handleMessage, processBlob] at hevent
      split at hevent
      next => simp [BlobResult.event] at hevent
      next payload _ =>
        rcases handleBlob_event_cases P messages state.peers privkey
            env.blob payload with hnone | ⟨hash, hsome⟩
        · rw [hnone] at hevent
          contradiction
        · rw [hsome] at hevent
          cases hevent
          rfl
  | peerOnline hash ipPort =>
      simp only [handleMessage] at hevent
      split at hevent <;> contradiction
  | punchHole token peerHash ipPort punchtimestamp =>
      cases hevent
      rfl
  | requestDenied token pubKey reason =>
      cases hevent
      rfl
  | relayData senderHash payload =>
      cases hevent
      rfl
  | _ => simp [handleMessage] at hevent

variable (P messages blobs privkey) in
theorem dispatchMessage_intents
    (state : PresenceState) (msg : ServerMessage) (env : HandlerEnv)
    (now : ℕ) :
    (dispatchMessage P messages blobs privkey state msg env now).intents =
      state.intents := by
  funext peer
  simp only [dispatchMessage]
  cases hevent : (handleMessage P messages blobs privkey env state.handler
      msg).event with
  | none => simp
  | some event =>
      simp [intentAfterEvent_handleMessage hevent]

end Events

/-! ## Steps -/

section Run

variable (P : Primitives) (messages : Codec Message)
  (blobs : Codec BlobPayload) (privkey : KeyType)

theorem flagsTrack_armIntent
    {state : PresenceState} (htrack : state.FlagsTrack) (peer : KeyType)
    (live : Bool) (clock : Int64) (now : ℕ) :
    (armIntent P state peer live clock now).FlagsTrack := by
  unfold armIntent
  split
  next => exact htrack
  next =>
    split
    next => exact htrack
    next =>
      intro other intent hintent
      by_cases hother : other = peer
      · subst hother
        simp only [Function.update_self, Option.some.injEq] at hintent ⊢
        rw [← hintent]
        rfl
      · simp only [Function.update_of_ne hother] at hintent ⊢
        exact htrack other intent hintent

theorem flagsTrack_tick
    {state : PresenceState} (htrack : state.FlagsTrack)
    (hasSession sent : KeyType → Bool) (now : ℕ) :
    PresenceState.FlagsTrack { state with
      intents := fun peer =>
        (state.intents peer).map
          (driveRetry (hasSession peer) now (sent peer)) } := by
  intro peer intent hintent
  obtain ⟨before, hbefore, rfl⟩ := Option.map_eq_some_iff.mp hintent
  rw [driveRetry_online]
  exact htrack peer before hbefore

theorem flagsTrack_dispatchMessage_iff
    {state : PresenceState} (htrack : state.FlagsTrack) (msg : ServerMessage)
    (env : HandlerEnv) (now : ℕ) :
    (dispatchMessage P messages blobs privkey state msg env now).FlagsTrack ↔
      ∀ hash online, msg.presence = some (hash, online) →
        ∀ intent, state.intents hash = some intent →
          intent.online = online := by
  have hintents := dispatchMessage_intents P messages blobs privkey state
    msg env now
  have hlast : (dispatchMessage P messages blobs privkey state msg env
      now).lastPresence = notePresence msg state.lastPresence := rfl
  have harming : (dispatchMessage P messages blobs privkey state msg env
      now).arming = state.arming := rfl
  unfold PresenceState.FlagsTrack
  rw [hintents, hlast, harming]
  unfold notePresence
  cases hpresence : msg.presence with
  | none =>
      constructor
      · intro _ hash online hreport
        contradiction
      · intro _
        exact htrack
  | some report =>
      obtain ⟨hash, online⟩ := report
      constructor
      · intro hflags hash' online' hreport intent hintent
        cases hreport
        simpa using hflags hash intent hintent
      · intro hreport peer intent hintent
        by_cases hpeer : peer = hash
        · subst hpeer
          simpa using hreport peer online rfl intent hintent
        · simpa [Function.update_of_ne hpeer] using
            htrack peer intent hintent

theorem rearmed_iff_not_parked
    {state : PresenceState} {hash : KeyType} {intent : ConnectIntent}
    (hintent : state.intents hash = some intent) (msg : ServerMessage)
    (env : HandlerEnv) (now : ℕ) :
    (intent.parked →
      (dispatchMessage P messages blobs privkey state msg env now).intents
          hash =
        some (ConnectIntent.rearm { intent with online := true } now)) ↔
      ¬ intent.parked := by
  rw [dispatchMessage_intents, hintent, Option.some_inj]
  constructor
  · intro hrearmed hparked
    have hattempts : intent.attempts = 0 :=
      congrArg ConnectIntent.attempts (hrearmed hparked)
    rw [ConnectIntent.parked, hattempts] at hparked
    contradiction
  · intro hnot hparked
    contradiction

theorem presenceDrives_iff_agrees
    {state : PresenceState} (htrack : state.FlagsTrack)
    (label : PresenceLabel) :
    PresenceDrives P messages blobs privkey state label ↔
      PresenceAgrees state label := by
  cases label with
  | connect peer live clock now =>
      refine ⟨fun _ => trivial, ?_⟩
      rintro - next ⟨⟩
      exact ⟨flagsTrack_armIntent P htrack peer live clock now, by simp⟩
  | tick hasSession sent now =>
      refine ⟨fun _ => trivial, ?_⟩
      rintro - next ⟨⟩
      exact ⟨flagsTrack_tick htrack hasSession sent now, by simp⟩
  | message msg env now =>
      have hflags := flagsTrack_dispatchMessage_iff P messages blobs privkey
        htrack msg env now
      constructor
      · intro hdrives hash online hpresence intent hintent
        obtain ⟨hnext, hrearmed⟩ := hdrives _ rfl
        refine ⟨hflags.mp hnext hash online hpresence intent hintent, ?_⟩
        rintro rfl
        cases msg with
        | peerOnline hash' ipPort =>
            cases hpresence
            exact (rearmed_iff_not_parked P messages blobs privkey hintent _
              env now).mp (hrearmed _ _ _ _ intent rfl hintent)
        | _ => simp [ServerMessage.presence] at hpresence
      · rintro hagrees next ⟨⟩
        refine ⟨hflags.mpr fun hash online hpresence intent hintent =>
          (hagrees hash online hpresence intent hintent).1, ?_⟩
        rintro hash ipPort env' now' intent ⟨⟩ hintent
        exact (rearmed_iff_not_parked P messages blobs privkey hintent _ env
          now).mpr ((hagrees hash true rfl intent hintent).2 rfl)

/-- Presence messages drive the intents in exactly those runs in which none
of them tells an intent anything new: each agrees with the flag its peer's
intent was armed with, and no `PeerOnline` arrives for a parked intent. -/
theorem presence_drives_intents_iff
    (handler : HandlerState) (labels : List PresenceLabel) :
    AllSteps (presenceStep P messages blobs privkey)
        (PresenceDrives P messages blobs privkey) (.initial handler) labels ↔
      AllSteps (presenceStep P messages blobs privkey) PresenceAgrees
        (.initial handler) labels := by
  have hinitial : (PresenceState.initial handler).FlagsTrack := by
    intro peer intent hintent
    contradiction
  exact allSteps_congr_of_invariant PresenceState.FlagsTrack
    (fun state label next _ hdrives hstep => (hdrives next hstep).1)
    (fun state label htrack =>
      presenceDrives_iff_agrees P messages blobs privkey htrack label)
    hinitial labels

end Run

/-! ## A peer that comes online after the intent was armed -/

def lateOnlineRun : List PresenceLabel :=
  [.connect ((sampleKeys 1).publicPart.hash .transparent) false 1000 0,
    .message (.peerOnline ((sampleKeys 1).publicPart.hash .transparent)
      "203.0.113.7:4000") ⟨⟨1001, false, Vector.replicate 12 0⟩, 1001⟩ 1]

def samplePresence : HandlerState := ⟨samplePeers (sampleKeys 1), [], none⟩

theorem lateOnline_armed :
    (armIntent .transparent (.initial samplePresence)
      ((sampleKeys 1).publicPart.hash .transparent) false 1000 0).intents
        ((sampleKeys 1).publicPart.hash .transparent) =
      some (.armed false 0) := by
  have hload : loadPeerData .transparent
      (PresenceState.initial samplePresence).handler.peers
      ((sampleKeys 1).publicPart.hash .transparent) =
        .ok (sampleKeys 1).publicPart := samplePeers_contact (sampleKeys 1)
  simp only [armIntent, hload]
  rw [if_neg (by simp)]
  simp only [Function.update_self]
  rfl

/-- The `PeerOnline` reaches the cache but not the intent, whose flag stays
false. -/
theorem late_online_not_tracked :
    ¬ ∀ labels, AllSteps (presenceStep .transparent transparentMessages
        transparentBlobs (sampleKeys 3).x25519Priv)
      (PresenceDrives .transparent transparentMessages transparentBlobs
        (sampleKeys 3).x25519Priv) (.initial samplePresence) labels := by
  intro hall
  obtain ⟨harm, hrest⟩ := hall lateOnlineRun
  have htrack := (harm _ rfl).1
  obtain ⟨hdrives, _⟩ := hrest _ rfl
  have hflags := (flagsTrack_dispatchMessage_iff .transparent
    transparentMessages transparentBlobs (sampleKeys 3).x25519Priv htrack _ _
    _).mp (hdrives _ rfl).1 _ true rfl _ lateOnline_armed
  contradiction

end SechatClient
