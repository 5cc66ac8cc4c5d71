import SechatClient.Announcements

/-!
# Tokens of later requests

A presence token belongs to a window of 15 seconds that starts at a multiple
of 15.  Announcements are made every 15 seconds too, but from wherever the
connection started; a request and the farewell at shutdown take the token of
the window they fall into.  Between the start of a window and the tick within
it, that token has not been announced.
-/

namespace SechatClient

open StepSystem

/-! ## Announcements with their recipients -/

structure Announcement where
  peer : PeerPublic
  timestamp : Int64
  ipPort : String

section Recipients

variable (P : Primitives) (connection : Connection)

def Announcement.message (announcement : Announcement) : ClientMessage :=
  generateAnnounceMessage P connection.privkey announcement.peer.publicKey
    announcement.timestamp announcement.ipPort

namespace ConnectionState

variable (state : ConnectionState)

def announcementsTo (timestamp : Int64) (address : String) (count : ℕ) :
    List Announcement :=
  ((state.recipients P).take count).map fun peer =>
    ⟨peer, timestamp, address⟩

/-- The announcements of one step. -/
def announcementsOf : ConnectionLabel → List Announcement
  | .burst timestamp written =>
      match state.phase, state.observed with
      | .drained, some observed =>
          state.announcementsTo P timestamp observed written
      | _, _ => []
  | .presenceTick timestamp accepted | .announceNow timestamp accepted =>
      match state.phase, state.handler.myAddress with
      | .running, some address =>
          state.announcementsTo P timestamp address accepted
      | _, _ => []
  | _ => []

end ConnectionState

end Recipients

/-! ## Requests and shutdown -/

/-- `stopped` once `Shutdown` was handled. -/
structure TokenState where
  connection : ConnectionState
  announcements : List Announcement
  stopped : Bool

def TokenState.initial (handler : HandlerState) : TokenState :=
  ⟨.initial handler, [], false⟩

/-- The main loop of `orchestrate` runs on this connection. -/
def TokenState.Serving (state : TokenState) : Prop :=
  state.connection.phase = .running ∧ state.stopped = false

instance (state : TokenState) : Decidable state.Serving :=
  inferInstanceAs (Decidable (_ ∧ _))

inductive TokenLabel where
  | connection (label : ConnectionLabel)
  /-- a punch request for a contact -/
  | requestPunch (peer : KeyType) (now : Int64)
  | shutdown (now : Int64)

section Steps

variable (P : Primitives) (messages : Codec Message)
  (blobs : Codec BlobPayload) (wire : Codec ClientToServer)
  (connection : Connection)

def tokenStep (state : TokenState) :
    TokenLabel → Option TokenState
  | .connection label =>
      if state.stopped then none
      else
        (connectionStep P messages blobs wire connection state.connection
          label).map fun next =>
            { state with
              connection := next
              announcements := state.announcements ++
                state.connection.announcementsOf P label }
  | .requestPunch _ _ => if state.Serving then some state else none
  | .shutdown _ =>
      if state.Serving then some { state with stopped := true } else none

/-- The messages with a presence token which a step sends, each with the
contact it is for. -/
def tokenMessages (state : TokenState) :
    TokenLabel → List (PeerPublic × ClientMessage)
  | .connection _ => []
  | .requestPunch peer now =>
      match loadPeerData P state.connection.handler.peers peer with
      | .error _ => []
      | .ok peerPub =>
          [(peerPub,
            generateP2pRequest P peerPub.publicKey connection.privkey now)]
  | .shutdown now =>
      (state.connection.recipients P).map fun peer =>
        (peer, generateUnannounceMessage P connection.privkey peer.publicKey
          now)

def ClientMessage.presenceToken : ClientMessage → Option KeyType
  | .announce token _ => some token
  | .unannounce token => some token
  | .requestHolePunch token => some token
  | _ => none

/-- Every token the step sends was announced before to the same contact. -/
def TokensAnnounced (state : TokenState) (label : TokenLabel) : Prop :=
  state.Serving → ∀ sent ∈ tokenMessages P connection state label,
    ∃ announcement ∈ state.announcements,
      announcement.peer.publicKey = sent.1.publicKey ∧
        (announcement.message P connection).presenceToken =
          sent.2.presenceToken

/-! ## Windows -/

def presenceWindow (timestamp : Int64) : Int64 := (timestamp / 15) * 15

/-- The contact was announced to in the window of the clock reading. -/
def AnnouncedInWindow (state : TokenState) (peer : PeerPublic)
    (now : Int64) : Prop :=
  ∃ announcement ∈ state.announcements,
    announcement.peer.publicKey = peer.publicKey ∧
      presenceWindow announcement.timestamp = presenceWindow now

/-- Requests and shutdown come after the announcements of their window. -/
def WithinAnnouncedWindow (state : TokenState) : TokenLabel → Prop
  | .connection _ => True
  | .requestPunch peer now =>
      state.Serving → ∀ peerPub,
        loadPeerData P state.connection.handler.peers peer = .ok peerPub →
        AnnouncedInWindow state peerPub now
  | .shutdown now =>
      state.Serving → ∀ peer ∈ state.connection.recipients P,
        AnnouncedInWindow state peer now

/-- The presence token is injective in the start of its window. -/
def TokenInjective : Prop :=
  ∀ key, Function.Injective fun window : Int64 =>
    P.hmacSha256 key (ByteStrings.i64ToLeBytes window)

end Steps

section Tokens

variable {P : Primitives} {messages : Codec Message}
  {blobs : Codec BlobPayload} {wire : Codec ClientToServer}
  {connection : Connection} {state : TokenState}

theorem presenceToken_eq_iff
    (hinjective : TokenInjective P) (privkey peerPub : KeyType)
    (first second : Int64) :
    presenceToken P privkey peerPub first =
        presenceToken P privkey peerPub second ↔
      presenceWindow first = presenceWindow second :=
  (hinjective _).eq_iff

theorem announcedInWindow_iff
    (hinjective : TokenInjective P) (peer : PeerPublic) (now : Int64) :
    (∃ announcement ∈ state.announcements,
      announcement.peer.publicKey = peer.publicKey ∧
        (announcement.message P connection).presenceToken =
          some (presenceToken P connection.privkey peer.publicKey now)) ↔
      AnnouncedInWindow state peer now := by
  unfold AnnouncedInWindow
  apply exists_congr
  intro announcement
  apply and_congr_right'
  apply and_congr_right
  intro hpeer
  rw [← presenceToken_eq_iff hinjective connection.privkey peer.publicKey,
    ← hpeer]
  exact Option.some_inj

theorem tokensAnnounced_iff
    (hinjective : TokenInjective P) (state : TokenState)
    (label : TokenLabel) :
    TokensAnnounced P connection state label ↔
      WithinAnnouncedWindow P state label := by
  cases label with
  | connection label => simp [TokensAnnounced, tokenMessages,
      WithinAnnouncedWindow]
  | requestPunch peer now =>
      unfold TokensAnnounced WithinAnnouncedWindow
      apply imp_congr_right
      intro _
      cases hload : loadPeerData P state.connection.handler.peers peer with
      | error e => simp [tokenMessages, hload]
      | ok peerPub =>
          simp only [tokenMessages, hload, List.mem_singleton, forall_eq,
            Except.ok.injEq, forall_eq']
          exact announcedInWindow_iff hinjective peerPub now
  | shutdown now =>
      unfold TokensAnnounced WithinAnnouncedWindow
      apply imp_congr_right
      intro _
      simp only [tokenMessages, List.forall_mem_map]
      apply forall₂_congr
      intro peer _
      exact announcedInWindow_iff hinjective peer now

end Tokens

/-! ## The messages of the announcements -/

section Messages

variable {P : Primitives} {messages : Codec Message}
  {blobs : Codec BlobPayload} {wire : Codec ClientToServer}
  {connection : Connection} {state next : ConnectionState}

theorem announced_announce
    (timestamp : Int64) (address : String) (count : ℕ) :
    (state.announce P connection timestamp address count).announced =
      state.announced ++ (state.announcementsTo P timestamp address count).map
        (Announcement.message P connection) := by
  simp [ConnectionState.announce, ConnectionState.announcementsTo,
    Announcement.message, Function.comp_def]

theorem announced_announceMyAddress
    (hphase : state.phase = .running) (timestamp : Int64) (accepted : ℕ) :
    (state.announceMyAddress P connection timestamp accepted).announced =
      state.announced ++ (state.announcementsOf P
        (.presenceTick timestamp accepted)).map
          (Announcement.message P connection) := by
  unfold ConnectionState.announceMyAddress ConnectionState.announcementsOf
  cases haddress : state.handler.myAddress with
  | none => simp [hphase]
  | some address => simp [hphase, announced_announce]

theorem announced_announceBurst
    (observed : String) (timestamp : Int64) (written : ℕ) :
    (state.announceBurst P connection observed timestamp written).announced =
      state.announced ++
        (state.announcementsTo P timestamp observed written).map
          (Announcement.message P connection) := by
  unfold ConnectionState.announceBurst
  split
  next e hload =>
    simp [ConnectionState.announcementsTo, ConnectionState.recipients, hload,
      Except.toOption]
  next => exact announced_announce timestamp observed written

/-- A step sends exactly the announcements listed for it. -/
theorem announced_connectionStep
    {label : ConnectionLabel}
    (hstep : connectionStep P messages blobs wire connection state label =
      some next) :
    next.announced = state.announced ++
      (state.announcementsOf P label).map
        (Announcement.message P connection) := by
  cases label with
  | authReply reply =>
      simp only [connectionStep] at hstep
      split at hstep
      next =>
        cases hstep
        simp [ConnectionState.announcementsOf, ConnectionState.setMyAddress]
      next =>
        cases hstep
        simp [ConnectionState.announcementsOf]
      next => contradiction
  | drains received =>
      simp only [connectionStep] at hstep
      split at hstep
      next =>
        cases hstep
        simp [ConnectionState.announcementsOf, ConnectionState.setPeers]
      next =>
        cases hstep
        simp [ConnectionState.announcementsOf, ConnectionState.setPeers]
      next => contradiction
  | burst timestamp written =>
      simp only [connectionStep] at hstep
      split at hstep
      next observed hphase hobserved =>
        cases hstep
        simp only [ConnectionState.announcementsOf, hphase, hobserved]
        exact announced_announceBurst observed timestamp written
      next => contradiction
  | dispatches env message =>
      simp only [connectionStep] at hstep
      split at hstep
      next =>
        cases hstep
        simp [ConnectionState.announcementsOf]
      next => contradiction
  | presenceTick timestamp accepted =>
      simp only [connectionStep] at hstep
      split at hstep
      next hphase =>
        cases hstep
        exact announced_announceMyAddress hphase timestamp accepted
      next => contradiction
  | announceNow timestamp accepted =>
      simp only [connectionStep] at hstep
      split at hstep
      next hphase =>
        cases hstep
        exact announced_announceMyAddress hphase timestamp accepted
      next => contradiction
  | otherConnection address =>
      cases hstep
      simp [ConnectionState.announcementsOf, ConnectionState.setMyAddress]
  | contacts peers =>
      cases hstep
      simp [ConnectionState.announcementsOf, ConnectionState.setPeers]

/-- The recorded announcements are the announcements sent on the
connection. -/
theorem announced_eq_map_message
    (handler : HandlerState) {labels : List TokenLabel} {final : TokenState}
    (hrun : runFrom (tokenStep P messages blobs wire connection)
      (.initial handler) labels = some final) :
    final.connection.announced =
      final.announcements.map (Announcement.message P connection) := by
  apply runFrom_invariant (fun current : TokenState =>
    current.connection.announced =
      current.announcements.map (Announcement.message P connection)) _ rfl
      hrun
  intro current label after hcurrent hstep
  cases label with
  | connection label =>
      simp only [tokenStep] at hstep
      split at hstep
      next => contradiction
      next =>
        obtain ⟨next, hnext, rfl⟩ := Option.map_eq_some_iff.mp hstep
        rw [List.map_append, ← hcurrent]
        exact announced_connectionStep hnext
  | requestPunch peer now =>
      simp only [tokenStep] at hstep
      split at hstep
      next =>
        cases hstep
        exact hcurrent
      next => contradiction
  | shutdown now =>
      simp only [tokenStep] at hstep
      split at hstep
      next =>
        cases hstep
        exact hcurrent
      next => contradiction

end Messages

/-! ## Ticks at a phase -/

section Ticks

variable {P : Primitives} {messages : Codec Message}
  {blobs : Codec BlobPayload} {wire : Codec ClientToServer}
  {connection : Connection} {state : TokenState}

/-- The ticks of `presence_refresh_loop` from the second `phase` on. -/
def tickLabels (phase accepted count : ℕ) : List TokenLabel :=
  (List.range count).map fun k =>
    .connection (.presenceTick (Int64.ofNat (phase + 15 * k)) accepted)

theorem presenceWindow_ofNat {time : ℕ} (htime : time < 2 ^ 63) :
    presenceWindow (Int64.ofNat time) = Int64.ofNat (time / 15 * 15) := by
  have hquot : (Int64.ofNat time / 15).toInt = (time / 15 : ℕ) := by
    rw [Int64.toInt_div_of_ne_right _ _ (by decide),
      Int64.toInt_ofNat_of_lt htime]
    rfl
  have hfifteen : (15 : Int64).toInt = 15 := rfl
  apply Int64.toInt_inj.mp
  rw [presenceWindow, Int64.toInt_mul, hquot, hfifteen,
    Int64.toInt_ofNat_of_lt (by omega),
    Int.bmod_eq_of_le (by omega) (by omega)]
  push_cast
  rfl

theorem presenceWindow_eq_iff
    {first second : ℕ} (hfirst : first < 2 ^ 63) (hsecond : second < 2 ^ 63) :
    presenceWindow (Int64.ofNat first) = presenceWindow (Int64.ofNat second) ↔
      first / 15 = second / 15 := by
  rw [presenceWindow_ofNat hfirst, presenceWindow_ofNat hsecond,
    ← Int64.toInt_inj, Int64.toInt_ofNat_of_lt (by omega),
    Int64.toInt_ofNat_of_lt (by omega)]
  omega

variable (P messages blobs wire connection) in
theorem tokenStep_tick
    {address : String} (hserving : state.Serving)
    (haddress : state.connection.handler.myAddress = some address)
    (timestamp : Int64) (accepted : ℕ) :
    tokenStep P messages blobs wire connection state
        (.connection (.presenceTick timestamp accepted)) =
      some { state with
        connection := state.connection.announce P connection timestamp address
          accepted
        announcements := state.announcements ++
          state.connection.announcementsTo P timestamp address accepted } := by
  obtain ⟨hphase, hstopped⟩ := hserving
  simp [tokenStep, connectionStep, ConnectionState.announceMyAddress,
    ConnectionState.announcementsOf, hphase, hstopped, haddress]

/-- What the ticks leave: the same contacts, and one announcement for each
contact and tick. -/
theorem runFrom_tickLabels
    {address : String} (hserving : state.Serving)
    (haddress : state.connection.handler.myAddress = some address)
    (phase accepted count : ℕ) :
    ∃ final, runFrom (tokenStep P messages blobs wire connection) state
        (tickLabels phase accepted count) = some final ∧
      final.Serving ∧
      final.connection.handler = state.connection.handler ∧
      ∀ announcement, announcement ∈ final.announcements ↔
        announcement ∈ state.announcements ∨ ∃ k < count,
          announcement ∈ state.connection.announcementsTo P
            (Int64.ofNat (phase + 15 * k)) address accepted := by
  induction count with
  | zero => exact ⟨state, rfl, hserving, rfl, by simp⟩
  | succ count ih =>
      obtain ⟨middle, hrun, hmiddle, hhandler, hannounced⟩ := ih
      have hstep := tokenStep_tick P messages blobs wire connection hmiddle
        (hhandler ▸ haddress) (Int64.ofNat (phase + 15 * count)) accepted
      have hrecipients : middle.connection.announcementsTo P
          (Int64.ofNat (phase + 15 * count)) address accepted =
            state.connection.announcementsTo P
              (Int64.ofNat (phase + 15 * count)) address accepted := by
        simp only [ConnectionState.announcementsTo,
          ConnectionState.recipients, hhandler]
      rw [hrecipients] at hstep
      refine ⟨{ middle with
          connection := middle.connection.announce P connection
            (Int64.ofNat (phase + 15 * count)) address accepted
          announcements := middle.announcements ++
            state.connection.announcementsTo P
              (Int64.ofNat (phase + 15 * count)) address accepted },
        ?_, hmiddle, hhandler, ?_⟩
      · rw [tickLabels, List.range_succ, List.map_append]
        exact runFrom_append_eq_some.mpr ⟨middle, hrun,
          runFrom_cons_eq_some.mpr ⟨_, hstep, rfl⟩⟩
      · intro announcement
        simp only [List.mem_append, hannounced, Nat.lt_succ_iff_lt_or_eq,
          or_and_right, exists_or, exists_eq_left, or_assoc]

/-- The tick of a window comes before the request exactly if it is as early in
its window. -/
theorem exists_tick_in_window_iff {phase now : ℕ} (hphase : phase ≤ now) :
    (∃ k < (now - phase) / 15 + 1, (phase + 15 * k) / 15 = now / 15) ↔
      phase % 15 ≤ now % 15 := by
  constructor
  · rintro ⟨k, hk, hwindow⟩
    omega
  · intro hmod
    exact ⟨(now - phase) / 15, by omega, by omega⟩

theorem announcedInWindow_of_ticks_iff
    {final : TokenState} {peer : PeerPublic} {address : String}
    {phase accepted now : ℕ} (hphase : phase ≤ now) (hnow : now < 2 ^ 63)
    (hpeer : peer ∈ (state.connection.recipients P).take accepted)
    (hearlier : ∀ announcement ∈ state.announcements,
      announcement.peer.publicKey = peer.publicKey →
        ∃ time ≤ phase, announcement.timestamp = Int64.ofNat time)
    (hannounced : ∀ announcement, announcement ∈ final.announcements ↔
      announcement ∈ state.announcements ∨ ∃ k < (now - phase) / 15 + 1,
        announcement ∈ state.connection.announcementsTo P
          (Int64.ofNat (phase + 15 * k)) address accepted) :
    AnnouncedInWindow final peer (Int64.ofNat now) ↔
      phase % 15 ≤ now % 15 := by
  rw [← exists_tick_in_window_iff hphase]
  constructor
  · rintro ⟨announcement, hmem, hkey, hwindow⟩
    rcases (hannounced announcement).mp hmem with hold | ⟨k, hk, htick⟩
    · -- in the window of an earlier announcement the first tick comes as well
      obtain ⟨time, htime, hstamp⟩ := hearlier announcement hold hkey
      rw [hstamp, presenceWindow_eq_iff (by omega) hnow] at hwindow
      exact ⟨0, by omega, by omega⟩
    · obtain ⟨recipient, _, rfl⟩ := List.mem_map.mp htick
      exact ⟨k, hk, (presenceWindow_eq_iff (by omega) hnow).mp hwindow⟩
  · rintro ⟨k, hk, hwindow⟩
    refine ⟨⟨peer, Int64.ofNat (phase + 15 * k), address⟩, ?_, rfl,
      (presenceWindow_eq_iff (by omega) hnow).mpr hwindow⟩
    exact (hannounced _).mpr (Or.inr ⟨k, hk, List.mem_map_of_mem hpeer⟩)

end Ticks

/-- Along every run, the tokens of requests and of the farewell were announced
before exactly if each is sent in a window in which its contact was announced
to; the announcements recorded for that are the ones sent on the connection.
With nothing but ticks from the second `phase` on, and no announcement after
it before them, that is the case for a request at the second `now` exactly if
`now` is as late in its window as the ticks are in theirs. -/
theorem presence_tokens_announced_iff
    (P : Primitives) (messages : Codec Message) (blobs : Codec BlobPayload)
    (wire : Codec ClientToServer) (connection : Connection)
    (hinjective : TokenInjective P) :
    (∀ (handler : HandlerState) (labels : List TokenLabel),
      AllSteps (tokenStep P messages blobs wire connection)
          (TokensAnnounced P connection) (.initial handler) labels ↔
        AllSteps (tokenStep P messages blobs wire connection)
          (WithinAnnouncedWindow P) (.initial handler) labels) ∧
    (∀ (handler : HandlerState) (labels : List TokenLabel)
        (final : TokenState),
      runFrom (tokenStep P messages blobs wire connection)
          (.initial handler) labels = some final →
        final.connection.announced =
          final.announcements.map (Announcement.message P connection)) ∧
    ∀ (state : TokenState) (id : KeyType) (peer : PeerPublic)
      (address : String) (phase accepted now : ℕ),
      state.Serving →
      state.connection.handler.myAddress = some address →
      loadPeerData P state.connection.handler.peers id = .ok peer →
      peer ∈ (state.connection.recipients P).take accepted →
      (∀ announcement ∈ state.announcements,
        announcement.peer.publicKey = peer.publicKey →
          ∃ time ≤ phase, announcement.timestamp = Int64.ofNat time) →
      phase ≤ now → now < 2 ^ 63 →
      ∃ final, runFrom (tokenStep P messages blobs wire connection) state
          (tickLabels phase accepted ((now - phase) / 15 + 1)) = some final ∧
        (TokensAnnounced P connection final
            (.requestPunch id (Int64.ofNat now)) ↔
          phase % 15 ≤ now % 15) := by
  refine ⟨?_, fun handler _ _ hrun => announced_eq_map_message handler hrun, ?_⟩
  · intro handler labels
    constructor
    · exact allSteps_mono fun state label =>
        (tokensAnnounced_iff hinjective state label).mp
    · exact allSteps_mono fun state label =>
        (tokensAnnounced_iff hinjective state label).mpr
  · intro state id peer address phase accepted now hserving haddress hload
      hpeer hearlier hphase hnow
    obtain ⟨final, hrun, hfinal, hhandler, hannounced⟩ := runFrom_tickLabels
      hserving haddress phase accepted ((now - phase) / 15 + 1)
    refine ⟨final, hrun, ?_⟩
    rw [tokensAnnounced_iff hinjective,
      ← announcedInWindow_of_ticks_iff hphase hnow hpeer hearlier hannounced]
    simp [WithinAnnouncedWindow, hfinal, hhandler, hload]

/-! ## A connection that is shut down -/

theorem transparent_tokenInjective : TokenInjective .transparent := by
  intro key first second hsame
  have hthree : ∀ x y : UInt8, 3 * x = 3 * y → x = y := by
    intro x y hxy
    have hscaled := congrArg (171 * ·) hxy
    have hone : (171 * 3 : UInt8) = 1 := rfl
    simpa [← UInt8.mul_assoc, hone] using hscaled
  apply ByteStrings.i64ToLeBytes_injective
  apply List.ext_getElem
  · simp
  · intro i hfirst hsecond
    have hi : i < 8 := by simpa using hfirst
    have hbound : i < 32 := by omega
    have hdigest := congrArg (fun digest : KeyType => digest[i]) hsame
    apply hthree
    simpa [Primitives.transparent, transparentDigest, List.getElem?_append,
      hi, hbound] using hdigest

/-- Authenticated at 1012, with ticks at 1012 and 1027. -/
def announcingTicks : List TokenLabel :=
  [.connection (.authReply (.authOk "203.0.113.7:4000")),
    .connection (.drains [(.pendingBlobsEnd, samplePending.env)]),
    .connection (.burst 1012 1), .connection (.presenceTick 1012 1),
    .connection (.presenceTick 1027 1)]

def sampleAnnouncement (timestamp : Int64) : Announcement :=
  ⟨(sampleKeys 1).publicPart, timestamp, "203.0.113.7:4000"⟩

theorem announcingTicks_eq :
    ∃ state, runFrom (tokenStep .transparent transparentMessages
        transparentBlobs transparentWire (sampleConnection none))
        (.initial sampleHandler) announcingTicks = some state ∧
      state.Serving ∧
      state.connection.recipients .transparent =
        [(sampleKeys 1).publicPart] ∧
      state.announcements = [sampleAnnouncement 1012, sampleAnnouncement 1012,
        sampleAnnouncement 1027] :=
  ⟨_, rfl, ⟨rfl, rfl⟩, rfl, rfl⟩

theorem announcingTicks_within :
    AllSteps (tokenStep .transparent transparentMessages transparentBlobs
        transparentWire (sampleConnection none))
      (WithinAnnouncedWindow .transparent) (.initial sampleHandler)
      announcingTicks := by
  apply allSteps_of_forall_mem
  intro label hlabel state
  simp only [announcingTicks, List.mem_cons, List.not_mem_nil, or_false] at hlabel
  rcases hlabel with rfl | rfl | rfl | rfl | rfl <;> trivial

theorem announcingBurst_eq :
    ∃ state, runFrom (tokenStep .transparent transparentMessages
        transparentBlobs transparentWire (sampleConnection none))
        (.initial sampleHandler) (announcingTicks.take 3) = some state ∧
      state.Serving ∧
      state.connection.handler.myAddress = some "203.0.113.7:4000" ∧
      loadPeerData .transparent state.connection.handler.peers
        ((sampleKeys 1).id .transparent) = .ok (sampleKeys 1).publicPart ∧
      state.connection.recipients .transparent =
        [(sampleKeys 1).publicPart] ∧
      state.announcements = [sampleAnnouncement 1012] :=
  ⟨_, rfl, ⟨rfl, rfl⟩, rfl, rfl, rfl, rfl⟩

/-- At 1030 the farewell is within the window of a tick.  The ticks are seven
seconds into theirs, so a request one second into its own is too early. -/
theorem shutdown_within_window_announced :
    AllSteps (tokenStep .transparent transparentMessages transparentBlobs
        transparentWire (sampleConnection none))
      (TokensAnnounced .transparent (sampleConnection none))
      (.initial sampleHandler) (announcingTicks ++ [.shutdown 1030]) ∧
    ∃ state final, runFrom (tokenStep .transparent transparentMessages
        transparentBlobs transparentWire (sampleConnection none))
        (.initial sampleHandler) (announcingTicks.take 3) = some state ∧
      runFrom (tokenStep .transparent transparentMessages transparentBlobs
        transparentWire (sampleConnection none)) state
        (tickLabels 1012 1 2) = some final ∧
      ¬ TokensAnnounced .transparent (sampleConnection none) final
        (.requestPunch ((sampleKeys 1).id .transparent) 1036) := by
  obtain ⟨halong, -, hphase⟩ := presence_tokens_announced_iff .transparent
    transparentMessages transparentBlobs transparentWire
    (sampleConnection none) transparent_tokenInjective
  constructor
  · obtain ⟨state, hrun, _, hrecipients, hannounced⟩ := announcingTicks_eq
    apply (halong sampleHandler _).mpr
    apply allSteps_append_intro announcingTicks_within hrun
    refine ⟨?_, fun _ _ => trivial⟩
    intro _ peer hpeer
    rw [hrecipients, List.mem_singleton] at hpeer
    refine ⟨sampleAnnouncement 1027, ?_, congrArg _ hpeer.symm, by decide⟩
    rw [hannounced]
    simp
  · obtain ⟨state, hrun, hserving, haddress, hload, hrecipients,
      hannounced⟩ := announcingBurst_eq
    obtain ⟨final, hticks, hiff⟩ := hphase state
      ((sampleKeys 1).id .transparent) (sampleKeys 1).publicPart
      "203.0.113.7:4000" 1012 1 1036 hserving haddress hload
      (by rw [hrecipients]; exact List.mem_cons_self)
      (by
        rw [hannounced]
        simp only [List.mem_singleton, forall_eq]
        exact fun _ => ⟨1012, le_refl _, rfl⟩)
      (by decide) (by decide)
    exact ⟨state, final, hrun, hticks, fun hsent => absurd (hiff.mp hsent)
      (by decide)⟩

/-- At 1036 a new window has begun, and no token of it was announced. -/
theorem shutdown_in_next_window :
    ∃ state, runFrom (tokenStep .transparent transparentMessages
        transparentBlobs transparentWire (sampleConnection none))
        (.initial sampleHandler) announcingTicks = some state ∧
      ¬ TokensAnnounced .transparent (sampleConnection none) state
        (.shutdown 1036) := by
  obtain ⟨state, hrun, hserving, hrecipients, hannounced⟩ := announcingTicks_eq
  refine ⟨state, hrun, ?_⟩
  rw [tokensAnnounced_iff transparent_tokenInjective]
  intro hwithin
  obtain ⟨announcement, hmem, _, hwindow⟩ := hwithin hserving
    (sampleKeys 1).publicPart (by rw [hrecipients]; exact List.mem_cons_self)
  rw [hannounced] at hmem
  simp only [List.mem_cons, List.not_mem_nil, or_false] at hmem
  rcases hmem with rfl | rfl | rfl <;> exact absurd hwindow (by decide)

end SechatClient
