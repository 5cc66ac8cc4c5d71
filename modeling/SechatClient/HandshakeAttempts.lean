import SechatClient.Datagrams
import SechatClient.SessionSend
import SechatClient.StepSystem

/-!
# Keys of overlapping connect attempts

Two peers make connect attempts one after another.  An attempt draws one
ephemeral secret, uses it for `initial_handshake` and, if that fails or no
hole was punched, for `relay_handshake`.  Every frame ever sent on a path
stays with the network, which hands it over any number of times and in any
order; the receiver checks its age.

An `Init` does not name the attempt of the receiver that it answers.  The
keys of two attempts therefore agree only where each attempt takes an `Init`
of its counterpart.
-/

namespace SechatClient

open ByteStrings StepSystem

structure ConnectAttempt where
  started : ℕ
  ephPriv : KeyType
  deriving DecidableEq

/-- An attempt in progress; it has no path while it punches. -/
structure RunningAttempt where
  attempt : ConnectAttempt
  path : Option TransportKind
  deriving DecidableEq

/-- A handshake that returned `Ok`, with the peer's attempt whose `Init` it
took. -/
structure Agreed where
  path : TransportKind
  key : KeyType
  took : ConnectAttempt
  deriving DecidableEq

structure FinishedAttempt where
  attempt : ConnectAttempt
  ended : ℕ
  agreed : Option Agreed
  deriving DecidableEq

def P2PMessage.isInit : P2PMessage → Bool
  | .init _ => true
  | _ => false

/-- A frame as the network keeps it, with what it was made from. -/
structure SentFrame (P : Primitives) (frames : Codec PeerMessage)
    (keys : Keys) where
  path : TransportKind
  attempt : ConnectAttempt
  payload : P2PMessage
  timestamp : Int64
  bytes : Bytes
  genuine : frame P frames payload keys.x25519Pub keys.ed25519Signing
    timestamp = some bytes
  ephermal : ∀ eph, payload = .init eph →
    eph = P.x25519Public attempt.ephPriv

structure PeerAttempts (P : Primitives) (frames : Codec PeerMessage)
    (keys : Keys) where
  running : Option RunningAttempt
  finished : List FinishedAttempt
  sent : List (SentFrame P frames keys)

/-- The two peers; the clock counts the steps of the run. -/
structure AttemptsState (P : Primitives) (frames : Codec PeerMessage)
    (keys : Side → Keys) where
  clock : ℕ
  peers : (side : Side) → PeerAttempts P frames (keys side)

def AttemptsState.initial (P : Primitives) (frames : Codec PeerMessage)
    (keys : Side → Keys) : AttemptsState P frames keys where
  clock := 0
  peers := fun _ => ⟨none, [], []⟩

inductive AttemptLabel where
  /-- `connect_session` draws its ephemeral pair. -/
  | start (side : Side) (ephPriv : KeyType)
  /-- A handshake is called and sends its first `Init`. -/
  | enter (side : Side) (path : TransportKind) (now : Int64)
  | resend (side : Side) (now : Int64)
  /-- The network hands over a frame which the peer sent. -/
  | deliver (side : Side) (index : ℕ) (now : Int64)
  /-- `relay_handshake` returns an error and the attempt ends. -/
  | fail (side : Side)
  /-- The session of an earlier attempt sends a frame. -/
  | session (side : Side) (index : ℕ) (payload : P2PMessage) (now : Int64)

/-- The paths which an attempt can still be about to take. -/
def RunningAttempt.mayEnter (running : RunningAttempt) :
    TransportKind → Bool
  | .direct => running.path = none
  | .relay => running.path ≠ some .relay

/-- The paths whose handshake an attempt can still return from. -/
def RunningAttempt.mayReturn (running : RunningAttempt)
    (path : TransportKind) : Bool :=
  running.path = some path || running.mayEnter path

theorem RunningAttempt.mayReturn_of_enter
    (running : RunningAttempt) {path other : TransportKind}
    (henter : running.mayEnter path = true)
    (hreturn : (RunningAttempt.mk running.attempt (some path)).mayReturn
      other = true) :
    running.mayReturn other = true := by
  cases path <;> cases other <;>
    simp_all [RunningAttempt.mayReturn, RunningAttempt.mayEnter]

def AttemptLabel.side : AttemptLabel → Side
  | .start side _ => side
  | .enter side _ _ => side
  | .resend side _ => side
  | .deliver side _ _ => side
  | .fail side => side
  | .session side _ _ _ => side

/-- `initial_handshake` reads into a buffer, `relay_handshake` whole frames. -/
def handshakeBuffer : TransportKind → Bytes → Bytes
  | .direct, bytes => recvFrom 1024 bytes
  | .relay, bytes => bytes

section Steps

variable {P : Primitives} {frames : Codec PeerMessage} {keys : Side → Keys}

/-- What a peer sends adds to the frames of the network, if it serialises. -/
def PeerAttempts.send {mine : Keys} (peer : PeerAttempts P frames mine)
    (path : TransportKind) (attempt : ConnectAttempt) (payload : P2PMessage)
    (hephermal : ∀ eph, payload = .init eph →
      eph = P.x25519Public attempt.ephPriv)
    (now : Int64) : PeerAttempts P frames mine :=
  match hbytes : frame P frames payload mine.x25519Pub mine.ed25519Signing
      now with
  | none => peer
  | some bytes =>
      { peer with
        sent := peer.sent ++
          [⟨path, attempt, payload, now, bytes, hbytes, hephermal⟩] }

def PeerAttempts.sendInit {mine : Keys} (peer : PeerAttempts P frames mine)
    (path : TransportKind) (attempt : ConnectAttempt) (now : Int64) :
    PeerAttempts P frames mine :=
  peer.send path attempt (.init (P.x25519Public attempt.ephPriv))
    (fun _ heq => by cases heq; rfl) now

def PeerAttempts.finish {mine : Keys} (peer : PeerAttempts P frames mine)
    (attempt : ConnectAttempt) (ended : ℕ) (agreed : Option Agreed) :
    PeerAttempts P frames mine :=
  { peer with
    running := none
    finished := peer.finished ++ [⟨attempt, ended, agreed⟩] }

/-- One step of one peer; `others` are the frames which its peer sent. -/
def PeerAttempts.step {mine theirs : Keys} (clock : ℕ)
    (peer : PeerAttempts P frames mine)
    (others : List (SentFrame P frames theirs)) :
    AttemptLabel → Option (PeerAttempts P frames mine)
  | .start _ ephPriv =>
      match peer.running with
      | some _ => none
      | none => some { peer with running := some ⟨⟨clock, ephPriv⟩, none⟩ }
  | .enter _ path now =>
      match peer.running with
      | none => none
      | some running =>
          if running.mayEnter path then
            some (PeerAttempts.sendInit
              { peer with running := some ⟨running.attempt, some path⟩ }
              path running.attempt now)
          else
            none
  | .resend _ now =>
      match peer.running with
      | some ⟨attempt, some path⟩ => some (peer.sendInit path attempt now)
      | _ => none
  | .deliver _ index now =>
      match peer.running, others[index]? with
      | some ⟨attempt, some path⟩, some sent =>
          if sent.path = path then
            match handshakeRecv P frames theirs.publicPart attempt.ephPriv now
                (handshakeBuffer path sent.bytes) with
            | none => some peer
            | some key =>
                some (peer.finish attempt clock
                  (some ⟨path, key, sent.attempt⟩))
          else
            none
      | _, _ => none
  | .fail _ =>
      match peer.running with
      | some ⟨attempt, some .relay⟩ => some (peer.finish attempt clock none)
      | _ => none
  | .session _ index payload now =>
      match peer.finished[index]? with
      | some ⟨attempt, _, some agreed⟩ =>
          if hinit : payload.isInit = false then
            some (peer.send agreed.path attempt payload
              (fun _ heq => by subst heq; cases hinit) now)
          else
            none
      | _ => none

def attemptStep (state : AttemptsState P frames keys) (label : AttemptLabel) :
    Option (AttemptsState P frames keys) :=
  ((state.peers label.side).step state.clock
      (state.peers label.side.other).sent label).map fun peer =>
    { clock := state.clock + 1
      peers := Function.update state.peers label.side peer }

/-- Two attempts which overlap and return from the same handshake have the
same key. -/
def AttemptsState.KeysAgree (state : AttemptsState P frames keys) : Prop :=
  ∀ a ∈ (state.peers .left).finished, ∀ b ∈ (state.peers .right).finished,
    ∀ agreedA ∈ a.agreed, ∀ agreedB ∈ b.agreed,
      agreedA.path = agreedB.path → a.attempt.started < b.ended →
        b.attempt.started < a.ended → agreedA.key = agreedB.key

/-- The frame comes from the one attempt of the peer which the receiving
attempt can end up with: the one in progress, unless it is past this
handshake, and every one that overlapped and returned from this handshake. -/
structure FromCounterpart {mine theirs : Keys} (attempt : ConnectAttempt)
    (peer : PeerAttempts P frames mine) (sent : SentFrame P frames theirs) :
    Prop where
  running : ∀ other ∈ peer.running, other.mayReturn sent.path = true →
    sent.attempt = other.attempt
  finished : ∀ other ∈ peer.finished, ∀ agreed ∈ other.agreed,
    agreed.path = sent.path → attempt.started < other.ended →
      sent.attempt = other.attempt

/-- A fresh `Init` handed to a handshake comes from its counterpart. -/
def TakesCounterpart (state : AttemptsState P frames keys) :
    AttemptLabel → Prop
  | .deliver side index now =>
      ∀ running ∈ (state.peers side).running,
        ∀ sent ∈ (state.peers side.other).sent[index]?,
          sent.payload.isInit = true → frameIsFresh sent.timestamp now = true →
            running.path = some sent.path →
              FromCounterpart running.attempt (state.peers side.other) sent
  | _ => True

instance (state : AttemptsState P frames keys) : Decidable state.KeysAgree :=
  inferInstanceAs (Decidable (∀ a ∈ (state.peers .left).finished,
    ∀ b ∈ (state.peers .right).finished, ∀ agreedA ∈ a.agreed,
      ∀ agreedB ∈ b.agreed, agreedA.path = agreedB.path →
        a.attempt.started < b.ended → b.attempt.started < a.ended →
          agreedA.key = agreedB.key))

instance {mine theirs : Keys} (attempt : ConnectAttempt)
    (peer : PeerAttempts P frames mine) (sent : SentFrame P frames theirs) :
    Decidable (FromCounterpart attempt peer sent) :=
  decidable_of_iff
    ((∀ other ∈ peer.running, other.mayReturn sent.path = true →
        sent.attempt = other.attempt) ∧
      ∀ other ∈ peer.finished, ∀ agreed ∈ other.agreed,
        agreed.path = sent.path → attempt.started < other.ended →
          sent.attempt = other.attempt)
    ⟨fun h => ⟨h.1, h.2⟩, fun h => ⟨h.running, h.finished⟩⟩

instance (state : AttemptsState P frames keys) (label : AttemptLabel) :
    Decidable (TakesCounterpart state label) :=
  match label with
  | .deliver side index now =>
      inferInstanceAs (Decidable (∀ running ∈ (state.peers side).running,
        ∀ sent ∈ (state.peers side.other).sent[index]?,
          sent.payload.isInit = true → frameIsFresh sent.timestamp now = true →
            running.path = some sent.path →
              FromCounterpart running.attempt (state.peers side.other) sent))
  | .start _ _ => .isTrue trivial
  | .enter _ _ _ => .isTrue trivial
  | .resend _ _ => .isTrue trivial
  | .fail _ => .isTrue trivial
  | .session _ _ _ _ => .isTrue trivial

end Steps

/-! ## One step of a peer -/

section Moves

variable {P : Primitives} {frames : Codec PeerMessage} {keys : Side → Keys}
  {mine theirs : Keys}

@[simp] theorem PeerAttempts.send_running
    (peer : PeerAttempts P frames mine) (path : TransportKind)
    (attempt : ConnectAttempt) (payload : P2PMessage)
    (hephermal : ∀ eph, payload = .init eph →
      eph = P.x25519Public attempt.ephPriv) (now : Int64) :
    (peer.send path attempt payload hephermal now).running =
      peer.running := by
  unfold PeerAttempts.send
  split <;> rfl

@[simp] theorem PeerAttempts.send_finished
    (peer : PeerAttempts P frames mine) (path : TransportKind)
    (attempt : ConnectAttempt) (payload : P2PMessage)
    (hephermal : ∀ eph, payload = .init eph →
      eph = P.x25519Public attempt.ephPriv) (now : Int64) :
    (peer.send path attempt payload hephermal now).finished =
      peer.finished := by
  unfold PeerAttempts.send
  split <;> rfl

theorem handshakeBuffer_eq_take (path : TransportKind) (bytes : Bytes) :
    ∃ len, handshakeBuffer path bytes = bytes.take len := by
  cases path with
  | direct => exact ⟨1024, rfl⟩
  | relay => exact ⟨bytes.length, List.take_length.symm⟩

/-- A frame that was cut off does not read, so what reads is the frame. -/
theorem SentFrame.fromSlice_handshakeBuffer
    (hround : frames.RoundTrip) (hcut : frames.RejectsTruncated)
    (sent : SentFrame P frames theirs) {path : TransportKind}
    {msg : PeerMessage}
    (hslice : frames.fromSlice (handshakeBuffer path sent.bytes) = .ok msg) :
    msg = PeerMessage.new P sent.payload theirs.x25519Pub
      theirs.ed25519Signing sent.timestamp := by
  obtain ⟨len, hbuffer⟩ := handshakeBuffer_eq_take path sent.bytes
  rw [hbuffer] at hslice
  by_cases hlen : len < sent.bytes.length
  · have hvec := frame_eq_some P sent.genuine
    have hnone := hcut _ _ len hvec hlen
    simp [hslice, Except.toOption] at hnone
  · have hwhole := frame_fromSlice P hround sent.genuine
    rw [List.take_of_length_le (by omega), hwhole] at hslice
    cases hslice
    rfl

/-- A handshake takes a genuine frame only if it is a fresh `Init`, and then
the key is the one for the ephemeral secret of the attempt which sent it. -/
theorem handshakeRecv_genuine
    (hround : frames.RoundTrip) (hcut : frames.RejectsTruncated)
    (sent : SentFrame P frames theirs) {remote : PeerPublic}
    {ephPriv key : KeyType} {now : Int64} {path : TransportKind}
    (hkey : handshakeRecv P frames remote ephPriv now
      (handshakeBuffer path sent.bytes) = some key) :
    sent.payload.isInit = true ∧ frameIsFresh sent.timestamp now = true ∧
      key = deriveSessionKey P ephPriv
        (P.x25519Public sent.attempt.ephPriv) := by
  obtain ⟨msg, eph, hslice, _, hfresh, hpayload, rfl⟩ :=
    handshakeRecv_eq_some P hkey
  have hmsg := sent.fromSlice_handshakeBuffer hround hcut hslice
  subst hmsg
  have heph : eph = P.x25519Public sent.attempt.ephPriv :=
    sent.ephermal eph hpayload
  have hinit : sent.payload.isInit = true := by
    change sent.payload = .init eph at hpayload
    rw [hpayload]
    rfl
  rw [heph]
  exact ⟨hinit, hfresh, rfl⟩

/-- What a step does to the attempts of the peer that takes it. -/
inductive AttemptMove (clock : ℕ) (peer : PeerAttempts P frames mine)
    (other : PeerAttempts P frames theirs) (next : PeerAttempts P frames mine) :
    Prop where
  | start (ephPriv : KeyType)
      (hrunning : next.running = some ⟨⟨clock, ephPriv⟩, none⟩)
      (hfinished : next.finished = peer.finished)
  | enter (running : RunningAttempt) (path : TransportKind)
      (hbefore : peer.running = some running)
      (henter : running.mayEnter path = true)
      (hrunning : next.running = some ⟨running.attempt, some path⟩)
      (hfinished : next.finished = peer.finished)
  | stay (hrunning : next.running = peer.running)
      (hfinished : next.finished = peer.finished)
  | fail (attempt : ConnectAttempt) (hrunning : next.running = none)
      (hfinished : next.finished = peer.finished ++ [⟨attempt, clock, none⟩])
  | agree (attempt : ConnectAttempt) (sent : SentFrame P frames theirs)
      (hbefore : peer.running = some ⟨attempt, some sent.path⟩)
      (hfrom : FromCounterpart attempt other sent)
      (hrunning : next.running = none)
      (hfinished : next.finished = peer.finished ++
        [⟨attempt, clock, some ⟨sent.path, deriveSessionKey P attempt.ephPriv
          (P.x25519Public sent.attempt.ephPriv), sent.attempt⟩⟩])

/-- Every step of a peer is one of the moves, if it takes frames of its
counterpart only. -/
theorem attemptMove_of_step
    (hround : frames.RoundTrip) (hcut : frames.RejectsTruncated)
    {clock : ℕ} {peer next : PeerAttempts P frames mine}
    {other : PeerAttempts P frames theirs} {label : AttemptLabel}
    (hfrom : ∀ side index now, label = .deliver side index now →
      ∀ running ∈ peer.running, ∀ sent ∈ other.sent[index]?,
        sent.payload.isInit = true → frameIsFresh sent.timestamp now = true →
          running.path = some sent.path →
            FromCounterpart running.attempt other sent)
    (hstep : peer.step clock other.sent label = some next) :
    AttemptMove clock peer other next := by
  cases label with
  | start side ephPriv =>
      simp only [PeerAttempts.step] at hstep
      split at hstep
      next => contradiction
      next hnone =>
        cases hstep
        exact .start ephPriv rfl rfl
  | enter side path now =>
      simp only [PeerAttempts.step] at hstep
      split at hstep
      next => contradiction
      next running hrunning =>
        split at hstep
        next henter =>
          cases hstep
          exact .enter running path hrunning henter
            (by simp [PeerAttempts.sendInit]) (by simp [PeerAttempts.sendInit])
        next => contradiction
  | resend side now =>
      simp only [PeerAttempts.step] at hstep
      split at hstep
      next =>
        cases hstep
        exact .stay (by simp [PeerAttempts.sendInit])
          (by simp [PeerAttempts.sendInit])
      next => contradiction
  | deliver side index now =>
      simp only [PeerAttempts.step] at hstep
      split at hstep
      next attempt path sent hrunning hsent =>
        split at hstep
        next hpath =>
          subst hpath
          split at hstep
          next =>
            cases hstep
            exact .stay rfl rfl
          next key hkey =>
            cases hstep
            obtain ⟨hinit, hfresh, rfl⟩ :=
              handshakeRecv_genuine hround hcut sent hkey
            exact .agree attempt sent hrunning
              (hfrom side index now rfl _ hrunning sent hsent hinit hfresh rfl)
              rfl rfl
        next => contradiction
      next => contradiction
  | fail side =>
      simp only [PeerAttempts.step] at hstep
      split at hstep
      next attempt hrunning =>
        cases hstep
        exact .fail attempt rfl rfl
      next => contradiction
  | session side index payload now =>
      simp only [PeerAttempts.step] at hstep
      split at hstep
      next =>
        split at hstep
        next =>
          cases hstep
          exact .stay (by simp) (by simp)
        next => contradiction
      next => contradiction

/-! ## Every attempt took an `Init` of its counterpart -/

/-- The attempts of a peer that returned a key took an `Init` of each attempt
of the other peer which they can share the key with. -/
structure TookCounterparts (clock : ℕ) (peer : PeerAttempts P frames mine)
    (other : PeerAttempts P frames theirs) : Prop where
  ended : ∀ a ∈ peer.finished, a.ended < clock
  key : ∀ a ∈ peer.finished, ∀ agreed ∈ a.agreed,
    agreed.key = deriveSessionKey P a.attempt.ephPriv
      (P.x25519Public agreed.took.ephPriv)
  running : ∀ a ∈ peer.finished, ∀ agreed ∈ a.agreed,
    ∀ b ∈ other.running, b.mayReturn agreed.path = true →
      b.attempt.started < a.ended → agreed.took = b.attempt
  finished : ∀ a ∈ peer.finished, ∀ agreed ∈ a.agreed,
    ∀ b ∈ other.finished, ∀ agreedB ∈ b.agreed, agreed.path = agreedB.path →
      a.attempt.started < b.ended → b.attempt.started < a.ended →
        agreed.took = b.attempt

namespace TookCounterparts

variable {clock : ℕ} {peer next : PeerAttempts P frames mine}
  {other : PeerAttempts P frames theirs}

theorem ended_succ
    (hinv : TookCounterparts clock peer other) :
    ∀ a ∈ peer.finished, a.ended < clock + 1 := by
  intro a ha
  have hlt := hinv.ended a ha
  omega

/-- An attempt that ends at this step joins the others. -/
theorem push
    (hinv : TookCounterparts clock peer other) {a : FinishedAttempt}
    (hended : a.ended = clock)
    (hkey : ∀ agreed ∈ a.agreed,
      agreed.key = deriveSessionKey P a.attempt.ephPriv
        (P.x25519Public agreed.took.ephPriv))
    (hfrom : ∀ agreed ∈ a.agreed,
      (∀ b ∈ other.running, b.mayReturn agreed.path = true →
        agreed.took = b.attempt) ∧
      ∀ b ∈ other.finished, ∀ agreedB ∈ b.agreed,
        agreed.path = agreedB.path → a.attempt.started < b.ended →
          agreed.took = b.attempt)
    (hfinished : next.finished = peer.finished ++ [a]) :
    TookCounterparts (clock + 1) next other where
  ended := by
    rw [hfinished, List.forall_mem_append, List.forall_mem_singleton]
    refine ⟨hinv.ended_succ, ?_⟩
    omega
  key := by
    rw [hfinished, List.forall_mem_append, List.forall_mem_singleton]
    exact ⟨hinv.key, hkey⟩
  running := by
    rw [hfinished, List.forall_mem_append, List.forall_mem_singleton]
    refine ⟨hinv.running, ?_⟩
    intro agreed hagreed b hb hreturn _
    exact (hfrom agreed hagreed).1 b hb hreturn
  finished := by
    rw [hfinished, List.forall_mem_append, List.forall_mem_singleton]
    refine ⟨hinv.finished, ?_⟩
    intro agreed hagreed b hb agreedB hagreedB hpath hlt _
    exact (hfrom agreed hagreed).2 b hb agreedB hagreedB hpath hlt

/-- The peer itself moves. -/
theorem move
    (hinv : TookCounterparts clock peer other)
    (hmove : AttemptMove clock peer other next) :
    TookCounterparts (clock + 1) next other := by
  have hkept : next.finished = peer.finished →
      TookCounterparts (clock + 1) next other := by
    intro hfinished
    refine ⟨?_, ?_, ?_, ?_⟩ <;> rw [hfinished]
    · exact hinv.ended_succ
    · exact hinv.key
    · exact hinv.running
    · exact hinv.finished
  cases hmove with
  | start _ _ hfinished => exact hkept hfinished
  | enter _ _ _ _ _ hfinished => exact hkept hfinished
  | stay _ hfinished => exact hkept hfinished
  | fail attempt _ hfinished =>
      exact hinv.push rfl (by simp) (by simp) hfinished
  | agree attempt sent _ hfrom _ hfinished =>
      refine hinv.push rfl ?_ ?_ hfinished
      · rintro agreed ⟨⟩
        rfl
      · rintro agreed ⟨⟩
        refine ⟨hfrom.running, ?_⟩
        intro b hb agreedB hagreedB hpath hlt
        exact hfrom.finished b hb agreedB hagreedB hpath.symm hlt

/-- The other peer moves. -/
theorem other_move
    {after : PeerAttempts P frames theirs}
    (hinv : TookCounterparts clock peer other)
    (hmove : AttemptMove clock other peer after) :
    TookCounterparts (clock + 1) peer after where
  ended := hinv.ended_succ
  key := hinv.key
  running := by
    intro a ha agreed hagreed b hb hreturn hlt
    cases hmove with
    | start ephPriv hrunning _ =>
        -- an attempt that starts now does not overlap the ones that ended
        rw [hrunning] at hb
        cases hb
        have hended := hinv.ended a ha
        simp only at hlt
        omega
    | enter running path hbefore henter hrunning _ =>
        rw [hrunning] at hb
        cases hb
        exact hinv.running a ha agreed hagreed running hbefore
          (running.mayReturn_of_enter henter hreturn) hlt
    | stay hrunning _ =>
        rw [hrunning] at hb
        exact hinv.running a ha agreed hagreed b hb hreturn hlt
    | fail _ hrunning _ =>
        rw [hrunning] at hb
        contradiction
    | agree _ _ _ _ hrunning _ =>
        rw [hrunning] at hb
        contradiction
  finished := by
    intro a ha agreed hagreed b hb agreedB hagreedB hpath hleft hright
    have hold : b ∈ other.finished → agreed.took = b.attempt := fun hmem =>
      hinv.finished a ha agreed hagreed b hmem agreedB hagreedB hpath hleft
        hright
    cases hmove with
    | start _ _ hfinished => exact hold (hfinished ▸ hb)
    | enter _ _ _ _ _ hfinished => exact hold (hfinished ▸ hb)
    | stay _ hfinished => exact hold (hfinished ▸ hb)
    | fail attempt _ hfinished =>
        rw [hfinished] at hb
        rcases List.mem_append.mp hb with hmem | hnew
        · exact hold hmem
        · rw [List.mem_singleton.mp hnew] at hagreedB
          contradiction
    | agree attempt sent hbefore _ _ hfinished =>
        rw [hfinished] at hb
        rcases List.mem_append.mp hb with hmem | hnew
        · exact hold hmem
        · -- the attempt was in progress before it ended at this step
          rw [List.mem_singleton.mp hnew] at hagreedB hright ⊢
          cases hagreedB
          exact hinv.running a ha agreed hagreed _ hbefore
            (by simp [RunningAttempt.mayReturn, hpath]) hright

end TookCounterparts

end Moves

/-! ## Agreement of the keys -/

section Agreement

variable {P : Primitives} {frames : Codec PeerMessage} {keys : Side → Keys}

structure AttemptsState.Invariant (state : AttemptsState P frames keys) :
    Prop where
  left : TookCounterparts state.clock (state.peers .left) (state.peers .right)
  right : TookCounterparts state.clock (state.peers .right) (state.peers .left)

theorem AttemptsState.initial_invariant :
    (AttemptsState.initial P frames keys).Invariant := by
  constructor <;> constructor <;> simp [AttemptsState.initial]

theorem attemptStep_invariant
    (hround : frames.RoundTrip) (hcut : frames.RejectsTruncated)
    {state next : AttemptsState P frames keys} {label : AttemptLabel}
    (hinv : state.Invariant) (hok : TakesCounterpart state label)
    (hstep : attemptStep state label = some next) :
    next.Invariant := by
  obtain ⟨peer, hpeer, rfl⟩ := Option.map_eq_some_iff.mp hstep
  have hmove : AttemptMove state.clock (state.peers label.side)
      (state.peers label.side.other) peer := by
    refine attemptMove_of_step hround hcut ?_ hpeer
    intro side index now hlabel
    subst hlabel
    exact hok
  generalize label.side = side at peer hmove
  cases side with
  | left => exact ⟨hinv.left.move hmove, hinv.right.other_move hmove⟩
  | right => exact ⟨hinv.left.other_move hmove, hinv.right.move hmove⟩

theorem AttemptsState.Invariant.keysAgree
    (hdh : P.DhCommutes) {state : AttemptsState P frames keys}
    (hinv : state.Invariant) : state.KeysAgree := by
  intro a ha b hb agreedA hagreedA agreedB hagreedB hpath hleft hright
  have htookA : agreedA.took = b.attempt :=
    hinv.left.finished a ha agreedA hagreedA b hb agreedB hagreedB hpath hleft
      hright
  have htookB : agreedB.took = a.attempt :=
    hinv.right.finished b hb agreedB hagreedB a ha agreedA hagreedA hpath.symm
      hright hleft
  have hkeyA := hinv.left.key a ha agreedA hagreedA
  have hkeyB := hinv.right.key b hb agreedB hagreedB
  rw [htookA] at hkeyA
  rw [htookB] at hkeyB
  rw [hkeyA, hkeyB]
  exact deriveSessionKey_comm P hdh a.attempt.ephPriv b.attempt.ephPriv

end Agreement

/-- If every handshake is handed fresh `Init` frames of its counterpart only,
overlapping attempts that return from the same handshake have the same key. -/
theorem overlapping_attempts_agree
    {P : Primitives} (hdh : P.DhCommutes) {frames : Codec PeerMessage}
    (hround : frames.RoundTrip) (hcut : frames.RejectsTruncated)
    {keys : Side → Keys} {labels : List AttemptLabel}
    {final : AttemptsState P frames keys}
    (hok : AllSteps attemptStep TakesCounterpart
      (.initial P frames keys) labels)
    (hrun : runFrom attemptStep (.initial P frames keys) labels =
      some final) :
    final.KeysAgree := by
  have hinv : final.Invariant :=
    runFrom_invariant_of_allSteps AttemptsState.Invariant
      (fun _ _ _ hstate hlabel hstep =>
        attemptStep_invariant hround hcut hstate hlabel hstep)
      AttemptsState.initial_invariant hok hrun
  exact hinv.keysAgree hdh

/-- Both peers make one attempt each and meet on the direct path. -/
def sampleAttempts : List AttemptLabel :=
  [.start .left (Vector.replicate 32 5), .start .right (Vector.replicate 32 6),
    .enter .left .direct 1000, .enter .right .direct 1000,
    .deliver .left 0 1001, .deliver .right 0 1001]

theorem sample_attempts_agree :
    ∃ final, runFrom attemptStep
        (.initial .transparent transparentFrames samplePair) sampleAttempts =
          some final ∧
      (final.peers .left).finished.length = 1 ∧
      (final.peers .right).finished.length = 1 ∧ final.KeysAgree := by
  -- one evaluation of the run for both
  have hboth : AllSteps attemptStep TakesCounterpart
        (.initial .transparent transparentFrames samplePair) sampleAttempts ∧
      (runFrom attemptStep
        (.initial .transparent transparentFrames samplePair)
          sampleAttempts).map (fun final =>
            ((final.peers .left).finished.length,
              (final.peers .right).finished.length)) = some (1, 1) := by
    decide +kernel
  obtain ⟨hok, hcounts⟩ := hboth
  obtain ⟨final, hrun, hlengths⟩ := Option.map_eq_some_iff.mp hcounts
  have hagree := overlapping_attempts_agree transparent_dhCommutes
    transparentFrames_roundTrip transparentFrames_rejectsTruncated hok hrun
  exact ⟨final, hrun, congrArg Prod.fst hlengths, congrArg Prod.snd hlengths,
    hagree⟩

/-- Both peers try the direct path and the relay once, without receiving
anything, and try again.  The left one is then handed the `Init` of the first
direct handshake, the right one that of the second. -/
def delayedAttempts : List AttemptLabel :=
  [.start .left (Vector.replicate 32 5), .start .right (Vector.replicate 32 6),
    .enter .left .direct 1000, .enter .right .direct 1000,
    .enter .left .relay 1005, .enter .right .relay 1005, .fail .left,
    .fail .right, .start .left (Vector.replicate 32 7),
    .start .right (Vector.replicate 32 8), .enter .left .direct 1020,
    .enter .right .direct 1020, .deliver .left 0 1021,
    .deliver .right 2 1021]

theorem delayed_attempts_disagree :
    ∃ final, runFrom attemptStep
        (.initial .transparent transparentFrames samplePair) delayedAttempts =
          some final ∧ ¬ final.KeysAgree := by
  have hdisagree : (runFrom attemptStep
      (.initial .transparent transparentFrames samplePair)
        delayedAttempts).map (fun final => decide final.KeysAgree) =
          some false := by
    decide +kernel
  obtain ⟨final, hrun, hfalse⟩ := Option.map_eq_some_iff.mp hdisagree
  exact ⟨final, hrun, of_decide_eq_false hfalse⟩

end SechatClient
