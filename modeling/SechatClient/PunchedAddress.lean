import SechatClient.SharedSocket

/-!
# The address of a direct session

A connect attempt learns the address of the peer in `punch_hole`, from a ping
that anybody can make, and the peer's identity in `initial_handshake`, from a
signed `Init` whose source is not looked at.  The session then talks to the
address of the ping.

Both functions are loops around `tokio::select!`; a run of them is given by
the list of the branches that fire.
-/

namespace SechatClient

open ByteStrings

/-- The branches of the two loops, with the clock where the branch reads it. -/
inductive SelectEvent where
  | tick (now : Int64)
  | recvd (datagram : Datagram)
  | recvError
  | deadline

inductive PunchHoleResult where
  | sendError
  | recvError
  | timeout
  deriving DecidableEq

/-- The error which `initial_handshake` returns. -/
inductive P2PError where
  | timeout
  deriving DecidableEq

/-- A datagram given to `send_to`. -/
structure Outbound where
  dest : SocketAddr
  bytes : Bytes

/-- `outcome` is `none` while the function still waits; `rest` are the events
it leaves to the functions called next. -/
structure PunchRun where
  outcome : Option (Except PunchHoleResult SocketAddr)
  sent : List Outbound
  rest : List SelectEvent

structure HandshakeRun where
  outcome : Option (Except P2PError KeyType)
  sent : List Outbound
  read : List Datagram

/-- How `connect_session` goes on: with a direct session or on the relay. -/
inductive ConnectOutcome where
  | direct (remote : SocketAddr) (key : KeyType)
  | relay
  deriving DecidableEq

structure ConnectRun where
  outcome : Option ConnectOutcome
  handshakeRead : List Datagram
  sent : List Outbound

section Loops

variable (P : Primitives) (frames : Codec PeerMessage) (pings : Codec Ping)

def punchHoleLoop (timestamp : UInt64) (remotePubkey : KeyType)
    (data : Bytes) (remoteAddr : SocketAddr) : List SelectEvent → PunchRun
  | [] => ⟨none, [], []⟩
  | .tick _ :: events =>
      let run := punchHoleLoop timestamp remotePubkey data remoteAddr events
      { run with sent := ⟨remoteAddr, data⟩ :: run.sent }
  | .recvd datagram :: events =>
      match punchHoleRecv pings timestamp remotePubkey datagram.src
          (recvFrom 1024 datagram.bytes) with
      | some addr => ⟨some (.ok addr), [], events⟩
      | none => punchHoleLoop timestamp remotePubkey data remoteAddr events
  | .recvError :: events => ⟨some (.error .recvError), [], events⟩
  | .deadline :: events => ⟨some (.error .timeout), [], events⟩

def punchHole (timestamp : UInt64) (mypubkey remotePubkey : KeyType)
    (remoteAddr : SocketAddr) (events : List SelectEvent) : PunchRun :=
  match pings.toVec ⟨mypubkey, timestamp⟩ with
  | .error _ => ⟨some (.error .sendError), [], events⟩
  | .ok data =>
      punchHoleLoop pings timestamp remotePubkey data remoteAddr events

/-- What a handshake needs besides the socket. -/
structure HandshakeArgs where
  keys : Keys
  ephPriv : KeyType
  peer : PeerPublic

/-- `send_peer_message` with the `Init` of this side; its result is dropped. -/
def sendInit (args : HandshakeArgs) (remoteAddr : SocketAddr) (now : Int64) :
    List Outbound :=
  ((frame P frames (.init (P.x25519Public args.ephPriv)) args.keys.x25519Pub
    args.keys.ed25519Signing now).map (Outbound.mk remoteAddr)).toList

def initialHandshakeLoop (args : HandshakeArgs) (remoteAddr : SocketAddr) :
    List SelectEvent → HandshakeRun
  | [] => ⟨none, [], []⟩
  | .tick now :: events =>
      let run := initialHandshakeLoop args remoteAddr events
      { run with sent := sendInit P frames args remoteAddr now ++ run.sent }
  | .recvd datagram :: events =>
      match handshakeRecv P frames args.peer args.ephPriv datagram.now
          (recvFrom 1024 datagram.bytes) with
      | some key => ⟨some (.ok key), [], [datagram]⟩
      | none =>
          let run := initialHandshakeLoop args remoteAddr events
          { run with read := datagram :: run.read }
  | .recvError :: events => initialHandshakeLoop args remoteAddr events
  | .deadline :: _ => ⟨some (.error .timeout), [], []⟩

def initialHandshake (args : HandshakeArgs) (remoteAddr : SocketAddr)
    (now : Int64) (events : List SelectEvent) : HandshakeRun :=
  let run := initialHandshakeLoop P frames args remoteAddr events
  { run with sent := sendInit P frames args remoteAddr now ++ run.sent }

/-- The choice of the transport in `connect_session`; `now` is the clock when
the handshake sends its first `Init`. -/
def connectTransport (args : HandshakeArgs) (ipPort : SocketAddr)
    (punchtimestamp now : Int64) (events : List SelectEvent) : ConnectRun :=
  let punch := punchHole pings punchtimestamp.toUInt64 args.keys.x25519Pub
    args.peer.publicKey ipPort events
  match punch.outcome with
  | none => ⟨none, [], punch.sent⟩
  | some (.error _) => ⟨some .relay, [], punch.sent⟩
  | some (.ok remote) =>
      let run := initialHandshake P frames args remote now punch.rest
      let outcome := match run.outcome with
        | none => none
        | some (.error _) => some .relay
        | some (.ok key) => some (.direct remote key)
      ⟨outcome, run.read, punch.sent ++ run.sent⟩

/-- A verified fresh `Init` of the peer, as the handshake reads it. -/
def VerifiedInit (peer : PeerPublic) (datagram : Datagram) : Prop :=
  ∃ msg ephermal,
    frames.fromSlice (recvFrom 1024 datagram.bytes) = .ok msg ∧
      msg.verify P peer.publicKey peer.verifying = true ∧
      frameIsFresh msg.timestamp datagram.now = true ∧
      msg.payload = .init ephermal

/-- The handshake received a verified fresh `Init` from the address. -/
def AuthenticatedBy (peer : PeerPublic) (read : List Datagram)
    (remote : SocketAddr) : Prop :=
  ∃ datagram ∈ read, datagram.src = remote ∧
    VerifiedInit P frames peer datagram

end Loops

/-! ## The datagrams that decide -/

section Deciding

variable (P : Primitives) (frames : Codec PeerMessage) (pings : Codec Ping)

def SelectEvent.datagram : SelectEvent → Option Datagram
  | .recvd datagram => some datagram
  | _ => none

def received (events : List SelectEvent) : List Datagram :=
  events.filterMap SelectEvent.datagram

/-- The ping which the punch waits for, whoever sent it. -/
def matchingPing (timestamp : UInt64) (remotePubkey : KeyType)
    (datagram : Datagram) : Bool :=
  (punchHoleRecv pings timestamp remotePubkey datagram.src
    (recvFrom 1024 datagram.bytes)).isSome

def acceptedInit (args : HandshakeArgs) (datagram : Datagram) : Bool :=
  (handshakeRecv P frames args.peer args.ephPriv datagram.now
    (recvFrom 1024 datagram.bytes)).isSome

/-- The datagrams that arrive behind the first matching ping. -/
def behindPing (timestamp : UInt64) (remotePubkey : KeyType)
    (datagrams : List Datagram) : List Datagram :=
  (datagrams.dropWhile fun datagram =>
    !matchingPing pings timestamp remotePubkey datagram).tail

/-- The first matching ping and the first verified fresh `Init` behind it have
the same source. -/
def SameSource (args : HandshakeArgs) (timestamp : UInt64)
    (datagrams : List Datagram) : Prop :=
  (datagrams.find? (matchingPing pings timestamp args.peer.publicKey)).map
      Datagram.src =
    ((behindPing pings timestamp args.peer.publicKey datagrams).find?
      (acceptedInit P frames args)).map Datagram.src

instance (args : HandshakeArgs) (timestamp : UInt64)
    (datagrams : List Datagram) :
    Decidable (SameSource P frames pings args timestamp datagrams) :=
  inferInstanceAs (Decidable (_ = _))

end Deciding

/-! ## What the loops return -/

section Returns

variable {P : Primitives} {frames : Codec PeerMessage} {pings : Codec Ping}
  {args : HandshakeArgs}

theorem punchHoleRecv_src
    {timestamp : UInt64} {remotePubkey : KeyType} {src remote : SocketAddr}
    {bytes : Bytes}
    (hping : punchHoleRecv pings timestamp remotePubkey src bytes =
      some remote) :
    remote = src := by
  unfold punchHoleRecv at hping
  split at hping
  next => contradiction
  next =>
    split at hping
    · cases hping
      rfl
    · contradiction

/-- A punch that succeeds returns the source of the first matching ping and
leaves what arrives behind it. -/
theorem punchHoleLoop_ok
    {timestamp : UInt64} {remotePubkey : KeyType} {data : Bytes}
    {remoteAddr remote : SocketAddr} {events : List SelectEvent}
    (hok : (punchHoleLoop pings timestamp remotePubkey data remoteAddr
      events).outcome = some (.ok remote)) :
    ((received events).find? (matchingPing pings timestamp remotePubkey)).map
        Datagram.src = some remote ∧
      received (punchHoleLoop pings timestamp remotePubkey data remoteAddr
        events).rest =
        behindPing pings timestamp remotePubkey (received events) := by
  induction events with
  | nil => simp [punchHoleLoop] at hok
  | cons event events ih =>
      cases event with
      | tick now => exact ih hok
      | recvd datagram =>
          have hreceived : received (.recvd datagram :: events) =
              datagram :: received events := rfl
          rw [hreceived]
          cases hping : punchHoleRecv pings timestamp remotePubkey datagram.src
              (recvFrom 1024 datagram.bytes) with
          | some addr =>
              simp only [punchHoleLoop, hping] at hok ⊢
              cases hok
              simp [matchingPing, behindPing, hping, punchHoleRecv_src hping]
          | none =>
              simp only [punchHoleLoop, hping] at hok ⊢
              simpa [matchingPing, behindPing, hping] using ih hok
      | recvError => simp [punchHoleLoop] at hok
      | deadline => simp [punchHoleLoop] at hok

theorem acceptedInit_iff (datagram : Datagram) :
    acceptedInit P frames args datagram = true ↔
      VerifiedInit P frames args.peer datagram := by
  unfold acceptedInit
  constructor
  · intro haccepted
    obtain ⟨key, hkey⟩ := Option.isSome_iff_exists.mp haccepted
    obtain ⟨msg, ephermal, hslice, hverify, hfresh, hpayload, _⟩ :=
      handshakeRecv_eq_some P hkey
    exact ⟨msg, ephermal, hslice, hverify, hfresh, hpayload⟩
  · rintro ⟨msg, ephermal, hslice, hverify, hfresh, hpayload⟩
    simp [handshakeRecv, hslice, hverify, hfresh, hpayload]

/-- A handshake that succeeds has read up to the first `Init` it accepts. -/
theorem initialHandshakeLoop_ok
    {remoteAddr : SocketAddr} {key : KeyType} {events : List SelectEvent}
    (hok : (initialHandshakeLoop P frames args remoteAddr events).outcome =
      some (.ok key)) :
    ∃ before init,
      (initialHandshakeLoop P frames args remoteAddr events).read =
          before ++ [init] ∧
        (∀ datagram ∈ before,
          acceptedInit P frames args datagram = false) ∧
        acceptedInit P frames args init = true ∧
        (received events).find? (acceptedInit P frames args) = some init := by
  induction events with
  | nil => simp [initialHandshakeLoop] at hok
  | cons event events ih =>
      cases event with
      | tick now => exact ih hok
      | recvd datagram =>
          have hreceived : received (.recvd datagram :: events) =
              datagram :: received events := rfl
          rw [hreceived]
          cases hinit : handshakeRecv P frames args.peer args.ephPriv
              datagram.now (recvFrom 1024 datagram.bytes) with
          | some key =>
              have haccepted : acceptedInit P frames args datagram = true := by
                simp [acceptedInit, hinit]
              refine ⟨[], datagram, ?_, by simp, haccepted, ?_⟩
              · simp [initialHandshakeLoop, hinit]
              · simp [haccepted]
          | none =>
              have hignored : acceptedInit P frames args datagram = false := by
                simp [acceptedInit, hinit]
              simp only [initialHandshakeLoop, hinit] at hok ⊢
              obtain ⟨before, init, hread, hbefore, haccepted, hfind⟩ := ih hok
              refine ⟨datagram :: before, init, by simp [hread], ?_, haccepted,
                by simp [hignored, hfind]⟩
              exact List.forall_mem_cons.mpr ⟨hignored, hbefore⟩
      | recvError => exact ih hok
      | deadline => simp [initialHandshakeLoop] at hok

theorem punchHole_ok
    {timestamp : UInt64} {mypubkey remotePubkey : KeyType}
    {remoteAddr remote : SocketAddr} {events : List SelectEvent}
    (hok : (punchHole pings timestamp mypubkey remotePubkey remoteAddr
      events).outcome = some (.ok remote)) :
    ((received events).find? (matchingPing pings timestamp remotePubkey)).map
        Datagram.src = some remote ∧
      received (punchHole pings timestamp mypubkey remotePubkey remoteAddr
        events).rest =
        behindPing pings timestamp remotePubkey (received events) := by
  unfold punchHole at hok ⊢
  split at hok
  next => simp at hok
  next data hdata => exact punchHoleLoop_ok hok

/-- A direct session is started by a punch and a handshake that succeed. -/
theorem connectTransport_direct
    {ipPort remote : SocketAddr} {punchtimestamp now : Int64} {key : KeyType}
    {events : List SelectEvent}
    (hdirect : (connectTransport P frames pings args ipPort punchtimestamp now
      events).outcome = some (.direct remote key)) :
    (punchHole pings punchtimestamp.toUInt64 args.keys.x25519Pub
        args.peer.publicKey ipPort events).outcome = some (.ok remote) ∧
      (initialHandshakeLoop P frames args remote
        (punchHole pings punchtimestamp.toUInt64 args.keys.x25519Pub
          args.peer.publicKey ipPort events).rest).outcome = some (.ok key) ∧
      (connectTransport P frames pings args ipPort punchtimestamp now
        events).handshakeRead =
        (initialHandshakeLoop P frames args remote
          (punchHole pings punchtimestamp.toUInt64 args.keys.x25519Pub
            args.peer.publicKey ipPort events).rest).read := by
  simp only [connectTransport, initialHandshake] at hdirect ⊢
  split at hdirect
  next => simp at hdirect
  next => simp at hdirect
  next addr hpunch =>
    simp only at hdirect
    split at hdirect
    next => simp at hdirect
    next => simp at hdirect
    next other hinit =>
      cases hdirect
      exact ⟨hpunch, hinit, rfl⟩

end Returns

/-- A direct session with the address `remote` rests on an `Init` of the peer
from there exactly if the first matching ping and the first verified fresh
`Init` behind it have the same source. -/
theorem direct_remote_authenticated_iff
    {P : Primitives} {frames : Codec PeerMessage} {pings : Codec Ping}
    {args : HandshakeArgs} {ipPort remote : SocketAddr}
    {punchtimestamp now : Int64} {key : KeyType} {events : List SelectEvent}
    (hdirect : (connectTransport P frames pings args ipPort punchtimestamp now
      events).outcome = some (.direct remote key)) :
    AuthenticatedBy P frames args.peer
        (connectTransport P frames pings args ipPort punchtimestamp now
          events).handshakeRead remote ↔
      SameSource P frames pings args punchtimestamp.toUInt64
        (received events) := by
  obtain ⟨hpunch, hinit, hhandshake⟩ := connectTransport_direct hdirect
  obtain ⟨hping, hrest⟩ := punchHole_ok hpunch
  obtain ⟨before, init, hread, hbefore, haccepted, hfind⟩ :=
    initialHandshakeLoop_ok hinit
  rw [hrest] at hfind
  rw [SameSource, hping, hfind, hhandshake, hread, Option.map_some,
    Option.some_inj]
  constructor
  · rintro ⟨datagram, hmem, hsrc, hverified⟩
    -- everything read before the accepted `Init` was ignored
    have heq : datagram = init := by
      rcases List.mem_append.mp hmem with hmem | hmem
      · rw [← acceptedInit_iff, hbefore datagram hmem] at hverified
        contradiction
      · exact List.mem_singleton.mp hmem
    rw [← hsrc, heq]
  · intro hsrc
    exact ⟨init, by simp, hsrc.symm, (acceptedInit_iff init).mp haccepted⟩

/-! ## A ping from another address -/

def sampleArgs : HandshakeArgs where
  keys := sampleKeys 1
  ephPriv := Vector.replicate 32 5
  peer := (sampleKeys 2).publicPart

def datagramFrom (src : SocketAddr) (bytes : Bytes) : Datagram :=
  ⟨src, bytes, 1000, true⟩

/-- A ping with the peer's public key and the timestamp of the punch, then the
`Init` of the peer. -/
def samplePunch (pingSrc initSrc : SocketAddr) : List SelectEvent :=
  [.tick 1000, .recvd (datagramFrom pingSrc samplePing),
    .recvd (datagramFrom initSrc sampleInit)]

theorem samplePing_matches (src : SocketAddr) :
    punchHoleRecv transparentPings (Int64.toUInt64 77)
        sampleArgs.peer.publicKey (datagramFrom src samplePing).src
        (recvFrom 1024 (datagramFrom src samplePing).bytes) = some src :=
  samplePing_accepted src

theorem sampleInit_read (src : SocketAddr) :
    handshakeRecv .transparent transparentFrames sampleArgs.peer
        sampleArgs.ephPriv (datagramFrom src sampleInit).now
        (recvFrom 1024 (datagramFrom src sampleInit).bytes) =
      some (deriveSessionKey .transparent (Vector.replicate 32 5)
        (Vector.replicate 32 9)) := by
  have hfits : recvFrom 1024 (datagramFrom src sampleInit).bytes =
      sampleInit := sampleInit_fits
  rw [hfits]
  exact sampleInit_accepted

theorem samplePunch_direct (pingSrc initSrc : SocketAddr) :
    (connectTransport .transparent transparentFrames transparentPings
        sampleArgs "203.0.113.5:4000" 77 1000
        (samplePunch pingSrc initSrc)).outcome =
        some (.direct pingSrc (deriveSessionKey .transparent
          (Vector.replicate 32 5) (Vector.replicate 32 9))) ∧
      (connectTransport .transparent transparentFrames transparentPings
        sampleArgs "203.0.113.5:4000" 77 1000
        (samplePunch pingSrc initSrc)).handshakeRead =
        [datagramFrom initSrc sampleInit] := by
  obtain ⟨data, hdata⟩ : ∃ data, transparentPings.toVec
      ⟨sampleArgs.keys.x25519Pub, Int64.toUInt64 77⟩ = .ok data := ⟨_, rfl⟩
  simp only [connectTransport, punchHole, hdata, samplePunch, punchHoleLoop,
    samplePing_matches, initialHandshake, initialHandshakeLoop,
    sampleInit_read, and_self]

theorem samplePunch_sameSource (pingSrc initSrc : SocketAddr) :
    SameSource .transparent transparentFrames transparentPings sampleArgs
        (Int64.toUInt64 77) (received (samplePunch pingSrc initSrc)) ↔
      pingSrc = initSrc := by
  have hreceived : received (samplePunch pingSrc initSrc) =
      [datagramFrom pingSrc samplePing,
        datagramFrom initSrc sampleInit] := rfl
  have hping : matchingPing transparentPings (Int64.toUInt64 77)
      sampleArgs.peer.publicKey (datagramFrom pingSrc samplePing) = true := by
    rw [matchingPing, samplePing_matches]
    rfl
  have hinit : acceptedInit .transparent transparentFrames sampleArgs
      (datagramFrom initSrc sampleInit) = true := by
    rw [acceptedInit, sampleInit_read]
    rfl
  have hsrc (src : SocketAddr) (bytes : Bytes) :
      (datagramFrom src bytes).src = src := rfl
  simp [SameSource, hreceived, behindPing, hping, hinit, hsrc]

theorem genuine_ping_authenticated :
    AuthenticatedBy .transparent transparentFrames sampleArgs.peer
      (connectTransport .transparent transparentFrames transparentPings
        sampleArgs "203.0.113.5:4000" 77 1000
        (samplePunch "203.0.113.5:4000"
          "203.0.113.5:4000")).handshakeRead "203.0.113.5:4000" :=
  (direct_remote_authenticated_iff (samplePunch_direct _ _).1).mpr
    ((samplePunch_sameSource _ _).mpr rfl)

/-- The ping is forged by a third party.  The handshake succeeds with the
peer, but the session talks to the third party's address. -/
theorem forged_ping_unauthenticated :
    (connectTransport .transparent transparentFrames transparentPings
        sampleArgs "203.0.113.5:4000" 77 1000
        (samplePunch "198.51.100.66:9999" "203.0.113.5:4000")).outcome =
      some (.direct "198.51.100.66:9999" (deriveSessionKey .transparent
        (Vector.replicate 32 5) (Vector.replicate 32 9))) ∧
      ¬ AuthenticatedBy .transparent transparentFrames sampleArgs.peer
        (connectTransport .transparent transparentFrames transparentPings
          sampleArgs "203.0.113.5:4000" 77 1000
          (samplePunch "198.51.100.66:9999"
            "203.0.113.5:4000")).handshakeRead "198.51.100.66:9999" := by
  obtain ⟨hdirect, hread⟩ :=
    samplePunch_direct "198.51.100.66:9999" "203.0.113.5:4000"
  refine ⟨hdirect, ?_⟩
  rintro ⟨datagram, hmem, hsrc, _⟩
  rw [hread, List.mem_singleton] at hmem
  rw [hmem] at hsrc
  exact absurd hsrc (by decide)

end SechatClient
