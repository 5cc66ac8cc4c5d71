import SechatClient.PeerFrames

/-!
# Datagrams on the shared socket

Hole-punch pings, STUN discovery and the two ephemeral handshakes.  Each
function is given as what it does with one received datagram or frame; the
loops around them only wait for the next one, resend, or time out.
-/

namespace SechatClient

open ByteStrings

abbrev SocketAddr := String

structure Ping where
  pubkey : KeyType
  timestamp : UInt64
  deriving DecidableEq

structure StunPing where
  pubKey : KeyType
  verif : KeyType
  timestamp : Int64
  signature : Bytes
  deriving DecidableEq

structure StunReply where
  observed : String
  deriving DecidableEq

def stunDataToSign (pubKey verif : KeyType) (timestamp : Int64) : Bytes :=
  pubKey.toList ++ (verif.toList ++ i64ToLeBytes timestamp)

variable (P : Primitives)

def stunPing (pubKey signing : KeyType) (now : Int64) : StunPing :=
  let verif := P.verifyingKey signing
  { pubKey := pubKey
    verif := verif
    timestamp := now
    signature := (signChallenge P signing
      (stunDataToSign pubKey verif now)).toList }

/-- `punch_hole` on one datagram: the sender's address once a ping of the
expected peer and timestamp arrives, `none` to keep waiting. -/
def punchHoleRecv (pings : Codec Ping) (timestamp : UInt64)
    (remotePubkey : KeyType) (src : SocketAddr) (datagram : Bytes) :
    Option SocketAddr :=
  match pings.fromSlice datagram with
  | .error _ => none
  | .ok p =>
      if p.pubkey = remotePubkey ∧ p.timestamp = timestamp then some src
      else none

/-- The checks shared by `initial_handshake` and `relay_handshake`: the
session key once a verified fresh `Init` of the peer arrives, `none` to
ignore the frame and keep waiting. -/
def handshakeRecv (frames : Codec PeerMessage) (remote : PeerPublic)
    (myEphermalPriv : KeyType) (now : Int64) (bytes : Bytes) :
    Option KeyType :=
  match frames.fromSlice bytes with
  | .error _ => none
  | .ok msg =>
      if msg.verify P remote.publicKey remote.verifying then
        if frameIsFresh msg.timestamp now then
          match msg.payload with
          | .init ephermal => some (deriveSessionKey P myEphermalPriv ephermal)
          | _ => none
        else
          none
      else
        none

theorem handshakeRecv_eq_some
    {frames : Codec PeerMessage} {remote : PeerPublic}
    {myEphermalPriv key : KeyType} {now : Int64} {bytes : Bytes}
    (hkey : handshakeRecv P frames remote myEphermalPriv now bytes =
      some key) :
    ∃ msg ephermal, frames.fromSlice bytes = .ok msg ∧
      msg.verify P remote.publicKey remote.verifying = true ∧
      frameIsFresh msg.timestamp now = true ∧
      msg.payload = .init ephermal ∧
      key = deriveSessionKey P myEphermalPriv ephermal := by
  unfold handshakeRecv at hkey
  cases hslice : frames.fromSlice bytes with
  | error _ => simp [hslice] at hkey
  | ok msg =>
      simp only [hslice] at hkey
      by_cases hverify : msg.verify P remote.publicKey remote.verifying = true
      · by_cases hfresh : frameIsFresh msg.timestamp now = true
        · rw [if_pos hverify, if_pos hfresh] at hkey
          cases hpayload : msg.payload <;> simp only [hpayload] at hkey
          case init ephermal =>
            cases hkey
            exact ⟨msg, ephermal, rfl, hverify, hfresh, hpayload, rfl⟩
          all_goals contradiction
        · simp [hfresh] at hkey
      · simp [hverify] at hkey

theorem handshakeRecv_init
    (hsig : P.SignatureCorrect) {frames : Codec PeerMessage}
    (hround : frames.RoundTrip) {sender signing ephermal : KeyType}
    {timestamp now : Int64} {bytes : Bytes}
    (hbytes : frame P frames (.init ephermal) sender signing timestamp =
      some bytes)
    (hfresh : frameIsFresh timestamp now = true)
    (myEphermalPriv : KeyType) :
    handshakeRecv P frames ⟨sender, P.verifyingKey signing⟩ myEphermalPriv now
        bytes = some (deriveSessionKey P myEphermalPriv ephermal) := by
  have hslice := frame_fromSlice P hround hbytes
  have hverify := PeerMessage.verify_new P hsig (.init ephermal) sender signing
    timestamp
  simp only [handshakeRecv, hslice]
  rw [if_pos hverify]
  exact if_pos hfresh

/-- What `recv_from` leaves in a buffer: a longer datagram is cut off. -/
def recvFrom (bufferLen : ℕ) (datagram : Bytes) : Bytes :=
  datagram.take bufferLen

/-- `stun_discover` on one datagram within its two-second wait. -/
def stunRecv (replies : Codec StunReply) (datagram : Bytes) :
    Option String :=
  match replies.fromSlice datagram with
  | .error _ => none
  | .ok reply => some reply.observed

/-! ## Transparent codecs -/

def transparentPings : Codec Ping :=
  Codec.ofFields
    (fun ping => [ping.pubkey.toList, toLeBytes ping.timestamp])
    (fun
      | [pubkey, timestamp] =>
          some ⟨arrayOfBytes 32 pubkey, ofLeBytes timestamp⟩
      | _ => none)

theorem transparentPings_roundTrip : transparentPings.RoundTrip := by
  apply Codec.ofFields_roundTrip
  rintro ⟨pubkey, timestamp⟩
  simp

def transparentReplies : Codec StunReply :=
  Codec.ofFields
    (fun reply => [utf8 reply.observed])
    (fun
      | [observed] => (fromUtf8 observed).map StunReply.mk
      | _ => none)

def sampleInit : Bytes :=
  (frame .transparent transparentFrames (.init (Vector.replicate 32 9))
    (sampleKeys 2).x25519Pub (sampleKeys 2).ed25519Signing 1000).getD []

theorem sampleInit_accepted :
    handshakeRecv .transparent transparentFrames (sampleKeys 2).publicPart
        (Vector.replicate 32 5) 1000 sampleInit =
      some (deriveSessionKey .transparent (Vector.replicate 32 5)
        (Vector.replicate 32 9)) := by
  have hfresh : frameIsFresh 1000 1000 = true := by decide
  exact handshakeRecv_init .transparent transparent_signatureCorrect
    transparentFrames_roundTrip rfl hfresh (Vector.replicate 32 5)

theorem sampleInit_fits : recvFrom 1024 sampleInit = sampleInit := by
  have hbytes : sampleInit = packFields
      [i64ToLeBytes 1000, (sampleKeys 2).x25519Pub.toList,
        (PeerMessage.new .transparent (.init (Vector.replicate 32 9))
          (sampleKeys 2).x25519Pub (sampleKeys 2).ed25519Signing
          1000).signature,
        [0], (Vector.replicate 32 9 : KeyType).toList] := rfl
  apply List.take_of_length_le
  rw [hbytes, packFields_length]
  simp [PeerMessage.new]

def samplePing : Bytes :=
  transparentPings.bytesOf ⟨(sampleKeys 2).x25519Pub, 77⟩

theorem samplePing_accepted (src : SocketAddr) :
    punchHoleRecv transparentPings 77 (sampleKeys 2).publicPart.publicKey src
      (recvFrom 1024 samplePing) = some src := by
  have hbytes : samplePing = packFields
      [(sampleKeys 2).x25519Pub.toList, toLeBytes 77] := rfl
  have hfits : recvFrom 1024 samplePing = samplePing := by
    apply List.take_of_length_le
    rw [hbytes, packFields_length]
    simp
  have hslice := transparentPings_roundTrip.fromSlice_toVec
    (transparentPings_roundTrip.toVec_eq ⟨(sampleKeys 2).x25519Pub, 77⟩)
  rw [hfits]
  simp [punchHoleRecv, samplePing, hslice, Keys.publicPart]

end SechatClient
