import SechatClient.SharedSocket
import SechatClient.Watchdog

/-!
# The two receive loops of `start_session`

The relay loop hands every frame to `handle_inbound_frame` as it arrived; the
direct loop reads each datagram into a buffer of 2048 bytes and skips those
from elsewhere.  Both give up after 45 seconds without a datagram.  Times are
in milliseconds.
-/

namespace SechatClient

open ByteStrings Watchdog

/-- `SESSION_IDLE_TIMEOUT_SECS` -/
def sessionIdleTimeoutMillis : ℕ := 45 * 1000

variable (P : Primitives) (frames : Codec PeerMessage) (receiver : Receiver)

def directRecvLoop (remote : SocketAddr) :
    RecvState → List Datagram → RecvRun
  | state, [] => ⟨state, [], false⟩
  | state, datagram :: rest =>
      if datagram.src ≠ remote then
        directRecvLoop remote state rest
      else
        match handleInboundFrame P frames receiver state
            datagram.delivery with
        | (next, true) =>
            let run := directRecvLoop remote next rest
            ⟨run.state, datagram.delivery :: run.fed, run.stopped⟩
        | (next, false) => ⟨next, [datagram.delivery], true⟩

/-- One turn of the direct loop.  A datagram from elsewhere is skipped, and
the next turn waits anew. -/
def directRecvStep (remote : SocketAddr) (state : RecvState)
    (datagram : Datagram) : RecvState × Bool :=
  if datagram.src ≠ remote then (state, true)
  else handleInboundFrame P frames receiver state datagram.delivery

/-- The relay loop with its timeout; `armed` is when it is started. -/
def timedRecvLoop (armed : ℕ) (inbound : List (Timed Delivery)) :
    GuardedRun RecvState :=
  guarded sessionIdleTimeoutMillis (handleInboundFrame P frames receiver)
    armed .initial inbound

def timedDirectRecvLoop (remote : SocketAddr) (armed : ℕ)
    (datagrams : List (Timed Datagram)) : GuardedRun RecvState :=
  guarded sessionIdleTimeoutMillis
    (directRecvStep P frames receiver remote) armed .initial datagrams

variable {P frames receiver}

theorem loop_handleInboundFrame (state : RecvState)
    (deliveries : List Delivery) :
    loop (handleInboundFrame P frames receiver) state deliveries =
      ⟨(recvLoop P frames receiver state deliveries).state,
        (recvLoop P frames receiver state deliveries).stopped⟩ := by
  induction deliveries generalizing state with
  | nil => rfl
  | cons delivery rest ih =>
      simp only [loop, recvLoop]
      cases hframe : handleInboundFrame P frames receiver state delivery with
      | mk next goesOn =>
          cases goesOn with
          | true => exact ih next
          | false => rfl

theorem loop_directRecvStep (remote : SocketAddr) (state : RecvState)
    (datagrams : List Datagram) :
    loop (directRecvStep P frames receiver remote) state datagrams =
      ⟨(directRecvLoop P frames receiver remote state datagrams).state,
        (directRecvLoop P frames receiver remote state datagrams).stopped⟩ := by
  induction datagrams generalizing state with
  | nil => rfl
  | cons datagram rest ih =>
      simp only [loop, directRecvLoop, directRecvStep]
      by_cases hsrc : datagram.src ≠ remote
      · simp only [if_pos hsrc]
        exact ih state
      · simp only [if_neg hsrc]
        cases hframe : handleInboundFrame P frames receiver state
            datagram.delivery with
        | mk next goesOn =>
            cases goesOn with
            | true => exact ih next
            | false => rfl

/-! ## The direct loop as a loop over cut off frames -/

/-- A frame of the peer as a datagram. -/
def Delivery.datagram (remote : SocketAddr) (delivery : Delivery) :
    Datagram :=
  ⟨remote, delivery.bytes, delivery.now, delivery.evtOpen⟩

/-- A frame of which the transport hands over what `read` makes of it. -/
def Delivery.readWith (read : Bytes → Bytes) (delivery : Delivery) :
    Delivery :=
  { delivery with bytes := read delivery.bytes }

theorem timedDirectRecvLoop_eq
    (remote : SocketAddr) (armed : ℕ) (inbound : List (Timed Delivery)) :
    timedDirectRecvLoop P frames receiver remote armed
        (inbound.map (Timed.map (Delivery.datagram remote))) =
      timedRecvLoop P frames receiver armed
        (inbound.map (Timed.map (Delivery.readWith (recvFrom 2048)))) := by
  have hstep : ∀ state delivery,
      directRecvStep P frames receiver remote state
          (Delivery.datagram remote delivery) =
        handleInboundFrame P frames receiver state
          (delivery.readWith (recvFrom 2048)) := by
    intro state delivery
    simp [directRecvStep, Delivery.datagram, Datagram.delivery,
      Delivery.readWith]
  unfold timedDirectRecvLoop timedRecvLoop
  rw [guarded_map hstep, guarded_map fun _ _ => rfl]

/-- Frames that fit into the buffer are handled alike, whatever they are. -/
theorem timedDirectRecvLoop_eq_timedRecvLoop
    (remote : SocketAddr) (armed : ℕ) {inbound : List (Timed Delivery)}
    (hfits : ∀ timed ∈ inbound, timed.item.bytes.length ≤ 2048) :
    timedDirectRecvLoop P frames receiver remote armed
        (inbound.map (Timed.map (Delivery.datagram remote))) =
      timedRecvLoop P frames receiver armed inbound := by
  rw [timedDirectRecvLoop_eq]
  congr 1
  conv_rhs => rw [← List.map_id inbound]
  apply List.map_congr_left
  intro timed hmem
  simp [Timed.map, Delivery.readWith, recvFrom,
    List.take_of_length_le (hfits timed hmem)]

end SechatClient
