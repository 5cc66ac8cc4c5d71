import SechatClient.BlobHandling
import SechatClient.SessionReceive
import SechatClient.WrappingDistance

/-!
# Replay windows

`frame_is_fresh` and the age checks of `handle_blob` take the absolute
difference between the clock and a timestamp which the sender chose.  With
clocks that count from the epoch this is their distance.  A negative timestamp
can be `2 ^ 63` seconds away or more, and then the difference is no 64-bit
number: arithmetic that wraps accepts the opposite point of the circle whatever
the window is, arithmetic that is checked stops.
-/

namespace SechatClient

open ByteStrings WrappingDistance

def BlobPayload.timestamp : BlobPayload → Int64
  | .offlineMessage _ timestamp _ _ => timestamp
  | .purge _ _ timestamp => timestamp

def BlobResult.PassesAgeCheck (result : BlobResult) : Prop :=
  result.outcome ≠ .error .replayDetected

/-- The distance of the two times as numbers. -/
def timeDistance (timestamp now : Int64) : ℕ :=
  (now.toInt - timestamp.toInt).natAbs

/-- Both windows accept exactly the timestamps in them, and neither
`now - timestamp` nor its `abs` overflows. -/
structure ReplayWindowsExact (P : Primitives) (messages : Codec Message)
    (timestamp now : Int64) : Prop where
  frame : frameIsFresh timestamp now = true ↔ timeDistance timestamp now ≤ 120
  blob : ∀ peers myPriv env payload, env.now = now →
    payload.timestamp = timestamp →
      ((handleBlob P messages peers myPriv env payload).PassesAgeCheck ↔
        timeDistance timestamp now ≤ 86400 * 30)
  subtraction : now.toBitVec.ssubOverflow timestamp.toBitVec = false
  absolute : (now - timestamp).toBitVec.negOverflow = false

/-! ## The check of a blob -/

section Checks

variable {P : Primitives} {messages : Codec Message} {peers : PeersDir}
  {myPriv senderPubHash : KeyType} {now timestamp : Int64}
  {ciphertext signature : Bytes}

theorem checkOffline_ne_replayDetected_iff :
    checkOffline P messages peers myPriv now senderPubHash timestamp
        ciphertext signature ≠ .error .replayDetected ↔
      blobIsFresh timestamp now = true := by
  unfold checkOffline
  cases blobIsFresh timestamp now with
  | false => simp
  | true =>
      refine iff_of_true ?_ rfl
      simp only [if_true]
      cases loadPeerData P peers senderPubHash with
      | error e => simp
      | ok peerData =>
          simp only
          split
          · cases decryptMessageStored P ciphertext
                (loadStorageKey P peerData.publicKey myPriv) with
            | error e => simp
            | ok plaintext =>
                simp only
                cases messages.fromSlice plaintext <;> simp
          · simp

theorem checkPurge_ne_replayDetected_iff :
    checkPurge P peers now senderPubHash signature timestamp ≠
        .error .replayDetected ↔
      blobIsFresh timestamp now = true := by
  unfold checkPurge
  cases blobIsFresh timestamp now with
  | false => simp
  | true =>
      refine iff_of_true ?_ rfl
      simp only [if_true]
      cases loadPeerData P peers senderPubHash with
      | error e => simp
      | ok peerData =>
          simp only
          split <;> simp

end Checks

/-- `ReplayDetected` comes from the age check only, which comes first. -/
theorem passesAgeCheck_iff
    (P : Primitives) (messages : Codec Message) (peers : PeersDir)
    (myPriv : KeyType) (env : BlobEnv) (payload : BlobPayload) :
    (handleBlob P messages peers myPriv env payload).PassesAgeCheck ↔
      blobIsFresh payload.timestamp env.now = true := by
  unfold BlobResult.PassesAgeCheck
  cases payload with
  | offlineMessage senderPubHash timestamp ciphertext signature =>
      rw [BlobPayload.timestamp, ← checkOffline_ne_replayDetected_iff]
      simp only [handleBlob]
      cases checkOffline P messages peers myPriv env.now senderPubHash
          timestamp ciphertext signature with
      | error e => simp
      | ok checked =>
          simp only
          split <;> simp
  | purge senderPubHash signature timestamp =>
      rw [BlobPayload.timestamp, ← checkPurge_ne_replayDetected_iff]
      simp only [handleBlob]
      cases checkPurge P peers env.now senderPubHash signature timestamp <;>
        simp

/-! ## The windows -/

section Windows

variable (timestamp now : Int64)

/-- When a comparison with a limit, in arithmetic that wraps, compares the
distance. -/
theorem abs_sub_le_exact_iff {limit : Int64} {window : ℕ}
    (hlimit : limit.toInt = window) (hwindow : 2 * window < 2 ^ 64) :
    ((now - timestamp).abs ≤ limit ↔ timeDistance timestamp now ≤ window) ↔
      timeDistance timestamp now ≠ 2 ^ 63 ∧
        timeDistance timestamp now + window < 2 ^ 64 := by
  rw [Int64.le_iff_toInt_le, hlimit]
  exact wrappingAge_exact_iff now.toBitVec timestamp.toBitVec hwindow

theorem frameIsFresh_exact_iff :
    (frameIsFresh timestamp now = true ↔
        timeDistance timestamp now ≤ 120) ↔
      timeDistance timestamp now ≠ 2 ^ 63 ∧
        timeDistance timestamp now + 120 < 2 ^ 64 := by
  rw [frameIsFresh, decide_eq_true_iff]
  exact abs_sub_le_exact_iff timestamp now rfl (by decide)

theorem blobIsFresh_exact_iff :
    (blobIsFresh timestamp now = true ↔
        timeDistance timestamp now ≤ 86400 * 30) ↔
      timeDistance timestamp now ≠ 2 ^ 63 ∧
        timeDistance timestamp now + 86400 * 30 < 2 ^ 64 := by
  rw [blobIsFresh, decide_eq_true_iff]
  exact abs_sub_le_exact_iff timestamp now rfl (by decide)

theorem not_overflows_int64_iff :
    (now.toBitVec.ssubOverflow timestamp.toBitVec = false ∧
        (now - timestamp).toBitVec.negOverflow = false) ↔
      timeDistance timestamp now < 2 ^ 63 := by
  have hboth := not_overflows_iff now.toBitVec timestamp.toBitVec
  rw [Overflows, not_or, Bool.not_eq_true, Bool.not_eq_true] at hboth
  exact hboth

theorem replayWindowsExact_iff
    (P : Primitives) (messages : Codec Message) :
    ReplayWindowsExact P messages timestamp now ↔
      timeDistance timestamp now < 2 ^ 63 := by
  constructor
  · intro hexact
    exact (not_overflows_int64_iff timestamp now).mp
      ⟨hexact.subtraction, hexact.absolute⟩
  · intro hnear
    obtain ⟨hsub, habs⟩ := (not_overflows_int64_iff timestamp now).mpr hnear
    have hframe := (frameIsFresh_exact_iff timestamp now).mpr (by omega)
    have hblob := (blobIsFresh_exact_iff timestamp now).mpr (by omega)
    refine ⟨hframe, ?_, hsub, habs⟩
    rintro peers myPriv env payload rfl rfl
    rw [passesAgeCheck_iff, hblob]

end Windows

/-- The windows are exact and free of overflow exactly for timestamps less
than `2 ^ 63` seconds away.  In arithmetic that wraps, each window by itself is
exact except at that distance, and where it is reached the other way around. -/
theorem replay_windows_exact_iff
    (P : Primitives) (messages : Codec Message) (timestamp now : Int64) :
    (ReplayWindowsExact P messages timestamp now ↔
      timeDistance timestamp now < 2 ^ 63) ∧
    ((frameIsFresh timestamp now = true ↔
        timeDistance timestamp now ≤ 120) ↔
      timeDistance timestamp now ≠ 2 ^ 63 ∧
        timeDistance timestamp now + 120 < 2 ^ 64) ∧
    ∀ peers myPriv env payload,
      ((handleBlob P messages peers myPriv env payload).PassesAgeCheck ↔
          timeDistance payload.timestamp env.now ≤ 86400 * 30) ↔
        timeDistance payload.timestamp env.now ≠ 2 ^ 63 ∧
          timeDistance payload.timestamp env.now + 86400 * 30 < 2 ^ 64 := by
  refine ⟨replayWindowsExact_iff timestamp now P messages,
    frameIsFresh_exact_iff timestamp now, ?_⟩
  intro peers myPriv env payload
  rw [passesAgeCheck_iff]
  exact blobIsFresh_exact_iff payload.timestamp env.now

/-- The timestamp opposite to the second 1700000000. -/
def oppositeTimestamp : Int64 := -9223372035154775808

def oppositeBlobs : List BlobPayload :=
  [.offlineMessage (Vector.replicate 32 1) oppositeTimestamp [] [],
    .purge (Vector.replicate 32 1) [] oppositeTimestamp]

/-- It is `2 ^ 63` seconds old, the subtraction overflows, and every window
accepts it. -/
theorem opposite_timestamp_accepted :
    timeDistance oppositeTimestamp 1700000000 = 2 ^ 63 ∧
      (1700000000 : Int64).toBitVec.ssubOverflow
        oppositeTimestamp.toBitVec = true ∧
      frameIsFresh oppositeTimestamp 1700000000 = true ∧
      (∀ payload ∈ oppositeBlobs,
        (handleBlob .transparent transparentMessages ∅
          (Vector.replicate 32 2)
          ⟨1700000000, false, Vector.replicate 12 0⟩
          payload).PassesAgeCheck) ∧
      ¬ ReplayWindowsExact .transparent transparentMessages oppositeTimestamp
        1700000000 := by
  have hfresh : frameIsFresh oppositeTimestamp 1700000000 = true := by decide
  have hfar : ¬ timeDistance oppositeTimestamp 1700000000 ≤ 120 := by decide
  refine ⟨by decide, by decide, hfresh, ?_, ?_⟩
  · intro payload hpayload
    rw [passesAgeCheck_iff]
    simp only [oppositeBlobs, List.mem_cons, List.not_mem_nil,
      or_false] at hpayload
    rcases hpayload with rfl | rfl <;> decide
  · intro hexact
    exact hfar (hexact.frame.mp hfresh)

end SechatClient
