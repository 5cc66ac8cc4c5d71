import SechatClient.PeerStore
import SechatClient.ServerMessages

/-!
# The presence cache

The process-wide list of contacts announced as online, with its time to
live, and the resolution of a brokered peer which falls back to it.
-/

namespace SechatClient

structure OnlinePeer where
  keys : PeerPublic
  address : String
  lastSeen : Int64
  deriving DecidableEq

def onlineTtlSecs : Int64 := 35

/-- Both the new cache and the result: expired entries are dropped. -/
def loadOnlinePeers (now : Int64) (cache : List OnlinePeer) :
    List OnlinePeer :=
  cache.filter fun peer => now - peer.lastSeen ≤ onlineTtlSecs

variable (P : Primitives)

def refreshOnlinePeer (hash : KeyType) (ipPort : String) (now : Int64) :
    List OnlinePeer → Option (List OnlinePeer)
  | [] => none
  | existing :: rest =>
      if generatePeerHash P existing.keys = hash then
        some ({ existing with address := ipPort, lastSeen := now } :: rest)
      else
        (refreshOnlinePeer hash ipPort now rest).map (existing :: ·)

def appendOnlinePeer (peers : PeersDir) (cache : List OnlinePeer)
    (hash : KeyType) (ipPort : String) (now : Int64) :
    Except ClientErrors (List OnlinePeer) :=
  match loadPeerData P peers hash with
  | .error _ => .error .unknownPeer
  | .ok peerData =>
      .ok ((refreshOnlinePeer P hash ipPort now cache).getD
        (cache ++ [⟨peerData, ipPort, now⟩]))

def removeOnlinePeer (cache : List OnlinePeer) (hash : KeyType) :
    List OnlinePeer :=
  cache.filter fun peer => generatePeerHash P peer.keys ≠ hash

def peerIsOnline (now : Int64) (cache : List OnlinePeer) (peer : KeyType) :
    Bool :=
  (loadOnlinePeers now cache).any fun online => online.keys.hash P = peer

/-- The peer of a `PunchHole` event: from disk by identity, else from the
cache by address. -/
def resolvePunchPeer (peers : PeersDir) (cache : List OnlinePeer)
    (peerHash : KeyType) (ipPort : String) (now : Int64) :
    Option PeerPublic :=
  match loadPeerData P peers peerHash with
  | .ok peer => some peer
  | .error _ =>
      ((loadOnlinePeers now cache).find? fun online =>
        online.address = ipPort).map OnlinePeer.keys

/-! ## The cache by identity -/

section Identity

/-- The address and the time of the first entry of an identity. -/
def cachedAt (cache : List OnlinePeer) (hash : KeyType) :
    Option (String × Int64) :=
  (cache.find? fun peer => generatePeerHash P peer.keys = hash).map
    fun peer => (peer.address, peer.lastSeen)

variable {P} {cache : List OnlinePeer} {hash other : KeyType}
  {ipPort : String} {now : Int64}

theorem cachedAt_cons (peer : OnlinePeer) (rest : List OnlinePeer) :
    cachedAt P (peer :: rest) hash =
      if generatePeerHash P peer.keys = hash then
        some (peer.address, peer.lastSeen)
      else cachedAt P rest hash := by
  by_cases hpeer : generatePeerHash P peer.keys = hash <;>
    simp [cachedAt, hpeer]

theorem cachedAt_removeOnlinePeer :
    cachedAt P (removeOnlinePeer P cache hash) other =
      if hash = other then none else cachedAt P cache other := by
  induction cache with
  | nil => simp [cachedAt, removeOnlinePeer]
  | cons peer rest ih =>
      have hrest : removeOnlinePeer P (peer :: rest) hash =
          if generatePeerHash P peer.keys = hash then
            removeOnlinePeer P rest hash
          else peer :: removeOnlinePeer P rest hash := by
        by_cases hpeer : generatePeerHash P peer.keys = hash <;>
          simp [removeOnlinePeer, hpeer]
      rw [hrest]
      by_cases hpeer : generatePeerHash P peer.keys = hash
      · rw [if_pos hpeer, ih, cachedAt_cons, hpeer]
        by_cases hother : hash = other <;> simp [hother]
      · rw [if_neg hpeer, cachedAt_cons, ih, cachedAt_cons]
        by_cases hother : generatePeerHash P peer.keys = other
        · have hne : hash ≠ other := fun heq => hpeer (hother.trans heq.symm)
          simp [hother, hne]
        · simp [hother]

theorem cachedAt_refreshOnlinePeer
    {next : List OnlinePeer}
    (hrefresh : refreshOnlinePeer P hash ipPort now cache = some next) :
    cachedAt P next other =
      if hash = other then some (ipPort, now) else cachedAt P cache other := by
  induction cache generalizing next with
  | nil => simp [refreshOnlinePeer] at hrefresh
  | cons peer rest ih =>
      rw [refreshOnlinePeer] at hrefresh
      by_cases hpeer : generatePeerHash P peer.keys = hash
      · rw [if_pos hpeer] at hrefresh
        cases hrefresh
        rw [cachedAt_cons, cachedAt_cons, hpeer]
        by_cases hother : hash = other <;> simp [hother]
      · rw [if_neg hpeer] at hrefresh
        obtain ⟨tail, htail, rfl⟩ := Option.map_eq_some_iff.mp hrefresh
        rw [cachedAt_cons, cachedAt_cons, ih htail]
        by_cases hother : generatePeerHash P peer.keys = other
        · have hne : hash ≠ other := fun heq => hpeer (hother.trans heq.symm)
          simp [hother, hne]
        · simp [hother]

theorem cachedAt_of_not_refreshed
    (hrefresh : refreshOnlinePeer P hash ipPort now cache = none) :
    cachedAt P cache hash = none := by
  induction cache with
  | nil => rfl
  | cons peer rest ih =>
      rw [refreshOnlinePeer] at hrefresh
      by_cases hpeer : generatePeerHash P peer.keys = hash
      · rw [if_pos hpeer] at hrefresh
        contradiction
      · rw [if_neg hpeer] at hrefresh
        rw [cachedAt_cons, if_neg hpeer,
          ih (Option.map_eq_none_iff.mp hrefresh)]

theorem cachedAt_append (entry : OnlinePeer) :
    cachedAt P (cache ++ [entry]) hash =
      (cachedAt P cache hash).or
        (if generatePeerHash P entry.keys = hash then
          some (entry.address, entry.lastSeen) else none) := by
  induction cache with
  | nil => simp [cachedAt]
  | cons peer rest ih =>
      rw [List.cons_append, cachedAt_cons, ih, cachedAt_cons]
      by_cases hpeer : generatePeerHash P peer.keys = hash <;> simp [hpeer]

/-- A contact stored under its identity is cached there. -/
theorem cachedAt_appendOnlinePeer
    {peers : PeersDir} {next : List OnlinePeer} {peer : PeerPublic}
    (hload : loadPeerData P peers hash = .ok peer)
    (hhash : generatePeerHash P peer = hash)
    (hnext : appendOnlinePeer P peers cache hash ipPort now = .ok next) :
    cachedAt P next other =
      if hash = other then some (ipPort, now) else cachedAt P cache other := by
  simp only [appendOnlinePeer, hload, Except.ok.injEq] at hnext
  subst hnext
  cases hrefresh : refreshOnlinePeer P hash ipPort now cache with
  | some refreshed => exact cachedAt_refreshOnlinePeer hrefresh
  | none =>
      rw [Option.getD_none, cachedAt_append, hhash]
      by_cases hother : hash = other
      · subst hother
        simp [cachedAt_of_not_refreshed hrefresh]
      · simp [hother]

end Identity

end SechatClient
