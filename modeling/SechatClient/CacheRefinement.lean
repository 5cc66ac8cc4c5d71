import SechatClient.OnlineCache

/-!
# The presence cache as a map with expiry

The cache is a vector which is updated in place, extended, filtered by
identity and pruned when it is read.  An expired entry may still stand in it
or may have been pruned; with a clock that does not run backwards both look
the same to every later reader.  The calls refine a map from identities to
the address and the time of their latest append.
-/

namespace SechatClient

/-- The calls that reach the cache, each with what it finds: the directory of
the contacts and the clock. -/
inductive CacheCall where
  | append (peers : PeersDir) (hash : KeyType) (ipPort : String)
      (now : Int64)
  | remove (hash : KeyType)
  | load (now : Int64)

def CacheCall.reading : CacheCall → Option Int64
  | .append _ _ _ now => some now
  | .remove _ => none
  | .load now => some now

/-- The readings of the clock do not decrease. -/
def ClockRuns : Int64 → List CacheCall → Prop
  | _, [] => True
  | clock, call :: rest =>
      clock ≤ call.reading.getD clock ∧
        ClockRuns (call.reading.getD clock) rest

section Calls

variable (P : Primitives)

def cacheStep (cache : List OnlinePeer) : CacheCall → List OnlinePeer
  | .append peers hash ipPort now =>
      match appendOnlinePeer P peers cache hash ipPort now with
      | .ok next => next
      | .error _ => cache
  | .remove hash => removeOnlinePeer P cache hash
  | .load now => loadOnlinePeers now cache

def cacheAfter (calls : List CacheCall) : List OnlinePeer :=
  calls.foldl (cacheStep P) []

/-- The contacts are stored under their identities when the call is made. -/
def CacheCall.FindsContacts : CacheCall → Prop
  | .append peers _ _ _ => StoredByIdentity P peers
  | .remove _ => True
  | .load _ => True

/-! ## The map -/

abbrev OnlineMap := KeyType → Option (String × Int64)

/-- Only the append of a contact enters the map, only a removal leaves it. -/
def mapStep (latest : OnlineMap) : CacheCall → OnlineMap
  | .append peers hash ipPort now =>
      if (loadPeerData P peers hash).isOk then
        Function.update latest hash (some (ipPort, now))
      else
        latest
  | .remove hash => Function.update latest hash none
  | .load _ => latest

/-- Per identity the latest successful append that no removal follows. -/
def latestAppends (calls : List CacheCall) : OnlineMap :=
  calls.foldl (mapStep P) fun _ => none

end Calls

/-! ## Times -/

section Times

variable {now time clock : Int64}

theorem toInt_sub_of_le (hzero : 0 ≤ time) (hle : time ≤ now) :
    (now - time).toInt = now.toInt - time.toInt := by
  have hzero' : (0 : ℤ) ≤ time.toInt := Int64.le_iff_toInt_le.mp hzero
  have hle' : time.toInt ≤ now.toInt := Int64.le_iff_toInt_le.mp hle
  have hlt : now.toInt < 2 ^ 63 := now.toInt_lt
  rw [Int64.toInt_sub, Int.bmod_eq_of_le (by omega) (by omega)]

theorem sub_le_ttl_iff (hzero : 0 ≤ time) (hle : time ≤ now) :
    now - time ≤ onlineTtlSecs ↔
      now.toInt - time.toInt ≤ onlineTtlSecs.toInt := by
  rw [Int64.le_iff_toInt_le, toInt_sub_of_le hzero hle]

/-- What has expired stays so. -/
theorem expired_mono
    (hzero : 0 ≤ time) (hle : time ≤ clock) (hclock : clock ≤ now)
    (hexpired : ¬ clock - time ≤ onlineTtlSecs) :
    ¬ now - time ≤ onlineTtlSecs := by
  rw [sub_le_ttl_iff hzero hle] at hexpired
  rw [sub_le_ttl_iff hzero (Int64.le_trans hle hclock)]
  have hclock' : clock.toInt ≤ now.toInt := Int64.le_iff_toInt_le.mp hclock
  omega

end Times

/-! ## One entry per identity -/

section Unique

variable {P : Primitives} {cache next : List OnlinePeer}
  {hash id : KeyType} {ipPort : String} {now : Int64}

def OnePerIdentity (P : Primitives) (cache : List OnlinePeer) : Prop :=
  (cache.map fun peer => generatePeerHash P peer.keys).Nodup

theorem OnePerIdentity.filter
    (hunique : OnePerIdentity P cache) (keep : OnlinePeer → Bool) :
    OnePerIdentity P (cache.filter keep) :=
  List.Nodup.sublist (List.filter_sublist.map _) hunique

theorem hashes_refreshOnlinePeer
    (hrefresh : refreshOnlinePeer P hash ipPort now cache = some next) :
    next.map (fun peer => generatePeerHash P peer.keys) =
      cache.map fun peer => generatePeerHash P peer.keys := by
  induction cache generalizing next with
  | nil => simp [refreshOnlinePeer] at hrefresh
  | cons peer rest ih =>
      rw [refreshOnlinePeer] at hrefresh
      by_cases hpeer : generatePeerHash P peer.keys = hash
      · rw [if_pos hpeer] at hrefresh
        cases hrefresh
        rfl
      · rw [if_neg hpeer] at hrefresh
        obtain ⟨tail, htail, rfl⟩ := Option.map_eq_some_iff.mp hrefresh
        rw [List.map_cons, List.map_cons, ih htail]

theorem cachedAt_eq_none_iff :
    cachedAt P cache id = none ↔
      id ∉ cache.map fun peer => generatePeerHash P peer.keys := by
  simp [cachedAt]

theorem OnePerIdentity.append
    (hunique : OnePerIdentity P cache) {entry : OnlinePeer}
    (hnew : cachedAt P cache (generatePeerHash P entry.keys) = none) :
    OnePerIdentity P (cache ++ [entry]) := by
  unfold OnePerIdentity
  rw [List.map_append, List.map_singleton, List.nodup_append_comm,
    List.singleton_append, List.nodup_cons]
  exact ⟨cachedAt_eq_none_iff.mp hnew, hunique⟩

theorem OnePerIdentity.appendOnlinePeer
    (hunique : OnePerIdentity P cache) {peers : PeersDir} {peer : PeerPublic}
    (hload : loadPeerData P peers hash = .ok peer)
    (hhash : generatePeerHash P peer = hash)
    (hnext : appendOnlinePeer P peers cache hash ipPort now = .ok next) :
    OnePerIdentity P next := by
  simp only [SechatClient.appendOnlinePeer, hload, Except.ok.injEq] at hnext
  subst hnext
  cases hrefresh : refreshOnlinePeer P hash ipPort now cache with
  | some refreshed =>
      rw [Option.getD_some, OnePerIdentity, hashes_refreshOnlinePeer hrefresh]
      exact hunique
  | none =>
      apply hunique.append
      rw [hhash]
      exact cachedAt_of_not_refreshed hrefresh

theorem cachedAt_eq_some_iff
    (hunique : OnePerIdentity P cache) {address : String} {time : Int64} :
    cachedAt P cache id = some (address, time) ↔
      ∃ entry ∈ cache, generatePeerHash P entry.keys = id ∧
        entry.address = address ∧ entry.lastSeen = time := by
  induction cache with
  | nil => simp [cachedAt]
  | cons peer rest ih =>
      obtain ⟨hnew, hrest⟩ := List.nodup_cons.mp hunique
      rw [cachedAt_cons]
      by_cases hpeer : generatePeerHash P peer.keys = id
      · have hother : ∀ entry ∈ rest, generatePeerHash P entry.keys ≠ id := by
          intro entry hentry hid
          apply hnew
          simp only [hpeer, ← hid]
          exact List.mem_map_of_mem hentry
        rw [if_pos hpeer]
        simp only [Option.some.injEq, Prod.mk.injEq, List.mem_cons,
          exists_eq_or_imp, hpeer, true_and]
        constructor
        · exact Or.inl
        · rintro (hsame | ⟨entry, hentry, hid, _⟩)
          · exact hsame
          · exact absurd hid (hother entry hentry)
      · rw [if_neg hpeer, ih hrest]
        simp [hpeer]

/-- Pruning forgets exactly what has expired. -/
theorem cachedAt_loadOnlinePeers
    (hunique : OnePerIdentity P cache) (now : Int64) (id : KeyType) :
    cachedAt P (loadOnlinePeers now cache) id =
      (cachedAt P cache id).filter fun seen =>
        now - seen.2 ≤ onlineTtlSecs := by
  have hpruned : OnePerIdentity P (loadOnlinePeers now cache) :=
    hunique.filter _
  apply Option.ext
  rintro ⟨address, time⟩
  rw [cachedAt_eq_some_iff hpruned, Option.filter_eq_some_iff,
    cachedAt_eq_some_iff hunique]
  simp only [loadOnlinePeers, List.mem_filter, decide_eq_true_eq]
  constructor
  · rintro ⟨entry, ⟨hentry, hfresh⟩, hid, haddress, rfl⟩
    exact ⟨⟨entry, hentry, hid, haddress, rfl⟩, hfresh⟩
  · rintro ⟨⟨entry, hentry, hid, haddress, rfl⟩, hfresh⟩
    exact ⟨entry, ⟨hentry, hfresh⟩, hid, haddress, rfl⟩

end Unique

/-! ## The refinement -/

/-- The cache holds the map up to entries that have expired and were
pruned. -/
structure CacheRefines (P : Primitives) (clock : Int64)
    (cache : List OnlinePeer) (latest : OnlineMap) : Prop where
  unique : OnePerIdentity P cache
  times : ∀ id address time, latest id = some (address, time) →
    0 ≤ time ∧ time ≤ clock
  found : ∀ id, cachedAt P cache id = latest id ∨
    cachedAt P cache id = none ∧ ∃ address time,
      latest id = some (address, time) ∧ ¬ clock - time ≤ onlineTtlSecs

section Refinement

variable {P : Primitives} {clock now : Int64} {cache : List OnlinePeer}
  {latest : OnlineMap}

theorem CacheRefines.initial (P : Primitives) :
    CacheRefines P 0 [] fun _ => none where
  unique := List.nodup_nil
  times := by simp
  found := fun id => Or.inl rfl

theorem CacheRefines.later
    (hrefines : CacheRefines P clock cache latest) (hclock : clock ≤ now) :
    CacheRefines P now cache latest where
  unique := hrefines.unique
  times := by
    intro id address time htime
    obtain ⟨hzero, hle⟩ := hrefines.times id address time htime
    exact ⟨hzero, Int64.le_trans hle hclock⟩
  found := by
    intro id
    rcases hrefines.found id with hsame |
      ⟨hnone, address, time, htime, hexpired⟩
    · exact Or.inl hsame
    · obtain ⟨hzero, hle⟩ := hrefines.times id address time htime
      exact Or.inr ⟨hnone, address, time, htime,
        expired_mono hzero hle hclock hexpired⟩

/-- Writing one identity in the cache and in the map. -/
theorem CacheRefines.update
    (hrefines : CacheRefines P clock cache latest) {next : List OnlinePeer}
    (hunique : OnePerIdentity P next) (hash : KeyType)
    (seen : Option (String × Int64))
    (htimes : ∀ address time, seen = some (address, time) →
      0 ≤ time ∧ time ≤ clock)
    (hnext : ∀ id, cachedAt P next id =
      if hash = id then seen else cachedAt P cache id) :
    CacheRefines P clock next (Function.update latest hash seen) where
  unique := hunique
  times := by
    intro id address time htime
    by_cases hid : id = hash
    · subst hid
      rw [Function.update_self] at htime
      exact htimes address time htime
    · rw [Function.update_of_ne hid] at htime
      exact hrefines.times id address time htime
  found := by
    intro id
    rw [hnext id]
    by_cases hid : id = hash
    · subst hid
      simp
    · rw [Function.update_of_ne hid, if_neg (Ne.symm hid)]
      exact hrefines.found id

theorem CacheRefines.load (hrefines : CacheRefines P clock cache latest) :
    CacheRefines P clock (loadOnlinePeers clock cache) latest where
  unique := hrefines.unique.filter _
  times := hrefines.times
  found := by
    intro id
    rw [cachedAt_loadOnlinePeers hrefines.unique]
    rcases hrefines.found id with hsame | ⟨hnone, hpruned⟩
    · rw [hsame]
      cases hlatest : latest id with
      | none => exact Or.inl rfl
      | some seen =>
          rw [Option.filter_some]
          by_cases hfresh : clock - seen.2 ≤ onlineTtlSecs
          · exact Or.inl (if_pos (decide_eq_true hfresh))
          · exact Or.inr ⟨if_neg (by simpa using hfresh), seen.1, seen.2,
              rfl, hfresh⟩
    · rw [hnone]
      exact Or.inr ⟨rfl, hpruned⟩

theorem CacheRefines.append
    (hrefines : CacheRefines P clock cache latest) (hzero : 0 ≤ clock)
    {peers : PeersDir} (hstored : StoredByIdentity P peers)
    (hash : KeyType) (ipPort : String) :
    CacheRefines P clock
      (cacheStep P cache (.append peers hash ipPort clock))
      (mapStep P latest (.append peers hash ipPort clock)) := by
  cases hload : loadPeerData P peers hash with
  | error e =>
      simpa [cacheStep, mapStep, appendOnlinePeer, hload, Except.isOk,
        Except.toBool] using hrefines
  | ok peer =>
      have hhash : generatePeerHash P peer = hash := hstored hash peer hload
      cases hnext : appendOnlinePeer P peers cache hash ipPort clock with
      | error e => simp [appendOnlinePeer, hload] at hnext
      | ok next =>
          simp only [cacheStep, hnext, mapStep, hload, Except.isOk,
            Except.toBool, if_true]
          apply hrefines.update
            (hrefines.unique.appendOnlinePeer hload hhash hnext)
          · rintro address time heq
            cases heq
            exact ⟨hzero, Int64.le_refl _⟩
          · intro id
            exact cachedAt_appendOnlinePeer hload hhash hnext

theorem CacheRefines.remove
    (hrefines : CacheRefines P clock cache latest) (hash : KeyType) :
    CacheRefines P clock (removeOnlinePeer P cache hash)
      (Function.update latest hash none) := by
  apply hrefines.update (hrefines.unique.filter _)
  · simp
  · intro id
    exact cachedAt_removeOnlinePeer

theorem CacheRefines.step
    (hrefines : CacheRefines P clock cache latest) (hzero : 0 ≤ clock)
    {call : CacheCall} (hcall : call.FindsContacts P)
    (hclock : clock ≤ call.reading.getD clock) :
    CacheRefines P (call.reading.getD clock) (cacheStep P cache call)
      (mapStep P latest call) := by
  have hlater := hrefines.later hclock
  cases call with
  | append peers hash ipPort now =>
      exact hlater.append (Int64.le_trans hzero hclock) hcall hash ipPort
  | remove hash => exact hrefines.remove hash
  | load now => exact hlater.load

theorem CacheRefines.run
    {calls : List CacheCall} (hrefines : CacheRefines P clock cache latest)
    (hzero : 0 ≤ clock) (hcalls : ∀ call ∈ calls, call.FindsContacts P)
    (hclock : ClockRuns clock (calls ++ [.load now])) :
    ∃ last, last ≤ now ∧ CacheRefines P last
      (calls.foldl (cacheStep P) cache) (calls.foldl (mapStep P) latest) := by
  induction calls generalizing clock cache latest with
  | nil => exact ⟨clock, hclock.1, hrefines⟩
  | cons call rest ih =>
      obtain ⟨hle, hrest⟩ := hclock
      have hcall := hcalls call List.mem_cons_self
      exact ih (hrefines.step hzero hcall hle) (Int64.le_trans hzero hle)
        (fun other hother => hcalls other (List.mem_cons_of_mem _ hother))
        hrest

/-- What a reader sees of the cache is what the map shows. -/
theorem CacheRefines.listed
    (hrefines : CacheRefines P now cache latest) (id : KeyType)
    (address : String) :
    (∃ entry ∈ loadOnlinePeers now cache,
        generatePeerHash P entry.keys = id ∧ entry.address = address) ↔
      ∃ time, latest id = some (address, time) ∧
        now.toInt - time.toInt ≤ onlineTtlSecs.toInt := by
  have hlisted : cachedAt P (loadOnlinePeers now cache) id =
      (latest id).filter fun seen => now - seen.2 ≤ onlineTtlSecs := by
    rw [cachedAt_loadOnlinePeers hrefines.unique]
    rcases hrefines.found id with hsame |
      ⟨hnone, address, time, htime, hexpired⟩
    · rw [hsame]
    · rw [hnone, htime, Option.filter_some, if_neg (by simpa using hexpired)]
      rfl
  constructor
  · rintro ⟨entry, hentry, hid, haddress⟩
    have hcached := (cachedAt_eq_some_iff (hrefines.unique.filter _)).mpr
      ⟨entry, hentry, hid, haddress, rfl⟩
    obtain ⟨htime, hfresh⟩ := Option.filter_eq_some_iff.mp
      (hlisted.symm.trans hcached)
    obtain ⟨hzero, hle⟩ := hrefines.times id _ _ htime
    exact ⟨entry.lastSeen, htime,
      (sub_le_ttl_iff hzero hle).mp (by simpa using hfresh)⟩
  · rintro ⟨time, htime, hfresh⟩
    obtain ⟨hzero, hle⟩ := hrefines.times id _ _ htime
    rw [← sub_le_ttl_iff hzero hle] at hfresh
    rw [htime, Option.filter_some, if_pos (decide_eq_true hfresh)] at hlisted
    obtain ⟨entry, hentry, hid, haddress, _⟩ :=
      (cachedAt_eq_some_iff (hrefines.unique.filter _)).mp hlisted
    exact ⟨entry, hentry, hid, haddress⟩

end Refinement

/-- After any calls, a reader finds one entry for each identity whose latest
append was not removed and has not expired, at the address of that append,
and nothing else; an append for an unknown identity changes nothing. -/
theorem online_cache_refines_expiring_map
    (P : Primitives) (calls : List CacheCall) (now : Int64)
    (hclock : ClockRuns 0 (calls ++ [.load now]))
    (hcalls : ∀ call ∈ calls, call.FindsContacts P) :
    OnePerIdentity P (loadOnlinePeers now (cacheAfter P calls)) ∧
    (∀ id address,
      (∃ entry ∈ loadOnlinePeers now (cacheAfter P calls),
        generatePeerHash P entry.keys = id ∧ entry.address = address) ↔
      ∃ time, latestAppends P calls id = some (address, time) ∧
        now.toInt - time.toInt ≤ onlineTtlSecs.toInt) ∧
    (∀ peers hash ipPort time, (loadPeerData P peers hash).isOk = false →
      appendOnlinePeer P peers (cacheAfter P calls) hash ipPort time =
        .error .unknownPeer ∧
      cacheAfter P (calls ++ [.append peers hash ipPort time]) =
        cacheAfter P calls) := by
  obtain ⟨last, hlast, hrefines⟩ :=
    (CacheRefines.initial P).run (Int64.le_refl 0) hcalls hclock
  have hnow := hrefines.later hlast
  refine ⟨hnow.load.unique, hnow.listed, ?_⟩
  intro peers hash ipPort time hunknown
  cases hload : loadPeerData P peers hash with
  | ok peer => simp [hload, Except.isOk, Except.toBool] at hunknown
  | error e => simp [cacheAfter, cacheStep, appendOnlinePeer, hload]

/-- Announced, pruned and announced again from another port. -/
def reappendCalls : List CacheCall :=
  [.append (samplePeers (sampleKeys 1)) ((sampleKeys 1).id .transparent)
      "203.0.113.7:4000" 1000,
    .load 1040,
    .append (samplePeers (sampleKeys 1)) ((sampleKeys 1).id .transparent)
      "203.0.113.7:4001" 1045]

theorem reappended_contact_listed :
    OnePerIdentity .transparent
        (loadOnlinePeers 1050 (cacheAfter .transparent reappendCalls)) ∧
      ∃ entry ∈ loadOnlinePeers 1050 (cacheAfter .transparent reappendCalls),
        generatePeerHash .transparent entry.keys =
            (sampleKeys 1).id .transparent ∧
          entry.address = "203.0.113.7:4001" := by
  have hclock : ClockRuns 0 (reappendCalls ++ [.load 1050]) := by
    simp only [reappendCalls, List.cons_append, List.nil_append, ClockRuns,
      CacheCall.reading, Option.getD_some]
    decide
  have hcalls : ∀ call ∈ reappendCalls, call.FindsContacts .transparent := by
    intro call hcall
    simp only [reappendCalls, List.mem_cons, List.not_mem_nil,
      or_false] at hcall
    rcases hcall with rfl | rfl | rfl
    · exact samplePeers_storedByIdentity (sampleKeys 1)
    · trivial
    · exact samplePeers_storedByIdentity (sampleKeys 1)
  have hlatest : latestAppends .transparent reappendCalls
      ((sampleKeys 1).id .transparent) =
        some ("203.0.113.7:4001", 1045) := by
    simp [latestAppends, reappendCalls, mapStep, samplePeers_contact,
      Except.isOk, Except.toBool]
  have hlisted := online_cache_refines_expiring_map .transparent
    reappendCalls 1050 hclock hcalls
  exact ⟨hlisted.1, (hlisted.2.1 _ _).mpr ⟨1045, hlatest, by decide⟩⟩

end SechatClient
