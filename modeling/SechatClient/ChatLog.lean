import SechatClient.PeerStore

/-!
# The chat database as a log

The abstract view of `chat.db`: the list of the messages which
`load_peer_chat_messages` returns.  An insert appends one message as long as
the 64-bit record counter has room, and a read, which removes the records
that fail to decode, leaves the log as it is.
-/

namespace SechatClient

open ByteStrings OrderedStore

/-- Every record key has the eight bytes which `find_counter` expects. -/
def ChatDb.WellKeyed (db : ChatDb) : Prop :=
  ∀ entry ∈ db.entries, entry.1.length = 8

def ChatDb.HasRoom (db : ChatDb) : Prop :=
  ∀ entry, db.last = some entry → ofBeBytes entry.1 + 1 ≠ 0

theorem ChatDb.wellKeyed_empty : ChatDb.WellKeyed Tree.empty := by
  simp [ChatDb.WellKeyed]

theorem ChatDb.WellKeyed.insert
    {db : ChatDb} (hkeys : db.WellKeyed) (counter : UInt64) (data : Bytes) :
    ChatDb.WellKeyed (Tree.insert db (toBeBytes counter) data) := by
  intro entry hentry
  rcases Tree.mem_insert hentry with rfl | hold
  · simp
  · exact hkeys entry hold

theorem findCounter_of_wellKeyed
    {db : ChatDb} (hkeys : db.WellKeyed) :
    ∃ counter, findCounter db = .ok counter := by
  unfold findCounter
  cases hlast : db.last with
  | none => exact ⟨0, rfl⟩
  | some entry =>
      have hmem : entry ∈ db.entries := List.mem_of_getLast? hlast
      simp [hkeys entry hmem]

theorem findCounter_above
    {db : ChatDb} (hroom : db.HasRoom)
    {counter : UInt64} (hcounter : findCounter db = .ok counter) :
    ∀ entry ∈ db.entries, entry.1 < toBeBytes counter := by
  intro entry hentry
  cases hlast : db.last with
  | none =>
      rw [Tree.last_eq_none_iff] at hlast
      simp [hlast] at hentry
  | some final =>
      have hfinal : final.1.length = 8 := by
        by_contra hlength
        simp [findCounter, hlast, hlength] at hcounter
      simp only [findCounter, hlast, hfinal, if_true, Except.ok.injEq]
        at hcounter
      have hsucc : (ofBeBytes final.1).toNat < counter.toNat := by
        have hne := hroom final hlast
        rw [← hcounter]
        exact toNat_lt_toNat_succ hne
      calc entry.1 ≤ final.1 := Tree.key_le_last hlast hentry
        _ = toBeBytes (ofBeBytes final.1) := (toBeBytes_ofBeBytes hfinal).symm
        _ < toBeBytes counter := (toBeBytes_lt_iff _ _).mpr hsucc

section Log

variable (P : Primitives) (codec : Codec Message) (storagekey : KeyType)

/-- The messages of the database in insertion order. -/
def chatLog (db : ChatDb) : List Message :=
  db.values.filterMap (decodeRecord P codec storagekey)

theorem loadPeerChatMessages_messages (db : ChatDb) :
    (loadPeerChatMessages P codec storagekey db).1 =
      chatLog P codec storagekey db := rfl

variable {P codec storagekey}

variable (P storagekey) in
theorem encryptMessageStored_succeeds
    (hround : codec.RoundTrip) (msg : Message) (nonce : Nonce) :
    ∃ data, encryptMessageStored P codec msg storagekey nonce = .ok data := by
  simp [encryptMessageStored, hround.toVec_eq msg]

theorem decodeRecord_encryptMessageStored
    (haead : P.AeadCorrect) (hround : codec.RoundTrip) {msg : Message}
    {nonce : Nonce} {data : Bytes}
    (hdata : encryptMessageStored P codec msg storagekey nonce = .ok data) :
    decodeRecord P codec storagekey data = some msg := by
  obtain ⟨bytes, hvec, hslice⟩ := hround msg
  simp only [encryptMessageStored, hvec, Except.ok.injEq] at hdata
  unfold decodeRecord
  rw [← hdata, decryptMessageStored_append, haead]
  simp [hslice, Except.toOption]

theorem chatLog_insert_of_above
    {db : ChatDb} {key : Bytes} (habove : ∀ entry ∈ db.entries, entry.1 < key)
    (data : Bytes) :
    chatLog P codec storagekey (db.insert key data) =
      chatLog P codec storagekey db ++
        (decodeRecord P codec storagekey data).toList := by
  have hentries := Tree.insert_entries_of_forall_lt data habove
  cases hdecode : decodeRecord P codec storagekey data <;>
    simp [chatLog, Tree.values, hentries, hdecode]

theorem insertMessageStored_eq_ok
    {msg : Message} {nonce : Nonce} {db stored : ChatDb}
    (hinsert : insertMessageStored P codec msg storagekey nonce db =
      .ok stored) :
    ∃ data counter,
      encryptMessageStored P codec msg storagekey nonce = .ok data ∧
        findCounter db = .ok counter ∧
        stored = db.insert (toBeBytes counter) data := by
  unfold insertMessageStored at hinsert
  cases hdata : encryptMessageStored P codec msg storagekey nonce with
  | error e => simp [hdata] at hinsert
  | ok data =>
      cases hcounter : findCounter db with
      | error e => simp [hdata, hcounter] at hinsert
      | ok counter =>
          simp only [hdata, hcounter, Except.ok.injEq] at hinsert
          exact ⟨data, counter, rfl, rfl, hinsert.symm⟩

theorem insertMessageStored_wellKeyed
    {db stored : ChatDb} (hkeys : db.WellKeyed) {msg : Message}
    {nonce : Nonce}
    (hinsert : insertMessageStored P codec msg storagekey nonce db =
      .ok stored) : stored.WellKeyed := by
  obtain ⟨data, counter, _, _, rfl⟩ := insertMessageStored_eq_ok hinsert
  exact hkeys.insert counter data

variable (P storagekey) in
theorem insertMessageStored_succeeds
    (hround : codec.RoundTrip) {db : ChatDb} (hkeys : db.WellKeyed)
    (msg : Message) (nonce : Nonce) :
    ∃ stored, insertMessageStored P codec msg storagekey nonce db =
      .ok stored := by
  obtain ⟨counter, hcounter⟩ := findCounter_of_wellKeyed hkeys
  simp [insertMessageStored, encryptMessageStored, hround.toVec_eq, hcounter]

theorem chatLog_insertMessageStored
    (haead : P.AeadCorrect) (hround : codec.RoundTrip) {db stored : ChatDb}
    (hroom : db.HasRoom) {msg : Message}
    {nonce : Nonce}
    (hinsert : insertMessageStored P codec msg storagekey nonce db =
      .ok stored) :
    chatLog P codec storagekey stored =
      chatLog P codec storagekey db ++ [msg] := by
  obtain ⟨data, counter, hdata, hcounter, rfl⟩ :=
    insertMessageStored_eq_ok hinsert
  have hdecode := decodeRecord_encryptMessageStored haead hround hdata
  rw [chatLog_insert_of_above (findCounter_above hroom hcounter), hdecode]
  rfl

/-! ## Reads -/

theorem foldl_remove_entries (removed : List (Bytes × Bytes)) (db : ChatDb) :
    (removed.foldl (fun tree entry => tree.remove entry.1) db).entries =
      db.entries.filter fun entry =>
        removed.all fun gone => entry.1 ≠ gone.1 := by
  induction removed generalizing db with
  | nil => simp
  | cons gone rest ih =>
      rw [List.foldl_cons, ih]
      simp [Tree.remove, List.filter_filter, Bool.and_comm]

theorem loadPeerChatMessages_entries (db : ChatDb) :
    (loadPeerChatMessages P codec storagekey db).2.entries =
      db.entries.filter fun entry =>
        (decodeRecord P codec storagekey entry.2).isSome := by
  unfold loadPeerChatMessages
  simp only [foldl_remove_entries]
  apply List.filter_congr
  intro entry hentry
  rw [Bool.eq_iff_iff]
  simp only [List.all_eq_true, List.mem_filter, decide_eq_true_eq]
  constructor
  · intro hkept
    by_contra hnone
    exact hkept entry ⟨hentry, by simpa using hnone⟩ rfl
  · rintro hsome gone ⟨hgone, hnone⟩ hkey
    have hsame : entry = gone := Tree.eq_of_key_eq hentry hgone hkey
    subst hsame
    rw [Option.isNone_iff_eq_none] at hnone
    simp [hnone] at hsome

theorem loadPeerChatMessages_wellKeyed
    {db : ChatDb} (hkeys : db.WellKeyed) :
    ChatDb.WellKeyed (loadPeerChatMessages P codec storagekey db).2 := by
  intro entry hentry
  rw [loadPeerChatMessages_entries] at hentry
  exact hkeys entry (List.mem_filter.mp hentry).1

theorem chatLog_loadPeerChatMessages (db : ChatDb) :
    chatLog P codec storagekey (loadPeerChatMessages P codec storagekey db).2 =
      chatLog P codec storagekey db := by
  simp only [chatLog, Tree.values, loadPeerChatMessages_entries,
    List.filterMap_map]
  rw [List.filterMap_filter]
  apply List.filterMap_congr
  intro entry _
  cases hdecode : decodeRecord P codec storagekey entry.2 <;> simp [hdecode]

end Log

end SechatClient
