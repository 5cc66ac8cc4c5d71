import SechatClient.ChatLog

/-!
# The chat database refines an append-only log

Operations on one peer's `chat.db`, executed one after another under one
storage key.  The specification is the list of messages inserted since the
last purge.  The records of the database carry the keys `0, 1, …` with gaps:
a read removes the records that fail to decode, possibly the last one, whose
key is then given out again.  What the refinement needs of the keys is that
all of them lie below the number of inserts so far.
-/

namespace SechatClient

open ByteStrings OrderedStore

inductive ChatOp where
  | insertMessage (msg : Message) (nonce : Nonce)
  | insertBlob (blob : Bytes)
  | load
  | purge

def ChatOp.isInsert : ChatOp → Bool
  | .insertMessage _ _ => true
  | .insertBlob _ => true
  | _ => false

section Steps

variable (P : Primitives) (codec : Codec Message) (storagekey : KeyType)

/-- `sled::open` on the path: a missing database is created empty. -/
def openChat (disk : Option ChatDb) : ChatDb := disk.getD Tree.empty

/-- The file after one operation.  A failed insert leaves the database. -/
def chatStep (disk : Option ChatDb) : ChatOp → Option ChatDb
  | .insertMessage msg nonce =>
      match insertMessageStored P codec msg storagekey nonce
          (openChat disk) with
      | .error _ => some (openChat disk)
      | .ok stored => some stored
  | .insertBlob blob =>
      match insertBlobToChat blob (openChat disk) with
      | .error _ => some (openChat disk)
      | .ok stored => some stored
  | .load => some (loadPeerChatMessages P codec storagekey (openChat disk)).2
  | .purge => none

def chatAfter (ops : List ChatOp) : Option ChatDb :=
  ops.foldl (chatStep P codec storagekey) none

/-- The abstract log under one operation. -/
def logStep (log : List Message) : ChatOp → List Message
  | .insertMessage msg _ => log ++ [msg]
  | .insertBlob blob => log ++ (decodeRecord P codec storagekey blob).toList
  | .load => log
  | .purge => []

/-- The messages inserted since the last purge, raw blobs included where
they decrypt and parse. -/
def insertedMessages (ops : List ChatOp) : List Message :=
  ops.foldl (logStep P codec storagekey) []

end Steps

/-! ## Keys below the number of inserts -/

def ChatDb.KeysBelow (db : ChatDb) (count : ℕ) : Prop :=
  ∀ entry ∈ db.entries, entry.1.length = 8 ∧ (ofBeBytes entry.1).toNat < count

theorem ChatDb.keysBelow_empty (count : ℕ) :
    ChatDb.KeysBelow Tree.empty count := by
  simp [ChatDb.KeysBelow]

theorem ChatDb.KeysBelow.hasRoom
    {db : ChatDb} {count : ℕ} (hbelow : db.KeysBelow count)
    (hcount : count < 2 ^ 64) : db.HasRoom := by
  intro entry hlast hzero
  have hlow := (hbelow entry (List.mem_of_getLast? hlast)).2
  have hsum := congrArg UInt64.toNat hzero
  rw [UInt64.toNat_add] at hsum
  simp at hsum
  omega

theorem ChatDb.KeysBelow.findCounter
    {db : ChatDb} {count : ℕ} (hbelow : db.KeysBelow count)
    (hcount : count < 2 ^ 64) :
    ∃ counter, findCounter db = .ok counter ∧ counter.toNat ≤ count := by
  unfold SechatClient.findCounter
  cases hlast : db.last with
  | none => exact ⟨0, rfl, by simp⟩
  | some entry =>
      obtain ⟨hlength, hlow⟩ := hbelow entry (List.mem_of_getLast? hlast)
      refine ⟨ofBeBytes entry.1 + 1, by simp [hlength], ?_⟩
      rw [UInt64.toNat_add]
      simp
      omega

theorem ChatDb.KeysBelow.insert
    {db : ChatDb} {count : ℕ} (hbelow : db.KeysBelow count)
    {counter : UInt64} (hcounter : counter.toNat ≤ count) (data : Bytes) :
    ChatDb.KeysBelow (db.insert (toBeBytes counter) data) (count + 1) := by
  intro entry hentry
  rcases Tree.mem_insert hentry with rfl | hold
  · simp
    omega
  · obtain ⟨hlength, hlow⟩ := hbelow entry hold
    exact ⟨hlength, by omega⟩

/-! ## One operation -/

section Refinement

variable {P : Primitives} {codec : Codec Message} {storagekey : KeyType}

/-- The simulation relation after `count` inserts. -/
structure RefinesLog (P : Primitives) (codec : Codec Message)
    (storagekey : KeyType) (db : ChatDb) (count : ℕ) (log : List Message) :
    Prop where
  keys : db.KeysBelow count
  log : chatLog P codec storagekey db = log

theorem RefinesLog.initial :
    RefinesLog P codec storagekey Tree.empty 0 [] where
  keys := ChatDb.keysBelow_empty 0
  log := rfl

/-- Both inserts append one record under a key above all others. -/
theorem RefinesLog.append
    {db : ChatDb} {count : ℕ} {log : List Message}
    (hrefines : RefinesLog P codec storagekey db count log)
    (hcount : count < 2 ^ 64) (data : Bytes) :
    ∃ counter, findCounter db = .ok counter ∧
      (db.insert (toBeBytes counter) data).entries =
        db.entries ++ [(toBeBytes counter, data)] ∧
      RefinesLog P codec storagekey (db.insert (toBeBytes counter) data)
        (count + 1)
        (log ++ (decodeRecord P codec storagekey data).toList) := by
  obtain ⟨counter, hcounter, hle⟩ := hrefines.keys.findCounter hcount
  have habove := findCounter_above (hrefines.keys.hasRoom hcount) hcounter
  refine ⟨counter, hcounter, Tree.insert_entries_of_forall_lt data habove,
    hrefines.keys.insert hle data, ?_⟩
  rw [chatLog_insert_of_above habove, hrefines.log]

theorem RefinesLog.load
    {db : ChatDb} {count : ℕ} {log : List Message}
    (hrefines : RefinesLog P codec storagekey db count log) :
    RefinesLog P codec storagekey
      (loadPeerChatMessages P codec storagekey db).2 count log where
  keys := by
    intro entry hentry
    rw [loadPeerChatMessages_entries] at hentry
    exact hrefines.keys entry (List.mem_filter.mp hentry).1
  log := by
    rw [chatLog_loadPeerChatMessages]
    exact hrefines.log

/-- An insert succeeds and appends exactly one record. -/
theorem RefinesLog.insert
    (haead : P.AeadCorrect) (hround : codec.RoundTrip)
    {disk : Option ChatDb} {count : ℕ} {log : List Message}
    (hrefines : RefinesLog P codec storagekey (openChat disk) count log)
    (hcount : count < 2 ^ 64) {op : ChatOp} (hinsert : op.isInsert = true) :
    ∃ key data next, chatStep P codec storagekey disk op = some next ∧
      next.entries = (openChat disk).entries ++ [(key, data)] ∧
      RefinesLog P codec storagekey next (count + 1)
        (logStep P codec storagekey log op) := by
  cases op with
  | insertMessage msg nonce =>
      obtain ⟨data, hdata⟩ := encryptMessageStored_succeeds P storagekey
        hround msg nonce
      obtain ⟨counter, hcounter, hentries, hnext⟩ :=
        hrefines.append hcount data
      have hdecode := decodeRecord_encryptMessageStored haead hround hdata
      rw [hdecode] at hnext
      refine ⟨_, _, _, ?_, hentries, hnext⟩
      simp only [chatStep, insertMessageStored, hdata, hcounter]
  | insertBlob blob =>
      obtain ⟨counter, hcounter, hentries, hnext⟩ := hrefines.append hcount
        blob
      refine ⟨_, _, _, ?_, hentries, hnext⟩
      simp only [chatStep, insertBlobToChat, hcounter]
  | load => simp [ChatOp.isInsert] at hinsert
  | purge => simp [ChatOp.isInsert] at hinsert

/-- What one operation keeps, in the number of inserts after it. -/
theorem RefinesLog.step
    (haead : P.AeadCorrect) (hround : codec.RoundTrip)
    {disk : Option ChatDb} {count : ℕ} {log : List Message}
    (hrefines : RefinesLog P codec storagekey (openChat disk) count log)
    (hcount : count < 2 ^ 64) (op : ChatOp) :
    RefinesLog P codec storagekey
      (openChat (chatStep P codec storagekey disk op))
      (count + [op].countP ChatOp.isInsert)
      (logStep P codec storagekey log op) := by
  by_cases hinsert : op.isInsert = true
  · obtain ⟨_, _, next, hstep, _, hnext⟩ :=
      hrefines.insert haead hround hcount hinsert
    rw [hstep]
    simpa [hinsert, openChat] using hnext
  · have hkept : [op].countP ChatOp.isInsert = 0 := by simp [hinsert]
    rw [hkept]
    cases op with
    | insertMessage msg nonce => simp [ChatOp.isInsert] at hinsert
    | insertBlob blob => simp [ChatOp.isInsert] at hinsert
    | load => exact hrefines.load
    | purge => exact ⟨ChatDb.keysBelow_empty _, rfl⟩

variable (storagekey) in
theorem chatAfter_refines
    (haead : P.AeadCorrect) (hround : codec.RoundTrip) (ops : List ChatOp)
    (hcount : ops.countP ChatOp.isInsert < 2 ^ 64) :
    RefinesLog P codec storagekey
      (openChat (chatAfter P codec storagekey ops))
      (ops.countP ChatOp.isInsert)
      (insertedMessages P codec storagekey ops) := by
  induction ops using List.reverseRecOn with
  | nil => exact RefinesLog.initial
  | append_singleton ops op ih =>
      rw [List.countP_append] at hcount ⊢
      have hearlier : ops.countP ChatOp.isInsert < 2 ^ 64 := by omega
      have hnext := (ih hearlier).step haead hround hearlier op
      simpa [chatAfter, insertedMessages] using hnext

/-- The database refines the log.  A load returns the messages inserted since
the last purge and keeps the records that decode; a second load returns the
same list; the next insert adds one record behind all surviving ones. -/
theorem chat_db_refines_log
    (haead : P.AeadCorrect) (hround : codec.RoundTrip) (ops : List ChatOp)
    (hcount : ops.countP ChatOp.isInsert < 2 ^ 64) :
    let db := openChat (chatAfter P codec storagekey ops)
    let loaded := loadPeerChatMessages P codec storagekey db
    loaded.1 = insertedMessages P codec storagekey ops ∧
      loaded.2.entries = db.entries.filter (fun entry =>
        (decodeRecord P codec storagekey entry.2).isSome) ∧
      (loadPeerChatMessages P codec storagekey loaded.2).1 = loaded.1 ∧
      ∀ op : ChatOp, op.isInsert = true → ∃ key data,
        (openChat (chatAfter P codec storagekey (ops ++ [op]))).entries =
          db.entries ++ [(key, data)] := by
  have hrefines := chatAfter_refines storagekey haead hround ops hcount
  refine ⟨?_, ?_, ?_, ?_⟩
  · rw [loadPeerChatMessages_messages]
    exact hrefines.log
  · exact loadPeerChatMessages_entries _
  · rw [loadPeerChatMessages_messages, loadPeerChatMessages_messages]
    exact chatLog_loadPeerChatMessages _
  · intro op hinsert
    obtain ⟨key, data, next, hstep, hentries, _⟩ :=
      hrefines.insert haead hround hcount hinsert
    have hafter : chatAfter P codec storagekey (ops ++ [op]) = some next := by
      simpa [chatAfter] using hstep
    refine ⟨key, data, ?_⟩
    rw [hafter]
    exact hentries

end Refinement

def sampleOps : List ChatOp :=
  [.purge, .insertMessage ⟨.you, "hi", 1⟩ (Vector.replicate 12 1),
    .insertBlob [42], .load, .insertMessage ⟨.peer, "ho", 2⟩
      (Vector.replicate 12 2)]

/-- The undecodable blob is removed and the two messages are returned. -/
theorem chat_db_refines_log_sample :
    sampleOps.countP ChatOp.isInsert < 2 ^ 64 ∧
      (loadPeerChatMessages Primitives.transparent transparentMessages
        (Vector.replicate 32 3)
        (openChat (chatAfter Primitives.transparent transparentMessages
          (Vector.replicate 32 3) sampleOps))).1 =
        [⟨.you, "hi", 1⟩, ⟨.peer, "ho", 2⟩] := by
  refine ⟨by decide, ?_⟩
  rw [(chat_db_refines_log transparent_aeadCorrect
    transparentMessages_roundTrip sampleOps (by decide)).1]
  rfl

end SechatClient
