import SechatClient.GuiApp
import SechatClient.InterruptedWrites
import SechatClient.PeersDirectory

/-!
# Adding a peer step by step

`initialize_peer` creates the directory of the peer, truncates its `peer.pub`
and writes the keys into it.  A step that fails leaves what the earlier ones
did, and two readers see it: `load_peer_data` the one entry, `load_peers` all
of them, where one bad entry fails the whole listing.
-/

namespace SechatClient

open ByteStrings InterruptedWrites

/-! ## Listings that differ in one entry -/

section Listings

variable {α β ε : Type} {f g : α → Except ε β} {items : List α}

theorem mapM_congr_of_mem (hsame : ∀ item ∈ items, f item = g item) :
    items.mapM f = items.mapM g := by
  induction items with
  | nil => rfl
  | cons head rest ih =>
      rw [List.mapM_cons, List.mapM_cons, hsame head List.mem_cons_self,
        ih fun item hitem => hsame item (List.mem_cons_of_mem _ hitem)]

/-- The error of a changed item shows unless an earlier item fails. -/
theorem mapM_eq_iff_of_changed
    (changed : α → Bool) {e e' : ε} (hne : e ≠ e')
    (hsame : ∀ item ∈ items, changed item = false → f item = g item)
    (hchanged : ∀ item ∈ items, changed item = true →
      f item = .error e ∧ g item = .error e') :
    items.mapM f = items.mapM g ↔
      (∀ item ∈ items, changed item = false) ∨
        ∃ item ∈ items.takeWhile fun item => !changed item,
          (f item).isOk = false := by
  induction items with
  | nil => simp
  | cons head rest ih =>
      have hrest := ih
        (fun item hitem => hsame item (List.mem_cons_of_mem _ hitem))
        (fun item hitem => hchanged item (List.mem_cons_of_mem _ hitem))
      rw [List.mapM_cons, List.mapM_cons]
      cases hhead : changed head with
      | true =>
          obtain ⟨hf, hg⟩ := hchanged head List.mem_cons_self hhead
          simp [hf, hg, hhead, hne, bind, Except.bind]
      | false =>
          rw [← hsame head List.mem_cons_self hhead]
          cases hvalue : f head with
          | error e => simp [hhead, hvalue, bind, Except.bind, Except.isOk,
              Except.toBool]
          | ok y =>
              have htail : (do
                    let ys ← rest.mapM f
                    pure (y :: ys)) = (do
                    let ys ← rest.mapM g
                    pure (y :: ys)) ↔ rest.mapM f = rest.mapM g := by
                cases rest.mapM f <;> cases rest.mapM g <;>
                  simp [bind, Except.bind, pure, Except.pure]
              simp only [bind, Except.bind] at htail ⊢
              rw [htail, hrest]
              simp [hhead, hvalue, Except.isOk, Except.toBool]

end Listings

/-! ## Writing in place -/

namespace PeersDir

/-- The entry changed where it stands in the listing. -/
def replaceDir (peers : PeersDir) (name : List Char)
    (f : PeerDir → PeerDir) : PeersDir where
  entries := peers.entries.map fun entry =>
    if entry.1 = name then ⟨entry.1, f entry.2⟩ else entry
  nodupKeys := by
    have hkeys : (peers.entries.map fun entry =>
        if entry.1 = name then (⟨entry.1, f entry.2⟩ : Sigma _)
          else entry).keys = peers.entries.keys := by
      unfold List.keys
      rw [List.map_map]
      apply List.map_congr_left
      intro entry _
      simp only [Function.comp_apply]
      split <;> rfl
    unfold List.NodupKeys
    rw [hkeys]
    exact peers.nodupKeys

variable {peers : PeersDir} {name other : List Char} {f g : PeerDir → PeerDir}

theorem mem_replaceDir {dir : PeerDir} :
    (⟨other, dir⟩ : Sigma fun _ : List Char => PeerDir) ∈
        (peers.replaceDir name f).entries ↔
      ∃ old, peers.lookup other = some old ∧
        dir = if other = name then f old else old := by
  simp only [replaceDir, List.mem_map]
  constructor
  · rintro ⟨⟨key, old⟩, hold, heq⟩
    by_cases hkey : key = name
    · simp only [hkey, if_true] at heq
      cases heq
      exact ⟨old, AList.mem_lookup_iff.mpr (hkey ▸ hold), by simp⟩
    · simp only [hkey, if_false] at heq
      cases heq
      exact ⟨dir, AList.mem_lookup_iff.mpr hold, by simp [hkey]⟩
  · rintro ⟨old, hold, rfl⟩
    refine ⟨⟨other, old⟩, AList.mem_lookup_iff.mp hold, ?_⟩
    by_cases hother : other = name
    · simp [hother]
    · simp [hother]

theorem lookup_replaceDir :
    (peers.replaceDir name f).lookup other =
      if other = name then (peers.lookup other).map f
      else peers.lookup other := by
  apply Option.ext
  intro dir
  rw [← Option.mem_def, AList.mem_lookup_iff, mem_replaceDir]
  by_cases hother : other = name
  · simp [hother, eq_comm]
  · simp [hother]

theorem replaceDir_replaceDir :
    (peers.replaceDir name f).replaceDir name g =
      peers.replaceDir name (g ∘ f) := by
  apply AList.ext
  simp only [replaceDir, List.map_map]
  apply List.map_congr_left
  intro entry _
  by_cases hentry : entry.1 = name
  · simp [hentry]
  · simp [hentry]

end PeersDir

/-! ## The steps -/

/-- `peers/`, which may be missing. -/
abbrev PeersRoot := Option PeersDir

section Steps

variable (P : Primitives) (peersPath : String)

/-- `create_dir_all` makes `peers/` first. -/
def createPeerDir (name : List Char) : Action PeersRoot where
  run := fun root => some ((root.getD ∅).ensureDir name)
  part := fun done root => if done = 0 then root else some (root.getD ∅)

def truncatePeerPub (name : List Char) : Action PeersRoot :=
  .whole fun root => root.map fun peers =>
    peers.replaceDir name fun dir => { dir with peerPub := some [] }

def appendPeerPub (name : List Char) (bytes : Bytes) (root : PeersRoot) :
    PeersRoot :=
  root.map fun peers => peers.replaceDir name fun dir =>
    { dir with peerPub := dir.peerPub.map (· ++ bytes) }

/-- The steps 0 to 3: create the directory, open `peer.pub`, write it,
flush. -/
def initializePeerScript (peer : PeerPublic) : List (Action PeersRoot) :=
  let name := peerDirName (peer.hash P)
  [createPeerDir name, truncatePeerPub name,
    .writeAll (appendPeerPub name) peer.content, .flush]

/-- Every error of a step is wrapped as `Other`. -/
def initializePeerSteps (root : PeersRoot) (peer : PeerPublic)
    (fault : Option (Fault String)) : PeersRoot × Except CryptoErrors Unit :=
  let written := perform (initializePeerScript P peer) fault root
  (written.1, written.2.mapError CryptoErrors.other)

def addPeerSteps (root : PeersRoot) (x25519 verifying : KeyType)
    (fault : Option (Fault String)) : PeersRoot × Except String KeyType :=
  if P.isVerifyingKey verifying then
    let written := initializePeerSteps P root ⟨x25519, verifying⟩ fault
    (written.1, Client.addPeer P x25519 verifying written.2)
  else
    (root, .error "invalid ed25519 key")

/-! ## The readers -/

def loadPeersAt (root : PeersRoot) :
    Except CryptoErrors (List PeerPublic) :=
  match root with
  | none => .error (.notFound peersPath)
  | some peers => loadPeers P peers

def loadPeerDataAt (root : PeersRoot) (id : KeyType) :
    Except CryptoErrors PeerPublic :=
  match root with
  | none => .error (.notFound (String.ofList (peerDirName id)))
  | some peers => loadPeerData P peers id

/-- Both readers return what they returned before. -/
def SameToReaders (before after : PeersRoot) : Prop :=
  loadPeersAt P peersPath after = loadPeersAt P peersPath before ∧
    ∀ id, loadPeerDataAt P after id = loadPeerDataAt P before id

end Steps

/-! ## When a failure goes unnoticed -/

section Condition

variable (P : Primitives)

/-- The content of the `peer.pub` of an identity. -/
def recordAt (root : PeersRoot) (id : KeyType) : Option Bytes :=
  ((root.getD ∅).lookup (peerDirName id)).bind PeerDir.peerPub

/-- An entry listed before the one of the identity fails the listing. -/
def FailsBefore (root : PeersRoot) (id : KeyType) : Prop :=
  ∃ entry ∈ (root.getD ∅).entries.takeWhile fun entry =>
      !decide (entry.1 = peerDirName id),
    (loadPeerEntry P entry.2).isOk = false

/-- The record was already too short, or it held a bad key in a listing that
fails earlier. -/
def SpoiledBefore (root : PeersRoot) (id : KeyType) : Prop :=
  ∃ content, recordAt root id = some content ∧
    (content.length < 64 ∨
      (parsePeerPub P content).isOk = false ∧ FailsBefore P root id)

/-- Nothing was created; or only an empty `peers/` that existed; or only an
entry that existed; or a record was cut off that was as bad before; or the
record already held these keys. -/
def FailsUnnoticed (root : PeersRoot) (peer : PeerPublic) :
    Option (Fault String) → Prop
  | none => True
  | some ⟨0, done, _⟩ => done = 0 ∨ root.isSome = true
  | some ⟨1, _, _⟩ =>
      ((root.getD ∅).lookup (peerDirName (peer.hash P))).isSome = true
  | some ⟨2, written, _⟩ =>
      if written < 64 then SpoiledBefore P root (peer.hash P)
      else loadPeerDataAt P root (peer.hash P) = .ok peer
  | some ⟨3, _, _⟩ => loadPeerDataAt P root (peer.hash P) = .ok peer
  | some ⟨_ + 4, _, _⟩ => True

end Condition

/-! ## What each failure leaves -/

section Failures

variable {P : Primitives} {peersPath : String} {root : PeersRoot}
  {peers : PeersDir} {peer : PeerPublic} {id other : KeyType}
  {bytes : Bytes}

/-- The directory with these bytes in the `peer.pub` of the identity. -/
def writeRecord (peers : PeersDir) (id : KeyType) (bytes : Bytes) :
    PeersDir :=
  (peers.ensureDir (peerDirName id)).replaceDir (peerDirName id) fun dir =>
    { dir with peerPub := some bytes }

theorem perform_write
    (peer : PeerPublic) (written : ℕ) (error : String) (root : PeersRoot) :
    (perform (initializePeerScript P peer) (some ⟨2, written, error⟩) root).1 =
      some (writeRecord (root.getD ∅) (peer.hash P)
        (peer.content.take written)) :=
  congrArg some PeersDir.replaceDir_replaceDir

theorem perform_flush
    (peer : PeerPublic) (part : ℕ) (error : String) (root : PeersRoot) :
    (perform (initializePeerScript P peer) (some ⟨3, part, error⟩) root).1 =
      some (writeRecord (root.getD ∅) (peer.hash P) peer.content) :=
  congrArg some PeersDir.replaceDir_replaceDir

theorem loadPeerDataAt_eq (root : PeersRoot) (id : KeyType) :
    loadPeerDataAt P root id = loadPeerData P (root.getD ∅) id := by
  cases root with
  | none => simp [loadPeerDataAt, loadPeerData]
  | some peers => rfl

theorem loadPeerData_writeRecord_ne (hne : other ≠ id) :
    loadPeerData P (writeRecord peers id bytes) other =
      loadPeerData P peers other := by
  have hname := peerDirName_ne hne
  simp only [loadPeerData, writeRecord, PeersDir.lookup_replaceDir,
    if_neg hname, PeersDir.lookup_ensureDir_ne _ hname]

theorem loadPeerData_writeRecord_self :
    loadPeerData P (writeRecord peers id bytes) id =
      if bytes.length < 64 then .error .corruptedFile
      else parsePeerPub P bytes := by
  simp [loadPeerData, writeRecord, PeersDir.lookup_replaceDir,
    PeersDir.lookup_ensureDir_self]

theorem ensureDir_of_lookup
    {dir : PeerDir} {name : List Char} (hdir : peers.lookup name = some dir) :
    peers.ensureDir name = peers := by
  simp [PeersDir.ensureDir, hdir]

/-- The result of an entry once the record is written. -/
theorem loadPeers_writeRecord
    {dir : PeerDir} (hdir : peers.lookup (peerDirName id) = some dir) :
    loadPeers P (writeRecord peers id bytes) =
      peers.entries.mapM fun entry =>
        if entry.1 = peerDirName id then
          loadPeerEntry P ⟨some bytes, entry.2.chatDb⟩
        else loadPeerEntry P entry.2 := by
  unfold writeRecord
  rw [ensureDir_of_lookup hdir]
  simp only [loadPeers, PeersDir.replaceDir, List.mapM_map]
  apply mapM_congr_of_mem
  intro entry _
  by_cases hentry : entry.1 = peerDirName id
  · simp [hentry]
  · simp [hentry]

theorem entry_eq_of_lookup
    {dir : PeerDir} {name : List Char} (hdir : peers.lookup name = some dir)
    {entry : Sigma fun _ : List Char => PeerDir}
    (hentry : entry ∈ peers.entries) (hname : entry.1 = name) :
    entry.2 = dir := by
  have hlookup : peers.lookup entry.1 = some entry.2 :=
    AList.mem_lookup_iff.mpr hentry
  rw [hname, hdir] at hlookup
  exact (Option.some.inj hlookup).symm

/-- A record rewritten to the same result of its entry leaves the listing. -/
theorem loadPeers_writeRecord_same
    {dir : PeerDir} (hdir : peers.lookup (peerDirName id) = some dir)
    (hsame : ∀ db, loadPeerEntry P ⟨some bytes, db⟩ = loadPeerEntry P dir) :
    loadPeers P (writeRecord peers id bytes) = loadPeers P peers := by
  rw [loadPeers_writeRecord hdir]
  apply mapM_congr_of_mem
  intro entry hentry
  by_cases hname : entry.1 = peerDirName id
  · rw [if_pos hname, hsame, entry_eq_of_lookup hdir hentry hname]
  · rw [if_neg hname]

theorem sameToReaders_writeRecord_iff
    (hroot : root.getD ∅ = peers) :
    SameToReaders P peersPath root (some (writeRecord peers id bytes)) ↔
      loadPeersAt P peersPath (some (writeRecord peers id bytes)) =
          loadPeersAt P peersPath root ∧
        loadPeerData P (writeRecord peers id bytes) id =
          loadPeerData P peers id := by
  unfold SameToReaders
  apply and_congr_right'
  constructor
  · intro hall
    have hid := hall id
    rwa [loadPeerDataAt_eq root, hroot] at hid
  · intro hid other
    rw [loadPeerDataAt_eq root, hroot]
    by_cases hother : other = id
    · subst hother
      exact hid
    · exact loadPeerData_writeRecord_ne hother

theorem parsePeerPub_of_not_ok
    (hbad : (parsePeerPub P bytes).isOk = false) :
    parsePeerPub P bytes = .error .corruptedFile := by
  unfold parsePeerPub at hbad ⊢
  simp only at hbad ⊢
  split at hbad
  next => contradiction
  next hvalid => rw [if_neg hvalid]

/-- What `load_peer_data` makes of a record. -/
theorem loadPeerData_of_record
    {dir : PeerDir} {content : Bytes}
    (hdir : peers.lookup (peerDirName id) = some dir)
    (hcontent : dir.peerPub = some content) :
    loadPeerData P peers id =
      if content.length < 64 then .error .corruptedFile
      else parsePeerPub P content := by
  simp only [loadPeerData, hdir, hcontent]

theorem loadPeerEntry_of_record
    {dir : PeerDir} {content : Bytes} (hcontent : dir.peerPub = some content) :
    loadPeerEntry P dir =
      if content.length < 64 then .error (.other "failed to fill whole buffer")
      else parsePeerPub P content := by
  simp only [loadPeerEntry, hcontent]

theorem exists_record
    (hrecord : recordAt root id = some bytes) :
    ∃ peers dir, root = some peers ∧
      peers.lookup (peerDirName id) = some dir ∧ dir.peerPub = some bytes := by
  obtain ⟨dir, hdir, hbytes⟩ := Option.bind_eq_some_iff.mp hrecord
  cases root with
  | none => simp at hdir
  | some peers => exact ⟨peers, dir, rfl, hdir, hbytes⟩

/-- Without a record `load_peer_data` reports something else than a corrupted
file. -/
theorem exists_record_of_load
    {result : Except CryptoErrors PeerPublic}
    (hload : loadPeerData P (root.getD ∅) id = result)
    (hresult : result = .error .corruptedFile ∨ ∃ peer, result = .ok peer) :
    ∃ content, recordAt root id = some content := by
  unfold recordAt
  unfold loadPeerData at hload
  cases hdir : (root.getD ∅).lookup (peerDirName id) with
  | none =>
      simp only [hdir] at hload
      subst hload
      simp at hresult
  | some dir =>
      cases hcontent : dir.peerPub with
      | none =>
          simp only [hdir, hcontent] at hload
          subst hload
          simp at hresult
      | some content => exact ⟨content, by simp [hcontent]⟩

theorem sameToReaders_complete_iff
    (hvalid : P.isVerifyingKey peer.verifying = true) :
    SameToReaders P peersPath root
        (some (writeRecord (root.getD ∅) (peer.hash P) peer.content)) ↔
      loadPeerDataAt P root (peer.hash P) = .ok peer := by
  have hlong : ¬ peer.content.length < 64 := by
    rw [peer.content_length]
    omega
  have hparse : parsePeerPub P peer.content = .ok peer :=
    parsePeerPub_append P peer hvalid
  rw [sameToReaders_writeRecord_iff rfl, loadPeerData_writeRecord_self,
    if_neg hlong, hparse, loadPeerDataAt_eq]
  constructor
  · rintro ⟨_, hid⟩
    exact hid.symm
  · intro hid
    refine ⟨?_, hid.symm⟩
    obtain ⟨content, hrecord⟩ :=
      exists_record_of_load hid (Or.inr ⟨peer, rfl⟩)
    obtain ⟨peers, dir, rfl, hdir, hcontent⟩ := exists_record hrecord
    apply loadPeers_writeRecord_same hdir
    intro db
    -- the old record is long enough and holds the same keys
    rw [Option.getD_some, loadPeerData_of_record hdir hcontent] at hid
    rw [loadPeerEntry_of_record hcontent, loadPeerEntry_of_record rfl,
      if_neg hlong, hparse]
    split at hid
    next => contradiction
    next hold => rw [if_neg hold, hid]

theorem loadPeers_cut_iff
    {dir : PeerDir} {content : Bytes} (hshort : bytes.length < 64)
    (hdir : peers.lookup (peerDirName id) = some dir)
    (hcontent : dir.peerPub = some content) (hlong : ¬ content.length < 64)
    (hbad : parsePeerPub P content = .error .corruptedFile) :
    loadPeers P (writeRecord peers id bytes) = loadPeers P peers ↔
      FailsBefore P (some peers) id := by
  have hne : CryptoErrors.corruptedFile ≠
      .other "failed to fill whole buffer" := by
    decide
  rw [loadPeers_writeRecord hdir, eq_comm, loadPeers, mapM_eq_iff_of_changed
    (fun entry => decide (entry.1 = peerDirName id)) hne]
  · have hentry := AList.mem_lookup_iff.mp hdir
    rw [or_iff_right]
    · rfl
    · intro hall
      simpa using hall _ hentry
  · intro entry _ hentry
    rw [if_neg (by simpa using hentry)]
  · intro entry hmem hentry
    have hname : entry.1 = peerDirName id := by simpa using hentry
    rw [entry_eq_of_lookup hdir hmem hname, if_pos hname,
      loadPeerEntry_of_record hcontent, if_neg hlong, hbad,
      loadPeerEntry_of_record rfl, if_pos hshort]
    exact ⟨rfl, rfl⟩

theorem sameToReaders_cut_iff (hshort : bytes.length < 64) :
    SameToReaders P peersPath root
        (some (writeRecord (root.getD ∅) id bytes)) ↔
      SpoiledBefore P root id := by
  rw [sameToReaders_writeRecord_iff rfl, loadPeerData_writeRecord_self,
    if_pos hshort]
  constructor
  · rintro ⟨hpeers, hid⟩
    obtain ⟨content, hrecord⟩ :=
      exists_record_of_load hid.symm (Or.inl rfl)
    obtain ⟨peers, dir, rfl, hdir, hcontent⟩ := exists_record hrecord
    refine ⟨content, hrecord, ?_⟩
    by_cases hold : content.length < 64
    · exact Or.inl hold
    · rw [Option.getD_some, loadPeerData_of_record hdir hcontent,
        if_neg hold] at hid
      refine Or.inr ⟨by rw [← hid]; rfl, ?_⟩
      exact (loadPeers_cut_iff hshort hdir hcontent hold hid.symm).mp hpeers
  · rintro ⟨content, hrecord, hspoiled⟩
    obtain ⟨peers, dir, rfl, hdir, hcontent⟩ := exists_record hrecord
    rw [Option.getD_some, loadPeerData_of_record hdir hcontent]
    by_cases hold : content.length < 64
    · rw [if_pos hold]
      refine ⟨?_, rfl⟩
      apply loadPeers_writeRecord_same hdir
      intro db
      rw [loadPeerEntry_of_record hcontent, loadPeerEntry_of_record rfl,
        if_pos hshort, if_pos hold]
    · obtain ⟨hbad, hbefore⟩ := hspoiled.resolve_left hold
      have hparse := parsePeerPub_of_not_ok hbad
      rw [if_neg hold, hparse]
      exact ⟨(loadPeers_cut_iff hshort hdir hcontent hold hparse).mpr hbefore,
        rfl⟩

/-- Wherever the steps break off, the other entries are as they were. -/
theorem lookup_initializePeerSteps_ne
    (root : PeersRoot) (peer : PeerPublic) (fault : Option (Fault String))
    {name : List Char} (hname : name ≠ peerDirName (peer.hash P)) :
    ((initializePeerSteps P root peer fault).1.getD ∅).lookup name =
      (root.getD ∅).lookup name := by
  let Kept (current : PeersRoot) : Prop :=
    (current.getD ∅).lookup name = (root.getD ∅).lookup name
  have hmap : ∀ (f : PeerDir → PeerDir) (current : PeersRoot),
      ((current.map fun peers : PeersDir =>
          peers.replaceDir (peerDirName (peer.hash P)) f).getD ∅).lookup name =
        (current.getD ∅).lookup name := by
    intro f current
    cases current with
    | none => rfl
    | some peers => exact PeersDir.lookup_replaceDir.trans (if_neg hname)
  change Kept (perform (initializePeerScript P peer) fault root).1
  apply perform_invariant Kept
  · intro action haction current hcurrent
    simp only [initializePeerScript, List.mem_cons, List.not_mem_nil,
      or_false] at haction
    rcases haction with rfl | rfl | rfl | rfl
    · constructor
      · exact (PeersDir.lookup_ensureDir_ne _ hname).trans hcurrent
      · intro done
        simp only [createPeerDir]
        split <;> exact hcurrent
    · exact ⟨(hmap _ current).trans hcurrent, fun _ => hcurrent⟩
    · exact ⟨(hmap _ current).trans hcurrent,
        fun _ => (hmap _ current).trans hcurrent⟩
    · exact ⟨hcurrent, fun _ => hcurrent⟩
  · rfl

/-- Without a fault the steps do what `initializePeer` says. -/
theorem lookup_initializePeerSteps (root : PeersRoot) (peer : PeerPublic) :
    ∃ added, initializePeerSteps P root peer none = (some added, .ok ()) ∧
      ∀ name, added.lookup name =
        (initializePeer P (root.getD ∅) peer).lookup name := by
  refine ⟨_, rfl, ?_⟩
  intro name
  simp only [PeersDir.lookup_replaceDir, initializePeer]
  by_cases hname : name = peerDirName (peer.hash P)
  · subst hname
    simp [PeersDir.lookup_modifyDir_self, PeersDir.lookup_ensureDir_self,
      PeerPublic.content]
  · rw [if_neg hname, if_neg hname, PeersDir.lookup_modifyDir_ne _ _ hname,
      PeersDir.lookup_modifyDir_ne _ _ hname]

/-- A new entry without a record is reported in another way than a missing
one. -/
theorem sameToReaders_created_iff :
    SameToReaders P peersPath root
        (some ((root.getD ∅).ensureDir (peerDirName id))) ↔
      ((root.getD ∅).lookup (peerDirName id)).isSome = true := by
  cases hdir : (root.getD ∅).lookup (peerDirName id) with
  | none =>
      refine iff_of_false ?_ (by simp)
      rintro ⟨_, hall⟩
      have hid := hall id
      rw [loadPeerDataAt_eq root] at hid
      simp [loadPeerDataAt, loadPeerData, hdir,
        PeersDir.lookup_ensureDir_self] at hid
  | some dir =>
      refine iff_of_true ?_ rfl
      cases root with
      | none => simp at hdir
      | some peers =>
          rw [ensureDir_of_lookup hdir]
          exact ⟨rfl, fun _ => rfl⟩

theorem sameToReaders_root_iff :
    SameToReaders P peersPath root (some (root.getD ∅)) ↔
      root.isSome = true := by
  cases root with
  | none =>
      refine iff_of_false ?_ (by simp)
      rintro ⟨hpeers, _⟩
      simp only [loadPeersAt] at hpeers
      contradiction
  | some peers => exact iff_of_true ⟨rfl, fun _ => rfl⟩ rfl

variable (peersPath root peer) in
/-- A failing step is noticed by a reader unless the state before hides it. -/
theorem initializePeer_unnoticed_iff
    (hvalid : P.isVerifyingKey peer.verifying = true)
    (fault : Option (Fault String)) :
    ((initializePeerSteps P root peer fault).2.isOk = false →
      SameToReaders P peersPath root
        (initializePeerSteps P root peer fault).1) ↔
    FailsUnnoticed P root peer fault := by
  match fault with
  | none =>
      refine iff_of_true ?_ trivial
      intro hfailed
      contradiction
  | some ⟨0, 0, error⟩ =>
      exact iff_of_true (fun _ => ⟨rfl, fun _ => rfl⟩) (Or.inl rfl)
  | some ⟨0, done + 1, error⟩ =>
      have hleft : (initializePeerSteps P root peer
          (some ⟨0, done + 1, error⟩)).1 = some (root.getD ∅) := rfl
      rw [hleft, sameToReaders_root_iff]
      simp [FailsUnnoticed, initializePeerSteps, initializePeerScript,
        perform, Except.mapError, Except.isOk, Except.toBool]
  | some ⟨1, part, error⟩ =>
      have hleft : (initializePeerSteps P root peer (some ⟨1, part, error⟩)).1 =
          some ((root.getD ∅).ensureDir (peerDirName (peer.hash P))) := rfl
      rw [hleft, sameToReaders_created_iff]
      simp [FailsUnnoticed, initializePeerSteps, initializePeerScript,
        perform, Except.mapError, Except.isOk, Except.toBool]
  | some ⟨2, written, error⟩ =>
      have hfailed : (initializePeerSteps P root peer
          (some ⟨2, written, error⟩)).2.isOk = false := rfl
      simp only [hfailed, forall_true_left, FailsUnnoticed]
      rw [initializePeerSteps, perform_write]
      by_cases hcut : written < 64
      · rw [if_pos hcut]
        apply sameToReaders_cut_iff
        rw [List.length_take]
        omega
      · rw [if_neg hcut, List.take_of_length_le
          (by rw [peer.content_length]; omega)]
        exact sameToReaders_complete_iff hvalid
  | some ⟨3, part, error⟩ =>
      have hfailed : (initializePeerSteps P root peer
          (some ⟨3, part, error⟩)).2.isOk = false := rfl
      simp only [hfailed, forall_true_left, FailsUnnoticed]
      rw [initializePeerSteps, perform_flush]
      exact sameToReaders_complete_iff hvalid
  | some ⟨step + 4, part, error⟩ =>
      refine iff_of_true ?_ trivial
      intro hfailed
      contradiction

end Failures

/-- A failed `add_peer` leaves both readers as they were exactly when the key
was refused, or the failure goes unnoticed. -/
theorem add_peer_failure_atomic_iff
    (P : Primitives) (peersPath : String) (root : PeersRoot)
    (x25519 verifying : KeyType) (fault : Option (Fault String)) :
    ((addPeerSteps P root x25519 verifying fault).2.isOk = false →
      SameToReaders P peersPath root
        (addPeerSteps P root x25519 verifying fault).1) ↔
    P.isVerifyingKey verifying = false ∨
      FailsUnnoticed P root ⟨x25519, verifying⟩ fault := by
  cases hvalid : P.isVerifyingKey verifying with
  | false =>
      have hleft : (addPeerSteps P root x25519 verifying fault).1 = root := by
        simp [addPeerSteps, hvalid]
      rw [hleft]
      exact iff_of_true (fun _ => ⟨rfl, fun _ => rfl⟩) (Or.inl rfl)
  | true =>
      have hiff := initializePeer_unnoticed_iff peersPath root
        ⟨x25519, verifying⟩ hvalid fault
      have hresult : (addPeerSteps P root x25519 verifying fault).2.isOk =
          (initializePeerSteps P root ⟨x25519, verifying⟩ fault).2.isOk := by
        simp only [addPeerSteps, hvalid, if_true, Client.addPeer]
        cases (initializePeerSteps P root ⟨x25519, verifying⟩ fault).2 <;> rfl
      have hleft : (addPeerSteps P root x25519 verifying fault).1 =
          (initializePeerSteps P root ⟨x25519, verifying⟩ fault).1 := by
        simp [addPeerSteps, hvalid]
      rw [hresult, hleft, hiff]
      simp

def sampleRoot : PeersRoot :=
  some (initializePeer .transparent ∅ (sampleKeys 1).publicPart)

def diskFullAtWrite : Fault String :=
  ⟨2, 0, "No space left on device (os error 28)"⟩

/-- Adding a stored contact once more truncates its record first: when the
write then fails, the contact and with it the whole listing are gone. -/
theorem readding_loses_contact :
    (addPeerSteps .transparent sampleRoot (sampleKeys 1).x25519Pub
        (sampleKeys 1).ed25519Verifying (some diskFullAtWrite)).2.isOk =
        false ∧
      loadPeerDataAt .transparent sampleRoot
          ((sampleKeys 1).id .transparent) = .ok (sampleKeys 1).publicPart ∧
      loadPeerDataAt .transparent
          (addPeerSteps .transparent sampleRoot (sampleKeys 1).x25519Pub
            (sampleKeys 1).ed25519Verifying (some diskFullAtWrite)).1
          ((sampleKeys 1).id .transparent) = .error .corruptedFile := by
  refine ⟨rfl, loadPeerData_initializePeer .transparent ∅
    (sampleKeys 1).publicPart rfl, ?_⟩
  have hleft : (addPeerSteps .transparent sampleRoot (sampleKeys 1).x25519Pub
      (sampleKeys 1).ed25519Verifying (some diskFullAtWrite)).1 =
        some (writeRecord
          (initializePeer .transparent ∅ (sampleKeys 1).publicPart)
          ((sampleKeys 1).id .transparent) []) :=
    perform_write (sampleKeys 1).publicPart 0 diskFullAtWrite.error sampleRoot
  rw [hleft, loadPeerDataAt_eq, Option.getD_some,
    loadPeerData_writeRecord_self]
  rfl

end SechatClient
