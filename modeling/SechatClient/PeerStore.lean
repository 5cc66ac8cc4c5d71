import SechatClient.CryptoCore
import SechatClient.OrderedStore
import Mathlib.Data.List.AList

/-!
# The peers directory

The file access of the `crypto` crate: the directory `peers/` with one entry
per contact, named by the hexadecimal identity hash and holding `peer.pub`
and the sled database `chat.db`.  The order of the entries stands for the
unspecified order of a directory listing.
-/

namespace SechatClient

open ByteStrings OrderedStore

abbrev ChatDb := Tree Bytes Bytes

/-- One entry of `peers/`: each part is absent until it is created. -/
structure PeerDir where
  peerPub : Option Bytes
  chatDb : Option ChatDb

abbrev PeersDir := AList fun _ : List Char => PeerDir

def peerDirName (id : KeyType) : List Char := hexEncode id.toList

theorem peerDirName_injective : Function.Injective peerDirName := by
  intro left right heq
  exact Vector.toList_inj.mp (hexEncode_injective heq)

theorem peerDirName_ne {left right : KeyType} (hne : left ≠ right) :
    peerDirName left ≠ peerDirName right :=
  fun heq => hne (peerDirName_injective heq)

namespace PeersDir

def ensureDir (peers : PeersDir) (name : List Char) : PeersDir :=
  match peers.lookup name with
  | some _ => peers
  | none => peers.insert name ⟨none, none⟩

def modifyDir (peers : PeersDir) (name : List Char) (f : PeerDir → PeerDir) :
    PeersDir :=
  match peers.lookup name with
  | none => peers
  | some dir => peers.insert name (f dir)

theorem lookup_ensureDir_self (peers : PeersDir) (name : List Char) :
    (peers.ensureDir name).lookup name =
      some ((peers.lookup name).getD ⟨none, none⟩) := by
  unfold ensureDir
  cases hlookup : peers.lookup name with
  | none => simp [AList.lookup_insert]
  | some dir => simp [hlookup]

theorem lookup_ensureDir_ne
    (peers : PeersDir) {name other : List Char} (hne : other ≠ name) :
    (peers.ensureDir name).lookup other = peers.lookup other := by
  unfold ensureDir
  cases peers.lookup name with
  | none => exact AList.lookup_insert_ne hne
  | some dir => rfl

theorem lookup_modifyDir_self
    (peers : PeersDir) (name : List Char) (f : PeerDir → PeerDir) :
    (peers.modifyDir name f).lookup name = (peers.lookup name).map f := by
  unfold modifyDir
  cases hlookup : peers.lookup name with
  | none => simp [hlookup]
  | some dir => simp [AList.lookup_insert]

theorem lookup_modifyDir_ne
    (peers : PeersDir) {name other : List Char} (f : PeerDir → PeerDir)
    (hne : other ≠ name) :
    (peers.modifyDir name f).lookup other = peers.lookup other := by
  unfold modifyDir
  cases peers.lookup name with
  | none => rfl
  | some dir => exact AList.lookup_insert_ne hne

end PeersDir

variable (P : Primitives)

/-! ## Contacts -/

def parsePeerPub (content : Bytes) : Except CryptoErrors PeerPublic :=
  let verifying : KeyType := arrayOfBytes 32 ((content.drop 32).take 32)
  if P.isVerifyingKey verifying then
    .ok ⟨arrayOfBytes 32 (content.take 32), verifying⟩
  else
    .error .corruptedFile

theorem parsePeerPub_append
    (peer : PeerPublic) (hvalid : P.isVerifyingKey peer.verifying = true) :
    parsePeerPub P (peer.publicKey.toList ++ peer.verifying.toList) =
      .ok peer := by
  have htake : (peer.publicKey.toList ++ peer.verifying.toList).take 32 =
      peer.publicKey.toList := List.take_left' (by simp)
  have hdrop : (peer.publicKey.toList ++ peer.verifying.toList).drop 32 =
      peer.verifying.toList := List.drop_left' (by simp)
  have hall : peer.verifying.toList.take 32 = peer.verifying.toList :=
    List.take_of_length_le (by simp)
  unfold parsePeerPub
  rw [htake, hdrop, hall]
  simp [hvalid]

/-- `initialize_peer` when every file operation succeeds: create the
directory, truncate `peer.pub`, write both keys. -/
def initializePeer (peers : PeersDir) (peer : PeerPublic) : PeersDir :=
  let name := peerDirName (peer.hash P)
  let created := peers.ensureDir name
  let truncated := created.modifyDir name fun dir =>
    { dir with peerPub := some [] }
  truncated.modifyDir name fun dir =>
    { dir with
      peerPub := some (peer.publicKey.toList ++ peer.verifying.toList) }

def loadPeerData (peers : PeersDir) (id : KeyType) :
    Except CryptoErrors PeerPublic :=
  match peers.lookup (peerDirName id) with
  | none => .error (.notFound (String.ofList (peerDirName id)))
  | some dir =>
      match dir.peerPub with
      | none => .error (.other "No such file or directory (os error 2)")
      | some content =>
          if content.length < 64 then .error .corruptedFile
          else parsePeerPub P content

def loadPeerEntry (dir : PeerDir) : Except CryptoErrors PeerPublic :=
  match dir.peerPub with
  | none => .error (.other "No such file or directory (os error 2)")
  | some content =>
      if content.length < 64 then
        .error (.other "failed to fill whole buffer")
      else
        parsePeerPub P content

theorem lookup_initializePeer_self (peers : PeersDir) (peer : PeerPublic) :
    ∃ db, (initializePeer P peers peer).lookup (peerDirName (peer.hash P)) =
      some ⟨some (peer.publicKey.toList ++ peer.verifying.toList), db⟩ := by
  unfold initializePeer
  simp only [PeersDir.lookup_modifyDir_self, PeersDir.lookup_ensureDir_self]
  exact ⟨_, rfl⟩

theorem lookup_initializePeer_ne
    (peers : PeersDir) (peer : PeerPublic) {name : List Char}
    (hne : name ≠ peerDirName (peer.hash P)) :
    (initializePeer P peers peer).lookup name = peers.lookup name := by
  unfold initializePeer
  simp only [PeersDir.lookup_modifyDir_ne _ _ hne,
    PeersDir.lookup_ensureDir_ne _ hne]

theorem loadPeerData_initializePeer
    (peers : PeersDir) (peer : PeerPublic)
    (hvalid : P.isVerifyingKey peer.verifying = true) :
    loadPeerData P (initializePeer P peers peer) (peer.hash P) =
      .ok peer := by
  obtain ⟨db, hlookup⟩ := lookup_initializePeer_self P peers peer
  have hlength : ¬ (peer.publicKey.toList ++ peer.verifying.toList).length < 64 := by
    simp
  unfold loadPeerData
  rw [hlookup]
  simp only
  rw [if_neg hlength, parsePeerPub_append P peer hvalid]

/-- The two directories have the same entries with the same `peer.pub`. -/
def SamePubs (peers next : PeersDir) : Prop :=
  ∀ name, (next.lookup name).map PeerDir.peerPub =
    (peers.lookup name).map PeerDir.peerPub

theorem SamePubs.refl (peers : PeersDir) : SamePubs peers peers :=
  fun _ => rfl

theorem SamePubs.trans {first second third : PeersDir}
    (hleft : SamePubs first second) (hright : SamePubs second third) :
    SamePubs first third :=
  fun name => (hright name).trans (hleft name)

theorem samePubs_modifyDir
    (peers : PeersDir) (name : List Char) {f : PeerDir → PeerDir}
    (hf : ∀ dir, (f dir).peerPub = dir.peerPub) :
    SamePubs peers (peers.modifyDir name f) := by
  intro other
  by_cases hname : other = name
  · subst hname
    rw [PeersDir.lookup_modifyDir_self]
    cases peers.lookup other with
    | none => rfl
    | some dir => simp [hf]
  · rw [PeersDir.lookup_modifyDir_ne _ _ hname]

theorem SamePubs.loadPeerData
    {peers next : PeersDir} (hsame : SamePubs peers next) (id : KeyType) :
    loadPeerData P next id = loadPeerData P peers id := by
  have hpub := hsame (peerDirName id)
  unfold SechatClient.loadPeerData
  cases hnext : next.lookup (peerDirName id) with
  | none =>
      rw [hnext] at hpub
      simp only [Option.map_none] at hpub
      rw [Option.map_eq_none_iff.mp hpub.symm]
  | some dir =>
      rw [hnext, Option.map_some] at hpub
      obtain ⟨dir', hdir', hsamePub⟩ := Option.map_eq_some_iff.mp hpub.symm
      simp only [hdir', hsamePub]

/-- One bad entry fails the whole listing. -/
def loadPeers (peers : PeersDir) : Except CryptoErrors (List PeerPublic) :=
  peers.entries.mapM fun entry => loadPeerEntry P entry.2

section Listing

variable {α β γ ε : Type} {f : α → Except ε β}

theorem mapM_cons_eq_ok_iff {head : α} {rest : List α} {ys : List β} :
    (head :: rest).mapM f = .ok ys ↔
      ∃ y tail, f head = .ok y ∧ rest.mapM f = .ok tail ∧ ys = y :: tail := by
  rw [List.mapM_cons]
  cases hhead : f head with
  | error e => simp [bind, Except.bind]
  | ok y =>
      cases hrest : rest.mapM f with
      | error e => simp [bind, Except.bind]
      | ok tail =>
          simp only [bind, Except.bind, pure, Except.pure, Except.ok.injEq]
          constructor
          · rintro rfl
            exact ⟨y, tail, rfl, rfl, rfl⟩
          · rintro ⟨y', tail', rfl, rfl, rfl⟩
            rfl

theorem exists_mapM_eq_ok
    {items : List α} (hitems : ∀ item ∈ items, ∃ y, f item = .ok y) :
    ∃ ys, items.mapM f = .ok ys := by
  induction items with
  | nil => exact ⟨[], rfl⟩
  | cons head rest ih =>
      obtain ⟨y, hy⟩ := hitems head List.mem_cons_self
      obtain ⟨tail, htail⟩ := ih fun item hitem =>
        hitems item (List.mem_cons_of_mem _ hitem)
      exact ⟨y :: tail, mapM_cons_eq_ok_iff.mpr ⟨y, tail, hy, htail, rfl⟩⟩

theorem mem_of_mapM_eq_ok
    {items : List α} {ys : List β} (hys : items.mapM f = .ok ys) {y : β} :
    y ∈ ys ↔ ∃ item ∈ items, f item = .ok y := by
  induction items generalizing ys with
  | nil =>
      cases hys
      simp
  | cons head rest ih =>
      obtain ⟨first, tail, hfirst, htail, rfl⟩ := mapM_cons_eq_ok_iff.mp hys
      simp [ih htail, hfirst, eq_comm]

theorem map_eq_of_mapM_eq_ok
    (key : α → γ) (name : β → γ) {items : List α} {ys : List β}
    (hys : items.mapM f = .ok ys)
    (hnames : ∀ item ∈ items, ∀ y, f item = .ok y → key item = name y) :
    items.map key = ys.map name := by
  induction items generalizing ys with
  | nil =>
      cases hys
      rfl
  | cons head rest ih =>
      obtain ⟨first, tail, hfirst, htail, rfl⟩ := mapM_cons_eq_ok_iff.mp hys
      rw [List.map_cons, List.map_cons,
        hnames head List.mem_cons_self first hfirst,
        ih htail fun item hitem => hnames item (List.mem_cons_of_mem _ hitem)]

theorem isOk_of_mapM_eq_ok
    {items : List α} {ys : List β} (hys : items.mapM f = .ok ys)
    {item : α} (hitem : item ∈ items) : ∃ y, f item = .ok y := by
  induction items generalizing ys with
  | nil => simp at hitem
  | cons head rest ih =>
      obtain ⟨first, tail, hfirst, htail, rfl⟩ := mapM_cons_eq_ok_iff.mp hys
      rcases List.mem_cons.mp hitem with rfl | hrest
      · exact ⟨first, hfirst⟩
      · exact ih htail hrest

end Listing

theorem SamePubs.symm
    {peers next : PeersDir} (hsame : SamePubs peers next) :
    SamePubs next peers :=
  fun name => (hsame name).symm

variable {P} in
theorem SamePubs.loadPeers_ok
    {peers next : PeersDir} (hsame : SamePubs peers next)
    (hok : ∃ listed, loadPeers P peers = .ok listed) :
    ∃ listed, loadPeers P next = .ok listed := by
  obtain ⟨listed, hlisted⟩ := hok
  apply exists_mapM_eq_ok
  intro entry hentry
  have hpub := hsame entry.1
  rw [AList.mem_lookup_iff.mpr hentry, Option.map_some] at hpub
  obtain ⟨dir, hdir, hdirPub⟩ := Option.map_eq_some_iff.mp hpub.symm
  obtain ⟨peer, hpeer⟩ := isOk_of_mapM_eq_ok hlisted
    (AList.mem_lookup_iff.mp hdir)
  refine ⟨peer, ?_⟩
  simp only [loadPeerEntry, hdirPub] at hpeer ⊢
  exact hpeer

def deletePeer (peers : PeersDir) (id : KeyType) : PeersDir :=
  peers.erase (peerDirName id)

/-! ## Chat databases -/

def chatDbOf (peers : PeersDir) (id : KeyType) : Option ChatDb :=
  (peers.lookup (peerDirName id)).bind PeerDir.chatDb

/-- `load_peer_chat_file`: `sled::open` creates missing directories, and
fails while another handle is open (`locked`). -/
def loadPeerChatFile (locked : Bool) (peers : PeersDir) (id : KeyType) :
    Except CryptoErrors (PeersDir × ChatDb) :=
  if locked then
    .error .corruptedFile
  else
    let name := peerDirName id
    let db := (chatDbOf peers id).getD Tree.empty
    .ok ((peers.ensureDir name).modifyDir name fun dir =>
      { dir with chatDb := some db }, db)

def storeChatDb (peers : PeersDir) (id : KeyType) (db : ChatDb) : PeersDir :=
  peers.modifyDir (peerDirName id) fun dir => { dir with chatDb := some db }

def purgePeerChat (peers : PeersDir) (id : KeyType) : PeersDir :=
  peers.modifyDir (peerDirName id) fun dir => { dir with chatDb := none }

theorem samePubs_storeChatDb
    (peers : PeersDir) (id : KeyType) (db : ChatDb) :
    SamePubs peers (storeChatDb peers id db) := by
  apply samePubs_modifyDir
  intro dir
  rfl

theorem samePubs_purgePeerChat (peers : PeersDir) (id : KeyType) :
    SamePubs peers (purgePeerChat peers id) := by
  apply samePubs_modifyDir
  intro dir
  rfl

theorem samePubs_loadPeerChatFile
    {peers opened : PeersDir} {locked : Bool} {id : KeyType} {db : ChatDb}
    {dir : PeerDir} (hdir : peers.lookup (peerDirName id) = some dir)
    (hopen : loadPeerChatFile locked peers id = .ok (opened, db)) :
    SamePubs peers opened := by
  unfold loadPeerChatFile at hopen
  split at hopen
  next => contradiction
  next =>
    cases hopen
    have hensure : peers.ensureDir (peerDirName id) = peers := by
      unfold PeersDir.ensureDir
      rw [hdir]
    rw [hensure]
    apply samePubs_modifyDir
    intro dir
    rfl

theorem chatDbOf_storeChatDb
    {peers : PeersDir} {id : KeyType} {dir : PeerDir}
    (hdir : peers.lookup (peerDirName id) = some dir) (db : ChatDb) :
    chatDbOf (storeChatDb peers id db) id = some db := by
  unfold chatDbOf storeChatDb
  rw [PeersDir.lookup_modifyDir_self, hdir]
  rfl

theorem chatDbOf_purgePeerChat_self (peers : PeersDir) (id : KeyType) :
    chatDbOf (purgePeerChat peers id) id = none := by
  unfold chatDbOf purgePeerChat
  rw [PeersDir.lookup_modifyDir_self]
  cases peers.lookup (peerDirName id) <;> rfl

theorem chatDbOf_modifyDir_ne
    (peers : PeersDir) {id other : KeyType} (hne : other ≠ id)
    (f : PeerDir → PeerDir) :
    chatDbOf (peers.modifyDir (peerDirName id) f) other =
      chatDbOf peers other := by
  unfold chatDbOf
  rw [PeersDir.lookup_modifyDir_ne _ _ (peerDirName_ne hne)]

/-- What an open handle sees, and what the open leaves on disk. -/
theorem loadPeerChatFile_eq_ok
    {locked : Bool} {peers opened : PeersDir} {id : KeyType} {db : ChatDb}
    (hopen : loadPeerChatFile locked peers id = .ok (opened, db)) :
    locked = false ∧ db = (chatDbOf peers id).getD Tree.empty ∧
      chatDbOf opened id = some db ∧
      (∀ other, other ≠ id → chatDbOf opened other = chatDbOf peers other) ∧
      ∃ dir, opened.lookup (peerDirName id) = some dir := by
  unfold loadPeerChatFile at hopen
  split at hopen
  next => contradiction
  next hlocked =>
    cases hopen
    refine ⟨by simpa using hlocked, rfl, ?_, ?_, ?_⟩
    · unfold chatDbOf
      rw [PeersDir.lookup_modifyDir_self, PeersDir.lookup_ensureDir_self]
      rfl
    · intro other hne
      rw [chatDbOf_modifyDir_ne _ hne]
      unfold chatDbOf
      rw [PeersDir.lookup_ensureDir_ne _ (peerDirName_ne hne)]
    · rw [PeersDir.lookup_modifyDir_self, PeersDir.lookup_ensureDir_self]
      exact ⟨_, rfl⟩

/-- Only another task with the database open makes the open fail. -/
theorem loadPeerChatFile_eq_error
    {locked : Bool} {peers : PeersDir} {id : KeyType} {e : CryptoErrors}
    (hopen : loadPeerChatFile locked peers id = .error e) :
    locked = true := by
  unfold loadPeerChatFile at hopen
  split at hopen
  next hlocked => exact hlocked
  next => contradiction

/-- One more than the last key; the 64-bit sum wraps in a release build. -/
def findCounter (db : ChatDb) : Except CryptoErrors UInt64 :=
  match db.last with
  | none => .ok 0
  | some entry =>
      if entry.1.length = 8 then .ok (ofBeBytes entry.1 + 1)
      else .error .corruptedFile

def insertMessageStored (codec : Codec Message) (msg : Message)
    (storagekey : KeyType) (nonce : Nonce) (db : ChatDb) :
    Except CryptoErrors ChatDb :=
  match encryptMessageStored P codec msg storagekey nonce with
  | .error e => .error e
  | .ok data =>
      match findCounter db with
      | .error e => .error e
      | .ok counter => .ok (db.insert (toBeBytes counter) data)

def insertBlobToChat (blob : Bytes) (db : ChatDb) :
    Except CryptoErrors ChatDb :=
  match findCounter db with
  | .error e => .error e
  | .ok counter => .ok (db.insert (toBeBytes counter) blob)

def decodeRecord (codec : Codec Message) (storagekey : KeyType)
    (value : Bytes) : Option Message :=
  match decryptMessageStored P value storagekey with
  | .error _ => none
  | .ok item => (codec.fromSlice item).toOption

/-- `load_peer_chat_messages` on an open database: the messages in key
order, and the database without the records that failed to decode. -/
def loadPeerChatMessages (codec : Codec Message) (storagekey : KeyType)
    (db : ChatDb) : List Message × ChatDb :=
  let toRemove := db.entries.filter fun entry =>
    (decodeRecord P codec storagekey entry.2).isNone
  (db.values.filterMap (decodeRecord P codec storagekey),
    toRemove.foldl (fun tree entry => tree.remove entry.1) db)

/-! ## Contacts under their identities -/

def StoredByIdentity (peers : PeersDir) : Prop :=
  ∀ id peer, loadPeerData P peers id = .ok peer → peer.hash P = id

section Stored

variable {P} {peers : PeersDir}

theorem storedByIdentity_empty : StoredByIdentity P ∅ := by
  intro id peer hload
  simp [loadPeerData] at hload

theorem StoredByIdentity.of_samePubs
    {next : PeersDir} (hstored : StoredByIdentity P peers)
    (hsame : SamePubs peers next) : StoredByIdentity P next := by
  intro id peer hload
  rw [hsame.loadPeerData] at hload
  exact hstored id peer hload

/-- `initialize_peer` writes the keys under the hash of the keys. -/
theorem StoredByIdentity.initializePeer
    (hstored : StoredByIdentity P peers) {contact : PeerPublic}
    (hvalid : P.isVerifyingKey contact.verifying = true) :
    StoredByIdentity P (initializePeer P peers contact) := by
  intro id peer hload
  by_cases hid : id = contact.hash P
  · rw [hid, loadPeerData_initializePeer P peers contact hvalid] at hload
    cases hload
    exact hid.symm
  · unfold loadPeerData at hload
    rw [lookup_initializePeer_ne P peers contact (peerDirName_ne hid)]
      at hload
    exact hstored id peer hload

end Stored

def samplePeers (contact : Keys) : PeersDir :=
  storeChatDb
    (initializePeer Primitives.transparent ∅ contact.publicPart)
    (contact.id Primitives.transparent)
    (Tree.empty.insert (toBeBytes 0) [42])

theorem samplePeers_contact (contact : Keys) :
    loadPeerData Primitives.transparent (samplePeers contact)
      (contact.id Primitives.transparent) = .ok contact.publicPart := by
  unfold samplePeers
  rw [(samePubs_storeChatDb _ _ _).loadPeerData]
  exact loadPeerData_initializePeer Primitives.transparent ∅
    contact.publicPart rfl

theorem samplePeers_storedByIdentity (contact : Keys) :
    StoredByIdentity .transparent (samplePeers contact) :=
  (storedByIdentity_empty.initializePeer rfl).of_samePubs
    (samePubs_storeChatDb _ _ _)

theorem samplePeers_chatDb (contact : Keys) :
    chatDbOf (samplePeers contact) (contact.id Primitives.transparent) =
      some (Tree.empty.insert (toBeBytes 0) [42]) := by
  obtain ⟨db, hlookup⟩ := lookup_initializePeer_self Primitives.transparent
    ∅ contact.publicPart
  exact chatDbOf_storeChatDb hlookup _

end SechatClient
