import SechatClient.GuiApp
import SechatClient.Messenger

/-!
# The store refines the messenger

Whatever the tasks of the client do to the peers directory, and in whatever
order, the directory holds the contacts and the conversations which the
messenger holds.  Identities are hashes of keys; the refinement needs that no
two peers added in the run have the same identity and different keys, and then
every record under an identity is encrypted with the key of that identity.
-/

namespace SechatClient

open ByteStrings OrderedStore StepSystem

/-! ## One step -/

section Refinement

variable {P : Primitives} {messages : Codec Message}
  {blobs : Codec BlobPayload} {keys : Keys} {publicKeyOf : KeyType → KeyType}

/-- The key of the records under an identity. -/
def storageKeyOf (P : Primitives) (keys : Keys)
    (publicKeyOf : KeyType → KeyType) (id : KeyType) : KeyType :=
  loadStorageKey P (publicKeyOf id) keys.x25519Priv

/-- What the handler does where the messenger reads this. -/
def BlobReading.effect (storageKeyOf : KeyType → KeyType) :
    BlobReading → BlobEffect
  | .ignored => .none
  | .message sender msg => .store sender (storageKeyOf sender) msg
  | .purge sender => .wipe sender

theorem blobEffect_eq_read
    {peers : PeersDir} {messenger : Messenger}
    (hcontacts : contactOf P peers = messenger.contacts)
    (hkeys : ∀ id peer, messenger.contacts id = some peer →
      peer.publicKey = publicKeyOf id) (now : Int64) (blob : Bytes) :
    blobEffect P messages blobs peers keys.x25519Priv now blob =
      (messenger.read P messages blobs keys now blob).effect
        (storageKeyOf P keys publicKeyOf) := by
  unfold blobEffect Messenger.read
  cases openBlob P blobs keys.x25519Priv blob with
  | error e => rfl
  | ok payload =>
      simp only [← hcontacts]
      cases hload : loadPeerData P peers payload.senderPubHash with
      | error e =>
          have hunknown : contactOf P peers payload.senderPubHash = none := by
            simp [contactOf, hload, Except.toOption]
          rw [hunknown]
          cases payload with
          | offlineMessage senderPubHash timestamp ciphertext signature =>
              simp only [BlobPayload.senderPubHash] at hload
              by_cases hfresh : blobIsFresh timestamp now <;>
                simp [checkOffline, hload, hfresh, BlobReading.effect]
          | purge senderPubHash signature timestamp =>
              simp only [BlobPayload.senderPubHash] at hload
              by_cases hfresh : blobIsFresh timestamp now <;>
                simp [checkPurge, hload, hfresh, BlobReading.effect]
      | ok contact =>
          have hcontact := contactOf_eq_some_iff.mpr hload
          have hkey := hkeys _ _ (hcontacts ▸ hcontact)
          rw [hcontact]
          cases payload with
          | offlineMessage senderPubHash timestamp ciphertext signature =>
              simp only [BlobPayload.senderPubHash] at hload hkey
              by_cases hfresh : blobIsFresh timestamp now
              · by_cases hsigned : verifySlice P contact.verifying
                    (offlineBytesToVerify ciphertext timestamp) signature
                · simp only [checkOffline, hload, hfresh, hsigned, if_true,
                    BlobPayload.timestamp, BlobPayload.bytesToVerify,
                    BlobPayload.signature, BlobPayload.reading, decodeRecord,
                    hkey, and_self]
                  cases decryptMessageStored P ciphertext
                      (loadStorageKey P (publicKeyOf senderPubHash)
                        keys.x25519Priv) with
                  | error e => rfl
                  | ok plaintext =>
                      simp only
                      cases messages.fromSlice plaintext <;> rfl
                · simp [checkOffline, hload, hfresh, hsigned,
                    BlobReading.effect, BlobPayload.timestamp,
                    BlobPayload.bytesToVerify, BlobPayload.signature]
              · simp [checkOffline, hfresh, BlobReading.effect,
                  BlobPayload.timestamp]
          | purge senderPubHash signature timestamp =>
              simp only [BlobPayload.senderPubHash] at hload
              by_cases hfresh : blobIsFresh timestamp now
              · by_cases hsigned : verifySlice P contact.verifying
                    (purgeBytesToVerify timestamp) signature
                · simp [checkPurge, hload, hfresh, hsigned,
                    BlobReading.effect, BlobPayload.timestamp,
                    BlobPayload.bytesToVerify, BlobPayload.signature,
                    BlobPayload.reading]
                · simp [checkPurge, hload, hfresh, hsigned,
                    BlobReading.effect, BlobPayload.timestamp,
                    BlobPayload.bytesToVerify, BlobPayload.signature]
              · simp [checkPurge, hfresh, BlobReading.effect,
                  BlobPayload.timestamp]

def DirectoryState.apply (state : DirectoryState) :
    BlobEffect → DirectoryState
  | .none => state
  | .store sender storageKey msg =>
      { state with checkedBlob := some (sender, storageKey, msg) }
  | .wipe sender => { state with peers := purgePeerChat state.peers sender }

theorem checkBlob_eq_apply
    (state : DirectoryState) (env : BlobEnv) (blob : Bytes) :
    checkBlob P messages blobs keys state env blob =
      state.apply (blobEffect P messages blobs state.peers keys.x25519Priv
        env.now blob) := by
  unfold checkBlob blobEffect
  cases openBlob P blobs keys.x25519Priv blob with
  | error e => rfl
  | ok payload =>
      cases payload with
      | offlineMessage senderPubHash timestamp ciphertext signature =>
          simp only
          cases checkOffline P messages state.peers keys.x25519Priv env.now
            senderPubHash timestamp ciphertext signature <;> rfl
      | purge senderPubHash signature timestamp =>
          simp only
          cases checkPurge P state.peers env.now senderPubHash signature
            timestamp <;> rfl

/-- The peers whose keys the tasks hold besides the files. -/
def DirectoryState.held (state : DirectoryState) : List PeerPublic :=
  state.cache.map OnlinePeer.keys ++
    (state.attempts ++ (state.sessions ++ state.reading.toList))

theorem held_apply (state : DirectoryState) (effect : BlobEffect) :
    (state.apply effect).held = state.held := by
  cases effect <;> rfl

theorem keys_refreshOnlinePeer
    {hash : KeyType} {ipPort : String} {now : Int64}
    {cache refreshed : List OnlinePeer}
    (hrefresh : refreshOnlinePeer P hash ipPort now cache = some refreshed) :
    refreshed.map OnlinePeer.keys = cache.map OnlinePeer.keys := by
  induction cache generalizing refreshed with
  | nil => contradiction
  | cons existing rest ih =>
      unfold refreshOnlinePeer at hrefresh
      split at hrefresh
      next =>
        cases hrefresh
        rfl
      next =>
        obtain ⟨tail, htail, rfl⟩ := Option.map_eq_some_iff.mp hrefresh
        rw [List.map_cons, List.map_cons, ih htail]

theorem mem_keys_of_appendOnlinePeer
    {peers : PeersDir} {cache next : List OnlinePeer} {hash : KeyType}
    {ipPort : String} {now : Int64}
    (happend : appendOnlinePeer P peers cache hash ipPort now = .ok next)
    {peer : PeerPublic} (hpeer : peer ∈ next.map OnlinePeer.keys) :
    peer ∈ cache.map OnlinePeer.keys ∨ contactOf P peers hash = some peer := by
  unfold appendOnlinePeer at happend
  cases hload : loadPeerData P peers hash with
  | error e => simp [hload] at happend
  | ok contact =>
      simp only [hload, Except.ok.injEq] at happend
      subst happend
      cases hrefresh : refreshOnlinePeer P hash ipPort now cache with
      | some refreshed =>
          rw [hrefresh, Option.getD_some, keys_refreshOnlinePeer hrefresh]
            at hpeer
          exact Or.inl hpeer
      | none =>
          rw [hrefresh, Option.getD_none, List.map_append, List.mem_append]
            at hpeer
          rcases hpeer with hold | hnew
          · exact Or.inl hold
          · rw [List.mem_singleton.mp hnew]
            exact Or.inr (contactOf_eq_some_iff.mpr hload)

theorem mem_keys_or_contact_of_resolvePunchPeer
    {peers : PeersDir} {cache : List OnlinePeer} {hash : KeyType}
    {ipPort : String} {now : Int64} {peer : PeerPublic}
    (hresolve : resolvePunchPeer P peers cache hash ipPort now = some peer) :
    peer ∈ cache.map OnlinePeer.keys ∨ contactOf P peers hash = some peer := by
  unfold resolvePunchPeer at hresolve
  cases hload : loadPeerData P peers hash with
  | ok contact =>
      simp only [hload, Option.some.injEq] at hresolve
      subst hresolve
      exact Or.inr (contactOf_eq_some_iff.mpr hload)
  | error e =>
      simp only [hload] at hresolve
      obtain ⟨online, honline, rfl⟩ := Option.map_eq_some_iff.mp hresolve
      have hcached := List.mem_of_find?_eq_some honline
      exact Or.inl (List.mem_map_of_mem (List.mem_of_mem_filter hcached))

/-- Every peer a task comes to hold was a contact when the task took it. -/
theorem mem_held_of_step
    {state next : DirectoryState} {label : DirectoryLabel}
    (hstep : directoryStep P messages blobs keys state label = some next)
    {peer : PeerPublic} (hpeer : peer ∈ next.held) :
    peer ∈ state.held ∨ ∃ id, contactOf P state.peers id = some peer := by
  cases label with
  | addPeer other =>
      simp only [directoryStep] at hstep
      split at hstep <;>
        (cases hstep; exact Or.inl hpeer)
  | send other text env =>
      simp only [directoryStep] at hstep
      split at hstep <;>
        (cases hstep; exact Or.inl hpeer)
  | purge other =>
      simp only [directoryStep] at hstep
      split at hstep <;>
        (cases hstep; exact Or.inl hpeer)
  | removePeer other =>
      cases hstep
      exact Or.inl hpeer
  | blobChecked env blob =>
      simp only [directoryStep] at hstep
      split at hstep
      next =>
        cases hstep
        rw [checkBlob_eq_apply, held_apply] at hpeer
        exact Or.inl hpeer
      next => contradiction
  | blobStored env =>
      simp only [directoryStep] at hstep
      split at hstep
      next => contradiction
      next =>
        cases hstep
        exact Or.inl hpeer
  | peerOnline hash ipPort now =>
      simp only [directoryStep] at hstep
      split at hstep
      next =>
        cases hstep
        exact Or.inl hpeer
      next cache happend =>
        cases hstep
        rcases List.mem_append.mp hpeer with hcache | hrest
        · rcases mem_keys_of_appendOnlinePeer happend hcache with hold | hnew
          · exact Or.inl (List.mem_append_left _ hold)
          · exact Or.inr ⟨hash, hnew⟩
        · exact Or.inl (List.mem_append_right _ hrest)
  | peerOffline hash =>
      cases hstep
      rcases List.mem_append.mp hpeer with hcache | hrest
      · obtain ⟨online, honline, rfl⟩ := List.mem_map.mp hcache
        exact Or.inl (List.mem_append_left _
          (List.mem_map_of_mem (List.mem_of_mem_filter honline)))
      · exact Or.inl (List.mem_append_right _ hrest)
  | punchHole hash ipPort now =>
      simp only [directoryStep] at hstep
      split at hstep
      next =>
        cases hstep
        exact Or.inl hpeer
      next resolved hresolve =>
        cases hstep
        simp only [DirectoryState.held, List.mem_append,
          List.mem_singleton] at hpeer ⊢
        rcases hpeer with hcache | (hold | rfl) | hrest
        · exact Or.inl (Or.inl hcache)
        · exact Or.inl (Or.inr (Or.inl hold))
        · exact (mem_keys_or_contact_of_resolvePunchPeer hresolve).imp Or.inl
            fun hcontact => ⟨hash, hcontact⟩
        · exact Or.inl (Or.inr (Or.inr hrest))
  | sessionUp other =>
      simp only [directoryStep] at hstep
      split at hstep
      next hattempt =>
        cases hstep
        simp only [DirectoryState.held, List.mem_append,
          List.mem_singleton] at hpeer ⊢
        rcases hpeer with hcache | hattempts | (hold | rfl) | hreading
        · exact Or.inl (Or.inl hcache)
        · exact Or.inl (Or.inr (Or.inl hattempts))
        · exact Or.inl (Or.inr (Or.inr (Or.inl hold)))
        · exact Or.inl (Or.inr (Or.inl hattempt))
        · exact Or.inl (Or.inr (Or.inr (Or.inr hreading)))
      next => contradiction
  | sessionMessage other text timestamp env =>
      simp only [directoryStep] at hstep
      split at hstep
      next =>
        cases hstep
        exact Or.inl hpeer
      next => contradiction
  | historyChecked other =>
      simp only [directoryStep] at hstep
      split at hstep
      next =>
        cases hstep
        exact Or.inl hpeer
      next contact hload =>
        cases hstep
        simp only [DirectoryState.held, List.mem_append, Option.toList_some,
          List.mem_singleton] at hpeer ⊢
        rcases hpeer with hcache | hattempts | hsessions | rfl
        · exact Or.inl (Or.inl hcache)
        · exact Or.inl (Or.inr (Or.inl hattempts))
        · exact Or.inl (Or.inr (Or.inr (Or.inl hsessions)))
        · exact Or.inr ⟨other, contactOf_eq_some_iff.mpr hload⟩
  | historyRead locked =>
      simp only [directoryStep] at hstep
      split at hstep
      next => contradiction
      next =>
        cases hstep
        simp only [DirectoryState.held, List.mem_append, Option.toList_none,
          List.not_mem_nil, or_false] at hpeer ⊢
        tauto

/-- The simulation relation after `count` steps. -/
structure RefinesMessenger (P : Primitives) (messages : Codec Message)
    (keys : Keys) (publicKeyOf : KeyType → KeyType) (count : ℕ)
    (state : DirectoryState) (messenger : Messenger) : Prop where
  contacts : contactOf P state.peers = messenger.contacts
  keyed : ∀ id peer, messenger.contacts id = some peer →
    peer.hash P = id ∧ peer.publicKey = publicKeyOf id
  held : ∀ peer ∈ state.held, peer.publicKey = publicKeyOf (peer.hash P)
  checked : state.checkedBlob = messenger.checked.map fun checked =>
    (checked.1, storageKeyOf P keys publicKeyOf checked.1, checked.2)
  conversations : RefinesConversations P messages
    (storageKeyOf P keys publicKeyOf) count state.peers messenger.conversation

theorem RefinesMessenger.initial :
    RefinesMessenger P messages keys publicKeyOf 0 .initial .initial where
  contacts := rfl
  keyed := by simp [Messenger.initial]
  held := by simp [DirectoryState.held, DirectoryState.initial]
  checked := rfl
  conversations := fun _ => RefinesLog.initial

section Step

variable {count : ℕ} {state next : DirectoryState}
  {messenger after : Messenger} {label : DirectoryLabel}

theorem RefinesMessenger.held_step
    (hrefines : RefinesMessenger P messages keys publicKeyOf count state
      messenger)
    (hstep : directoryStep P messages blobs keys state label = some next)
    (peer : PeerPublic) (hpeer : peer ∈ next.held) :
    peer.publicKey = publicKeyOf (peer.hash P) := by
  rcases mem_held_of_step hstep hpeer with hold | ⟨id, hcontact⟩
  · exact hrefines.held peer hold
  · rw [hrefines.contacts] at hcontact
    obtain ⟨hhash, hkey⟩ := hrefines.keyed id peer hcontact
    rw [hkey, hhash]

/-- A step that keeps the contacts. -/
theorem RefinesMessenger.of_contacts
    (hrefines : RefinesMessenger P messages keys publicKeyOf count state
      messenger)
    (hstep : directoryStep P messages blobs keys state label = some next)
    (hcontacts : contactOf P next.peers = contactOf P state.peers)
    (hsame : after.contacts = messenger.contacts)
    (hchecked : next.checkedBlob = after.checked.map fun checked =>
      (checked.1, storageKeyOf P keys publicKeyOf checked.1, checked.2))
    (hconversations : RefinesConversations P messages
      (storageKeyOf P keys publicKeyOf) (count + 1) next.peers
      after.conversation) :
    RefinesMessenger P messages keys publicKeyOf (count + 1) next after where
  contacts := by rw [hcontacts, hsame, hrefines.contacts]
  keyed := by
    rw [hsame]
    exact hrefines.keyed
  held := hrefines.held_step hstep
  checked := hchecked
  conversations := hconversations

/-- A step that neither the files nor the messenger see. -/
theorem RefinesMessenger.of_peers
    (hrefines : RefinesMessenger P messages keys publicKeyOf count state
      messenger)
    (hstep : directoryStep P messages blobs keys state label = some next)
    (hpeers : next.peers = state.peers)
    (hchecked : next.checkedBlob = state.checkedBlob) :
    RefinesMessenger P messages keys publicKeyOf (count + 1) next messenger :=
  hrefines.of_contacts hstep (by rw [hpeers]) rfl
    (hchecked.trans hrefines.checked)
    (hrefines.conversations.of_records fun _ => by rw [hpeers])

/-- A message stored under the key of its conversation. -/
theorem RefinesMessenger.store
    (haead : P.AeadCorrect) (hround : messages.RoundTrip)
    (hrefines : RefinesMessenger P messages keys publicKeyOf count state
      messenger)
    (hcount : count < 2 ^ 64)
    (hstep : directoryStep P messages blobs keys state label = some next)
    {env : BlobEnv} {id : KeyType} {msg : Message}
    (hpeers : next.peers = (storeInChat P messages env state.peers id
      (storageKeyOf P keys publicKeyOf id) msg).1)
    (hafter : after.conversation =
      (messenger.store env.locked id msg).conversation)
    (hsame : after.contacts = messenger.contacts)
    (hchecked : next.checkedBlob = after.checked.map fun checked =>
      (checked.1, storageKeyOf P keys publicKeyOf checked.1, checked.2)) :
    RefinesMessenger P messages keys publicKeyOf (count + 1) next after := by
  have hconversation : after.conversation =
      if env.locked then messenger.conversation
      else Function.update messenger.conversation id
        (messenger.conversation id ++ [msg]) := by
    rw [hafter, Messenger.store]
    split <;> rfl
  apply hrefines.of_contacts hstep _ hsame hchecked
  · rw [hpeers, hconversation]
    exact hrefines.conversations.store haead hround hcount env id msg
  · rw [hpeers]
    exact funext fun _ => contactOf_storeInChat env _ msg

/-- A wiped conversation of a contact, whoever asked for it. -/
theorem RefinesMessenger.clear
    (hrefines : RefinesMessenger P messages keys publicKeyOf count state
      messenger)
    (hstep : directoryStep P messages blobs keys state label = some next)
    {id : KeyType} (hpeers : next.peers = purgePeerChat state.peers id)
    (hchecked : next.checkedBlob = state.checkedBlob) :
    RefinesMessenger P messages keys publicKeyOf (count + 1) next
      (messenger.clear id) := by
  have hcontacts : contactOf P next.peers = contactOf P state.peers := by
    rw [hpeers]
    exact funext fun _ => contactOf_purgePeerChat
  have hcleared := hrefines.conversations.clear
    (chatRecords_purgePeerChat_self state.peers id)
    fun _ hne => chatRecords_purgePeerChat_ne _ hne
  rw [← hpeers] at hcleared
  exact hrefines.of_contacts hstep hcontacts rfl
    (hchecked.trans hrefines.checked) hcleared

theorem RefinesMessenger.addPeer
    (hrefines : RefinesMessenger P messages keys publicKeyOf count state
      messenger) {peer : PeerPublic}
    (hvalid : P.isVerifyingKey peer.verifying = true)
    (hkey : peer.publicKey = publicKeyOf (peer.hash P))
    (hstep : directoryStep P messages blobs keys state (.addPeer peer) =
      some next) :
    RefinesMessenger P messages keys publicKeyOf (count + 1) next
      (messenger.next P messages blobs keys (.addPeer peer)) := by
  have hheld := hrefines.held_step hstep
  simp only [directoryStep, if_pos hvalid, Option.some.injEq] at hstep
  subst hstep
  simp only [Messenger.next, if_pos hvalid]
  refine ⟨?_, ?_, hheld, hrefines.checked,
    hrefines.conversations.of_records fun id =>
      chatRecords_of_chatDbOf_eq (chatDbOf_initializePeer peer)⟩
  · rw [contactOf_initializePeer hvalid, hrefines.contacts]
  · intro id other hother
    by_cases hid : id = peer.hash P
    · subst hid
      simp only [Function.update_self, Option.some.injEq] at hother
      subst hother
      exact ⟨rfl, hkey⟩
    · simp only [Function.update_of_ne hid] at hother
      exact hrefines.keyed id other hother

theorem RefinesMessenger.removePeer
    (hrefines : RefinesMessenger P messages keys publicKeyOf count state
      messenger) {id : KeyType}
    (hstep : directoryStep P messages blobs keys state (.removePeer id) =
      some next) :
    RefinesMessenger P messages keys publicKeyOf (count + 1) next
      (messenger.next P messages blobs keys (.removePeer id)) := by
  have hheld := hrefines.held_step hstep
  simp only [directoryStep, Option.some.injEq] at hstep
  subst hstep
  refine ⟨?_, ?_, hheld, hrefines.checked,
    hrefines.conversations.clear chatRecords_deletePeer_self
      fun _ hne => chatRecords_deletePeer_ne hne⟩
  · rw [contactOf_deletePeer, hrefines.contacts]
    rfl
  · intro other peer hpeer
    by_cases hother : other = id
    · subst hother
      simp [Messenger.next] at hpeer
    · simp only [Messenger.next, Function.update_of_ne hother] at hpeer
      exact hrefines.keyed other peer hpeer

/-- What one step keeps, whichever task takes it. -/
theorem RefinesMessenger.step
    (haead : P.AeadCorrect) (hround : messages.RoundTrip)
    (hrefines : RefinesMessenger P messages keys publicKeyOf count state
      messenger)
    (hcount : count < 2 ^ 64)
    (hkey : ∀ peer, label = .addPeer peer →
      P.isVerifyingKey peer.verifying = true →
      peer.publicKey = publicKeyOf (peer.hash P))
    (hstep : directoryStep P messages blobs keys state label = some next) :
    RefinesMessenger P messages keys publicKeyOf (count + 1) next
      (messenger.next P messages blobs keys label) := by
  have hmoved := hstep
  cases label with
  | addPeer peer =>
      by_cases hvalid : P.isVerifyingKey peer.verifying = true
      · exact hrefines.addPeer hvalid (hkey peer rfl hvalid) hstep
      · simp only [directoryStep, if_neg hvalid, Option.some.injEq] at hmoved
        subst hmoved
        simp only [Messenger.next, if_neg hvalid]
        exact hrefines.of_peers hstep rfl rfl
  | send peer text env =>
      simp only [directoryStep] at hmoved
      split at hmoved
      next e hload =>
        cases hmoved
        have hunknown : messenger.contacts peer = none := by
          rw [← hrefines.contacts]
          simp [contactOf, hload, Except.toOption]
        simp only [Messenger.next, hunknown]
        exact hrefines.of_peers hstep rfl rfl
      next contact hload =>
        cases hmoved
        have hknown : messenger.contacts peer = some contact := by
          rw [← hrefines.contacts]
          exact contactOf_eq_some_iff.mpr hload
        obtain ⟨-, hpublic⟩ := hrefines.keyed peer contact hknown
        simp only [Messenger.next, hknown, Option.isSome_some, if_true]
        have hpeers : (persistMessage P messages keys env state.peers contact
            peer text .you env.now).1 =
              (storeInChat P messages env state.peers peer
                (storageKeyOf P keys publicKeyOf peer)
                ⟨.you, text, env.now⟩).1 := by
          rw [persistMessage, hpublic, storageKeyOf]
        exact hrefines.store haead hround hcount hstep hpeers rfl
          (Messenger.contacts_store _ _ _ _)
          (by rw [Messenger.checked_store]; exact hrefines.checked)
  | purge peer =>
      simp only [directoryStep] at hmoved
      split at hmoved
      next e hload =>
        cases hmoved
        have hunknown : messenger.contacts peer = none := by
          rw [← hrefines.contacts]
          simp [contactOf, hload, Except.toOption]
        simp only [Messenger.next, hunknown]
        exact hrefines.of_peers hstep rfl rfl
      next contact hload =>
        cases hmoved
        have hknown : messenger.contacts peer = some contact := by
          rw [← hrefines.contacts]
          exact contactOf_eq_some_iff.mpr hload
        simp only [Messenger.next, hknown, Option.isSome_some, if_true]
        exact hrefines.clear hstep rfl rfl
  | removePeer peer => exact hrefines.removePeer hstep
  | blobChecked env blob =>
      simp only [directoryStep] at hmoved
      split at hmoved
      next hnone =>
        rw [checkBlob_eq_apply, blobEffect_eq_read hrefines.contacts
          (fun id peer hpeer => (hrefines.keyed id peer hpeer).2),
          Option.some.injEq] at hmoved
        simp only [Messenger.next]
        cases hread : messenger.read P messages blobs keys env.now blob with
        | ignored =>
            rw [hread] at hmoved
            cases hmoved
            exact hrefines.of_peers hstep rfl rfl
        | message sender msg =>
            rw [hread] at hmoved
            cases hmoved
            exact hrefines.of_contacts hstep rfl rfl rfl
              (hrefines.conversations.of_records fun _ => rfl)
        | purge sender =>
            rw [hread] at hmoved
            cases hmoved
            exact hrefines.clear hstep rfl rfl
      next => contradiction
  | blobStored env =>
      have hchecked := hrefines.checked
      simp only [directoryStep, Messenger.next] at hmoved ⊢
      cases hmine : messenger.checked with
      | none =>
          rw [hmine, Option.map_none] at hchecked
          simp [hchecked] at hmoved
      | some checked =>
          obtain ⟨sender, msg⟩ := checked
          rw [hmine, Option.map_some] at hchecked
          simp only [hchecked, Option.some.injEq] at hmoved
          subst hmoved
          exact hrefines.store haead hround hcount hstep rfl rfl
            (Messenger.contacts_store _ _ _ _) rfl
  | peerOnline hash ipPort now =>
      simp only [directoryStep] at hmoved
      split at hmoved <;>
        (cases hmoved; exact hrefines.of_peers hstep rfl rfl)
  | peerOffline hash =>
      cases hmoved
      exact hrefines.of_peers hstep rfl rfl
  | punchHole hash ipPort now =>
      simp only [directoryStep] at hmoved
      split at hmoved <;>
        (cases hmoved; exact hrefines.of_peers hstep rfl rfl)
  | sessionUp peer =>
      simp only [directoryStep] at hmoved
      split at hmoved
      next =>
        cases hmoved
        exact hrefines.of_peers hstep rfl rfl
      next => contradiction
  | sessionMessage peer text timestamp env =>
      simp only [directoryStep] at hmoved
      split at hmoved
      next hsession =>
        cases hmoved
        have hheld : peer ∈ state.held := by
          simp [DirectoryState.held, hsession]
        have hpeers : (persistMessage P messages keys env state.peers peer
            (peer.hash P) text .peer timestamp).1 =
              (storeInChat P messages env state.peers (peer.hash P)
                (storageKeyOf P keys publicKeyOf (peer.hash P))
                ⟨.peer, text, timestamp⟩).1 := by
          rw [persistMessage, hrefines.held peer hheld, storageKeyOf]
        exact hrefines.store haead hround hcount hstep hpeers rfl
          (Messenger.contacts_store _ _ _ _)
          (by rw [Messenger.next, Messenger.checked_store]
              exact hrefines.checked)
      next => contradiction
  | historyChecked peer =>
      simp only [directoryStep] at hmoved
      split at hmoved <;>
        (cases hmoved; exact hrefines.of_peers hstep rfl rfl)
  | historyRead locked =>
      simp only [directoryStep] at hmoved
      split at hmoved
      next => contradiction
      next peer hreading =>
        cases hmoved
        have hheld : peer ∈ state.held := by
          simp [DirectoryState.held, hreading]
        have hkeyed : loadStorageKey P peer.publicKey keys.x25519Priv =
            storageKeyOf P keys publicKeyOf (peer.hash P) := by
          rw [hrefines.held peer hheld, storageKeyOf]
        exact hrefines.of_contacts hstep
          (funext fun _ => contactOf_readHistory keys locked peer) rfl
          hrefines.checked (hrefines.conversations.readHistory hkeyed locked)

/-! ## What the user is shown -/

theorem RefinesMessenger.loadPeerData_iff
    (hrefines : RefinesMessenger P messages keys publicKeyOf count state
      messenger) (id : KeyType) (peer : PeerPublic) :
    loadPeerData P state.peers id = .ok peer ↔
      messenger.contacts id = some peer := by
  rw [← hrefines.contacts]
  exact contactOf_eq_some_iff.symm

theorem RefinesMessenger.history
    (hrefines : RefinesMessenger P messages keys publicKeyOf count state
      messenger) {id : KeyType} {peer : PeerPublic}
    (hpeer : messenger.contacts id = some peer) {view : StoreView}
    (hview : view.peers = state.peers) (hfree : view.locked = false) :
    Client.history P messages ⟨keys⟩ view id =
      .ok ((messenger.conversation id).map Message.line) := by
  have hload := (hrefines.loadPeerData_iff id peer).mpr hpeer
  obtain ⟨hhash, hkey⟩ := hrefines.keyed id peer hpeer
  simp only [Client.history, hview, hload, hhash, hkey]
  cases hopen : loadPeerChatFile view.locked state.peers id with
  | error e =>
      have hlocked := loadPeerChatFile_eq_error hopen
      rw [hfree] at hlocked
      contradiction
  | ok result =>
      obtain ⟨opened, db⟩ := result
      obtain ⟨-, hdb, -⟩ := loadPeerChatFile_eq_ok hopen
      have hlog := (hrefines.conversations id).log
      simp only [hdb, loadPeerChatMessages_messages]
      exact congrArg (fun log => Except.ok (List.map Message.line log)) hlog

end Step

end Refinement

/-! ## Runs -/

/-- Whatever the tasks did and in whatever order, the contacts which the
directory holds are the messenger's, and reading the history of a contact
shows the messenger's conversation.  `add_peer` and each command are one step;
handling a blob and reading a history are two. -/
theorem directory_refines_messenger
    {P : Primitives} {messages : Codec Message} (haead : P.AeadCorrect)
    (hround : messages.RoundTrip) (blobs : Codec BlobPayload) (keys : Keys)
    (publicKeyOf : KeyType → KeyType) {labels : List DirectoryLabel}
    (hlength : labels.length < 2 ^ 64)
    (hkeys : ∀ peer, .addPeer peer ∈ labels →
      P.isVerifyingKey peer.verifying = true →
      peer.publicKey = publicKeyOf (peer.hash P))
    {state : DirectoryState}
    (hrun : runFrom (directoryStep P messages blobs keys) .initial labels =
      some state) :
    let messenger := messengerAfter P messages blobs keys labels
    (∀ id peer, loadPeerData P state.peers id = .ok peer ↔
      messenger.contacts id = some peer) ∧
    ∀ id peer, messenger.contacts id = some peer →
      ∀ view : StoreView, view.peers = state.peers → view.locked = false →
        Client.history P messages ⟨keys⟩ view id =
          .ok ((messenger.conversation id).map Message.line) := by
  have hrefines : RefinesMessenger P messages keys publicKeyOf
      (0 + labels.length) state
      (messengerAfter P messages blobs keys labels) :=
    runFrom_simulates
      (fun label hlabel _ _ _ _ hcount hrefines hstep =>
        hrefines.step haead hround hcount
          (fun peer hpeer => hkeys peer (hpeer ▸ hlabel)) hstep)
      (by omega) RefinesMessenger.initial hrun
  exact ⟨hrefines.loadPeerData_iff, fun id peer hpeer view hview hfree =>
    hrefines.history hpeer hview hfree⟩

/-! ## A run -/

/-- A contact is added, removed and added again, with a message each time. -/
def sampleConversation : List DirectoryLabel :=
  [.addPeer (sampleKeys 1).publicPart,
    .send ((sampleKeys 1).id .transparent) "hi" sampleEnv,
    .historyChecked ((sampleKeys 1).id .transparent),
    .removePeer ((sampleKeys 1).id .transparent),
    .historyRead false,
    .addPeer (sampleKeys 1).publicPart,
    .send ((sampleKeys 1).id .transparent) "again" sampleEnv]

theorem sampleConversation_runs :
    ∃ state, runFrom (directoryStep .transparent transparentMessages
        transparentBlobs (sampleKeys 3)) .initial sampleConversation =
      some state :=
  ⟨_, rfl⟩

theorem sampleConversation_messenger :
    let messenger := messengerAfter .transparent transparentMessages
      transparentBlobs (sampleKeys 3) sampleConversation
    messenger.contacts ((sampleKeys 1).id .transparent) =
        some (sampleKeys 1).publicPart ∧
      messenger.conversation ((sampleKeys 1).id .transparent) =
        [⟨.you, "again", 1000⟩] :=
  ⟨rfl, rfl⟩

/-- The history shows the message since the removal, although a read checked
before recreates the directory behind it. -/
theorem sample_conversation_shown :
    ∃ state, runFrom (directoryStep .transparent transparentMessages
        transparentBlobs (sampleKeys 3)) .initial sampleConversation =
          some state ∧
      Client.history .transparent transparentMessages ⟨sampleKeys 3⟩
        ⟨state.peers, [], 1000, fun _ => none, false⟩
        ((sampleKeys 1).id .transparent) = .ok [⟨true, "again", 1000⟩] := by
  obtain ⟨state, hrun⟩ := sampleConversation_runs
  obtain ⟨hcontact, hmessages⟩ := sampleConversation_messenger
  have hkeys : ∀ peer, .addPeer peer ∈ sampleConversation →
      Primitives.transparent.isVerifyingKey peer.verifying = true →
      peer.publicKey = (sampleKeys 1).x25519Pub := by
    intro peer hpeer _
    simp only [sampleConversation, List.mem_cons, DirectoryLabel.addPeer.injEq,
      reduceCtorEq, List.not_mem_nil, or_false, false_or] at hpeer
    rcases hpeer with rfl | rfl <;> rfl
  have hhistory := (directory_refines_messenger transparent_aeadCorrect
    transparentMessages_roundTrip transparentBlobs (sampleKeys 3)
    (fun _ => (sampleKeys 1).x25519Pub) (by decide) hkeys hrun).2 _ _ hcontact
    ⟨state.peers, [], 1000, fun _ => none, false⟩ rfl rfl
  rw [hmessages] at hhistory
  exact ⟨state, hrun, hhistory⟩

end SechatClient
