import SechatClient.BlobAgreement
import SechatClient.CommandHandling

/-!
# Two clients and a mailbox

While no session between two clients is live, what one of them sends goes
through the server channel and the mailbox of the relay to the blob handler of
the other, and so does what a purge asks for.  The relay is taken to keep the
order and to lose nothing.  Then the conversation of the recipient follows that
of the sender: it lacks exactly what is still underway.
-/

namespace SechatClient

open ByteStrings OrderedStore StepSystem

/-! ## The two clients -/

/-- A client with its command loop and its other tasks. -/
structure RunningClient extends CommandLoop, DirectoryState

namespace RunningClient

def afterCommand (loop : CommandLoop) (client : RunningClient) :
    RunningClient :=
  { client with toCommandLoop := loop }

def afterTask (next : DirectoryState) (client : RunningClient) :
    RunningClient :=
  { client with
    peers := next.peers
    contacts := next.contacts
    cache := next.cache
    attempts := next.attempts
    sessions := next.sessions
    checkedBlob := next.checkedBlob
    reading := next.reading }

def afterSend (server : ServerChannel) (client : RunningClient) :
    RunningClient :=
  { client with server := server }

/-- A loop that adds nothing to the cache leaves the keys that are held. -/
theorem held_afterCommand {client : RunningClient} {loop : CommandLoop}
    (hcache : ∀ online ∈ loop.cache, online ∈ client.cache)
    (peer : PeerPublic)
    (hpeer : peer ∈ (client.afterCommand loop).toDirectoryState.held) :
    peer ∈ client.toDirectoryState.held := by
  simp only [DirectoryState.held, List.mem_append] at hpeer ⊢
  refine hpeer.imp_left fun honline => ?_
  obtain ⟨online, hmem, rfl⟩ := List.mem_map.mp honline
  exact List.mem_map_of_mem (hcache online hmem)

end RunningClient

/-- A blob on its way, with the time its message was issued. -/
structure Parcel where
  issued : Int64
  blob : Bytes

def ClientToServer.parcelFor (id : KeyType) (msg : ClientToServer) :
    Option Parcel :=
  match msg.payload with
  | .sendBlob recipientHash blob =>
      if recipientHash = id then some ⟨msg.timestamp, blob⟩ else none
  | _ => none

structure Exchange where
  mine : RunningClient
  mailbox : List Parcel
  theirs : DirectoryState

/-- `forwarded` takes the next message of the server channel to the relay,
`delivered` the next blob of the mailbox to the recipient's handler. -/
inductive ExchangeLabel where
  | command (env : LoopEnv) (cmd : Command)
  | myTask (label : DirectoryLabel)
  | forwarded
  | delivered (env : BlobEnv)
  | theirTask (label : DirectoryLabel)

section Steps

variable (P : Primitives) (messages : Codec Message)
  (blobs : Codec BlobPayload) (sender target : Keys)

def exchangeStep (state : Exchange) : ExchangeLabel → Option Exchange
  | .command env cmd =>
      (handleCommand P messages blobs sender env state.mine.toCommandLoop
        cmd).map fun result =>
          { state with mine := state.mine.afterCommand result.loop }
  | .myTask label =>
      (directoryStep P messages blobs sender state.mine.toDirectoryState
        label).map fun next => { state with mine := state.mine.afterTask next }
  | .forwarded =>
      state.mine.server.queue.recv.map fun received =>
        { state with
          mine := state.mine.afterSend
            ⟨state.mine.server.isOpen, received.2⟩
          mailbox := state.mailbox ++
            (received.1.parcelFor (target.id P)).toList }
  | .delivered env =>
      match state.mailbox with
      | [] => none
      | parcel :: rest =>
          (directoryStep P messages blobs target state.theirs
            (.blobChecked env parcel.blob)).map fun next =>
              { state with theirs := next, mailbox := rest }
  | .theirTask label =>
      (directoryStep P messages blobs target state.theirs label).map
        fun next => { state with theirs := next }

/-- The blobs for the recipient that are underway. -/
def Exchange.underway (state : Exchange) : List Parcel :=
  state.mailbox ++
    state.mine.server.queue.items.filterMap
      (ClientToServer.parcelFor (target.id P))

/-! ## Runs that are not disturbed -/

/-- The sender's other tasks receive no purge from the recipient.  Sending,
purging and removing are commands. -/
def KeepsSent : DirectoryLabel → Prop
  | .send _ _ _ => False
  | .purge _ => False
  | .removePeer _ => False
  | .blobChecked _ blob =>
      ∀ signature timestamp, openBlob P blobs sender.x25519Priv blob ≠
        .ok (.purge (target.id P) signature timestamp)
  | _ => True

/-- The recipient keeps the sender as a contact and does not delete the
conversation, its other blobs and its session messages come from others, and
its database is free when a checked message is stored. -/
def KeepsReceived : DirectoryLabel → Prop
  | .addPeer peer => peer.hash P = sender.id P → peer = sender.publicPart
  | .purge peer => peer ≠ sender.id P
  | .removePeer peer => peer ≠ sender.id P
  | .blobChecked _ blob =>
      ∀ payload, openBlob P blobs target.x25519Priv blob = .ok payload →
        payload.senderPubHash ≠ sender.id P
  | .blobStored env => env.locked = false
  | .sessionMessage peer _ _ _ => peer.hash P ≠ sender.id P
  | _ => True

/-- Commands find room in the server channel and the sender's database free,
none removes the recipient, and a blob is delivered while it is fresh. -/
def PairingKept (state : Exchange) : ExchangeLabel → Prop
  | .command env cmd =>
      cmd ≠ .removePeer (target.id P) ∧ env.locked = false ∧
        state.mine.server.queue.items.length +
          (commandMessages P messages blobs sender env
            state.mine.toCommandLoop cmd).length ≤ 100
  | .myTask label => KeepsSent P blobs sender target label
  | .forwarded => True
  | .delivered env =>
      ∀ parcel ∈ state.mailbox.head?, blobIsFresh parcel.issued env.now = true
  | .theirTask label => KeepsReceived P blobs sender target label

/-- The directory steps of a label, of either client. -/
def ExchangeLabel.task : ExchangeLabel → Option DirectoryLabel
  | .myTask label => some label
  | .theirTask label => some label
  | _ => none

end Steps

/-! ## What a parcel asks for -/

inductive ParcelOp where
  | text (text : String)
  | wipe

/-- The texts of a conversation after the parcels have taken effect. -/
def replayParcels (texts : List String) (ops : List ParcelOp) : List String :=
  ops.foldl (fun texts op =>
    match op with
    | .text text => texts ++ [text]
    | .wipe => []) texts

theorem replay_append (texts : List String) (first second : List ParcelOp) :
    replayParcels texts (first ++ second) = replayParcels (replayParcels texts first) second := by
  simp [replayParcels]

/-- The parcel is what the sender's client issues to ask for `op`. -/
def Issued (P : Primitives) (messages : Codec Message)
    (blobs : Codec BlobPayload) (sender target : Keys) (parcel : Parcel) :
    ParcelOp → Prop
  | .text text =>
      ∃ storedNonce cipher ephSecret nonce,
        encryptMessageStored P messages ⟨.you, text, parcel.issued⟩
            (loadStorageKey P target.x25519Pub sender.x25519Priv)
            storedNonce = .ok cipher ∧
          parcel.blob = encryptBlob P target.x25519Pub
            (blobs.bytesOf (.offlineMessage (sender.id P) parcel.issued cipher
              (P.sign sender.ed25519Signing
                (offlineBytesToSign cipher parcel.issued)).toList))
            ephSecret nonce
  | .wipe =>
      ∃ ephSecret nonce,
        parcel.blob = encryptBlob P target.x25519Pub
          (blobs.bytesOf (.purge (sender.id P)
            (P.sign sender.ed25519Signing
              (purgeBytesToSign parcel.issued)).toList parcel.issued))
          ephSecret nonce

/-- What a command asks the recipient for. -/
def Command.parcelOps (id : KeyType) : Command → List ParcelOp
  | .send peer text => if peer = id then [.text text] else []
  | .purge peer => if peer = id then [.wipe] else []
  | _ => []

/-- What of it goes through the mailbox: a text does unless there is a session,
and nothing is sent to an unknown peer. -/
def Command.mailedOps (known live : Bool) (id : KeyType) :
    Command → List ParcelOp
  | .send peer text =>
      if peer = id ∧ known = true ∧ live = false then [.text text] else []
  | .purge peer => if peer = id ∧ known = true then [.wipe] else []
  | _ => []

/-! ## Texts of a conversation -/

namespace Messenger

/-- The texts of one author in a conversation. -/
def textsBy (author : Author) (id : KeyType) (messenger : Messenger) :
    List String :=
  ((messenger.conversation id).filter fun msg =>
    msg.author = author).map Message.text

/-- The text of a checked message which is still to be stored. -/
def pending (id : KeyType) (messenger : Messenger) : List String :=
  match messenger.checked with
  | some (sender, msg) => if sender = id then [msg.text] else []
  | none => []

variable {messenger : Messenger} {author : Author} {id other : KeyType}

theorem textsBy_store (locked : Bool) (msg : Message) :
    (messenger.store locked other msg).textsBy author id =
      messenger.textsBy author id ++
        if locked = false ∧ other = id ∧ msg.author = author then [msg.text]
        else [] := by
  cases locked with
  | true => simp [store]
  | false =>
      by_cases hother : other = id
      · subst hother
        by_cases hauthor : msg.author = author <;>
          simp [store, textsBy, hauthor]
      · simp [store, textsBy, Function.update_of_ne (Ne.symm hother), hother]

theorem textsBy_store_of_ne (locked : Bool) {msg : Message}
    (hne : other ≠ id ∨ msg.author ≠ author) :
    (messenger.store locked other msg).textsBy author id =
      messenger.textsBy author id := by
  rw [textsBy_store, if_neg, List.append_nil]
  tauto

theorem textsBy_clear_self :
    (messenger.clear id).textsBy author id = [] := by
  simp [clear, textsBy]

theorem textsBy_clear_of_ne (hne : other ≠ id) :
    (messenger.clear other).textsBy author id =
      messenger.textsBy author id := by
  simp [clear, textsBy, Function.update_of_ne (Ne.symm hne)]

/-- What reads the conversation of one identity and nothing else. -/
theorem textsBy_congr {next : Messenger}
    (hsame : next.conversation id = messenger.conversation id) :
    next.textsBy author id = messenger.textsBy author id := by
  rw [textsBy, textsBy, hsame]

end Messenger

/-! ## What is read of a blob -/

section Readings

variable {P : Primitives} {messages : Codec Message}
  {blobs : Codec BlobPayload} {keys : Keys} {messenger : Messenger}
  {now : Int64} {blob : Bytes}

theorem read_eq_ignored_or_reading :
    messenger.read P messages blobs keys now blob = .ignored ∨
      ∃ payload contact, openBlob P blobs keys.x25519Priv blob = .ok payload ∧
        messenger.read P messages blobs keys now blob =
          payload.reading P messages keys contact := by
  unfold Messenger.read
  cases openBlob P blobs keys.x25519Priv blob with
  | error e => exact Or.inl rfl
  | ok payload =>
      cases hcontact : messenger.contacts payload.senderPubHash with
      | none =>
          left
          simp only [hcontact]
      | some contact =>
          simp only [hcontact]
          split
          next => exact Or.inr ⟨payload, contact, rfl, rfl⟩
          next => exact Or.inl rfl

theorem read_eq_message
    {id : KeyType} {msg : Message}
    (hread : messenger.read P messages blobs keys now blob =
      .message id msg) :
    msg.author = .peer ∧
      ∃ payload, openBlob P blobs keys.x25519Priv blob = .ok payload ∧
        payload.senderPubHash = id := by
  rcases read_eq_ignored_or_reading (P := P) with
    hignored | ⟨payload, contact, hopen, hreading⟩
  · rw [hread] at hignored
    contradiction
  · rw [hread] at hreading
    cases payload with
    | offlineMessage senderPubHash timestamp ciphertext signature =>
        simp only [BlobPayload.reading] at hreading
        split at hreading
        next => contradiction
        next =>
          cases hreading
          exact ⟨rfl, _, hopen, rfl⟩
    | purge => contradiction

theorem read_eq_purge
    {id : KeyType}
    (hread : messenger.read P messages blobs keys now blob = .purge id) :
    ∃ signature timestamp, openBlob P blobs keys.x25519Priv blob =
      .ok (.purge id signature timestamp) := by
  rcases read_eq_ignored_or_reading (P := P) with
    hignored | ⟨payload, contact, hopen, hreading⟩
  · rw [hread] at hignored
    contradiction
  · rw [hread] at hreading
    cases payload with
    | offlineMessage senderPubHash timestamp ciphertext signature =>
        simp only [BlobPayload.reading] at hreading
        split at hreading <;> contradiction
    | purge =>
        cases hreading
        exact ⟨_, _, hopen⟩

theorem Messenger.contacts_blobChecked (env : BlobEnv) (blob : Bytes) :
    (messenger.next P messages blobs keys (.blobChecked env blob)).contacts =
      messenger.contacts := by
  simp only [Messenger.next]
  split <;> rfl

/-- A checked message is one of a peer. -/
def Messenger.Authored (messenger : Messenger) : Prop :=
  ∀ id msg, messenger.checked = some (id, msg) → msg.author = .peer

theorem Messenger.Authored.next
    (hauthored : messenger.Authored) (label : DirectoryLabel) :
    (messenger.next P messages blobs keys label).Authored := by
  intro id msg hchecked
  cases label with
  | addPeer peer =>
      simp only [Messenger.next] at hchecked
      split at hchecked <;> exact hauthored id msg hchecked
  | send peer text env =>
      simp only [Messenger.next] at hchecked
      split at hchecked
      next =>
        rw [checked_store] at hchecked
        exact hauthored id msg hchecked
      next => exact hauthored id msg hchecked
  | purge peer =>
      simp only [Messenger.next] at hchecked
      split at hchecked <;> exact hauthored id msg hchecked
  | removePeer peer => exact hauthored id msg hchecked
  | blobChecked env blob =>
      simp only [Messenger.next] at hchecked
      cases hread : messenger.read P messages blobs keys env.now blob with
      | ignored =>
          rw [hread] at hchecked
          exact hauthored id msg hchecked
      | message other read =>
          rw [hread] at hchecked
          cases hchecked
          exact (read_eq_message hread).1
      | purge other =>
          rw [hread] at hchecked
          exact hauthored id msg hchecked
  | blobStored env =>
      simp only [Messenger.next] at hchecked
      cases hmine : messenger.checked with
      | none =>
          rw [hmine] at hchecked
          exact hauthored id msg hchecked
      | some checked =>
          rw [hmine] at hchecked
          contradiction
  | sessionMessage peer text timestamp env =>
      rw [Messenger.next, checked_store] at hchecked
      exact hauthored id msg hchecked
  | peerOnline | peerOffline | punchHole | sessionUp | historyChecked
  | historyRead => exact hauthored id msg hchecked

theorem Messenger.Authored.afterCommand
    (hauthored : messenger.Authored) (env : LoopEnv) (cmd : Command) :
    (messenger.afterCommand P messages blobs keys env cmd).Authored := by
  unfold Messenger.afterCommand
  cases cmd.directoryLabel env with
  | none => exact hauthored
  | some label => exact hauthored.next label

end Readings

/-! ## The sender -/

section Sender

variable {P : Primitives} {messages : Codec Message}
  {blobs : Codec BlobPayload} {sender target : Keys} {messenger : Messenger}

/-- The sender's other tasks neither write nor delete what the sender sent. -/
theorem sent_next_of_keepsSent
    {label : DirectoryLabel}
    (hkeeps : KeepsSent P blobs sender target label)
    (hauthored : messenger.Authored) :
    (messenger.next P messages blobs sender label).textsBy .you
        (target.id P) =
      messenger.textsBy .you (target.id P) := by
  cases label with
  | send peer text env => exact absurd hkeeps id
  | purge peer => exact absurd hkeeps id
  | removePeer peer => exact absurd hkeeps id
  | addPeer peer =>
      simp only [Messenger.next]
      split <;> rfl
  | blobChecked env blob =>
      simp only [Messenger.next]
      cases hread : messenger.read P messages blobs sender env.now blob with
      | ignored => rfl
      | message other msg => rfl
      | purge other =>
          apply Messenger.textsBy_clear_of_ne
          rintro rfl
          obtain ⟨signature, timestamp, hopen⟩ := read_eq_purge hread
          exact hkeeps signature timestamp hopen
  | blobStored env =>
      simp only [Messenger.next]
      cases hchecked : messenger.checked with
      | none => rfl
      | some checked =>
          obtain ⟨id, msg⟩ := checked
          have hauthor := hauthored id msg hchecked
          exact Messenger.textsBy_store_of_ne env.locked
            (Or.inr (by simp [hauthor]))
  | sessionMessage peer text timestamp env =>
      exact Messenger.textsBy_store_of_ne env.locked (Or.inr (by simp))
  | peerOnline | peerOffline | punchHole | sessionUp | historyChecked
  | historyRead => rfl

variable {publicKeyOf : KeyType → KeyType} {env : LoopEnv}
  {loop : CommandLoop}

theorem parcelFor_sendBlob_self (id : KeyType) (blob : Bytes) (now : Int64) :
    (ClientToServer.new (.sendBlob id blob) none now).parcelFor id =
      some ⟨now, blob⟩ := by
  simp [ClientToServer.parcelFor, ClientToServer.new]

theorem parcelFor_sendBlob_of_ne
    {id other : KeyType} (hne : other ≠ id) (blob : Bytes) (now : Int64) :
    (ClientToServer.new (.sendBlob other blob) none now).parcelFor id =
      none := by
  simp [ClientToServer.parcelFor, ClientToServer.new, hne]

variable (env) in
/-- The parcels of a command are what it asks the recipient for by mail. -/
theorem commandMessages_mailed
    (hround : messages.RoundTrip) (hblobs : blobs.RoundTrip)
    (hsender : sender.Genuine P)
    (hcontacts : contactOf P loop.peers = messenger.contacts)
    (hkeyed : ∀ id peer, messenger.contacts id = some peer →
      peer.hash P = id ∧ peer.publicKey = publicKeyOf id)
    (htarget : publicKeyOf (target.id P) = target.x25519Pub) (cmd : Command) :
    List.Forall₂ (Issued P messages blobs sender target)
      ((commandMessages P messages blobs sender env loop cmd).filterMap
        (ClientToServer.parcelFor (target.id P)))
      (cmd.mailedOps (messenger.contacts (target.id P)).isSome
        (loop.sessionMap (target.id P)).isSome (target.id P)) := by
  cases cmd with
  | connect | setServer | shutdown | removePeer => exact List.Forall₂.nil
  | announceNow =>
      have hnone : (commandMessages P messages blobs sender env loop
          .announceNow).filterMap (ClientToServer.parcelFor (target.id P)) =
            [] := by
        rw [List.filterMap_eq_nil_iff]
        intro msg hmsg
        simp only [commandMessages] at hmsg
        cases haddress : loop.myAddress with
        | none => simp [haddress] at hmsg
        | some address =>
            simp only [haddress, List.mem_map] at hmsg
            obtain ⟨peer, -, rfl⟩ := hmsg
            rfl
      rw [hnone]
      exact List.Forall₂.nil
  | purge peer =>
      simp only [commandMessages, hcontacts, Command.mailedOps]
      cases hcontact : messenger.contacts peer with
      | none =>
          have hmailed : ¬ (peer = target.id P ∧
              (messenger.contacts (target.id P)).isSome = true) := by
            rintro ⟨rfl, hknown⟩
            simp [hcontact] at hknown
          rw [if_neg hmailed]
          exact List.Forall₂.nil
      | some peerPub =>
          obtain ⟨hhash, hkey⟩ := hkeyed peer peerPub hcontact
          simp only [purgeBlob, generatePurgeMessage_succeeds hblobs hsender,
            Except.toOption, Option.toList_some, List.filterMap_cons,
            List.filterMap_nil, hhash]
          by_cases hpeer : peer = target.id P
          · subst hpeer
            rw [parcelFor_sendBlob_self, if_pos ⟨rfl, by simp [hcontact]⟩]
            refine List.Forall₂.cons ⟨env.ephSecret, env.blobNonce, ?_⟩
              List.Forall₂.nil
            rw [hkey, htarget]
          · rw [parcelFor_sendBlob_of_ne hpeer,
              if_neg fun hmailed => hpeer hmailed.1]
            exact List.Forall₂.nil
  | send peer text =>
      simp only [commandMessages, hcontacts, Command.mailedOps]
      cases hcontact : messenger.contacts peer with
      | none =>
          have hmailed : ¬ (peer = target.id P ∧
              (messenger.contacts (target.id P)).isSome = true ∧
              (loop.sessionMap (target.id P)).isSome = false) := by
            rintro ⟨rfl, hknown, -⟩
            simp [hcontact] at hknown
          rw [if_neg hmailed]
          exact List.Forall₂.nil
      | some peerPub =>
          obtain ⟨hhash, hkey⟩ := hkeyed peer peerPub hcontact
          obtain ⟨cipher, hcipher, hgenerated⟩ :=
            generateOfflineMessage_succeeds hround hblobs hsender peerPub
              env.generateNow text env.storedNonce env.ephSecret env.blobNonce
          simp only [offlineBlob, hgenerated, Except.toOption,
            Option.toList_some, hhash]
          by_cases hlive : (loop.sessionMap peer).isSome = true
          · -- the text goes over the session
            have hmailed : ¬ (peer = target.id P ∧
                (messenger.contacts (target.id P)).isSome = true ∧
                (loop.sessionMap (target.id P)).isSome = false) := by
              rintro ⟨rfl, -, hnone⟩
              simp [hnone] at hlive
            rw [if_pos hlive, if_neg hmailed]
            exact List.Forall₂.nil
          · rw [if_neg hlive]
            by_cases hpeer : peer = target.id P
            · subst hpeer
              rw [hkey, htarget] at hcipher
              simp only [List.filterMap_cons, List.filterMap_nil,
                parcelFor_sendBlob_self]
              rw [if_pos ⟨trivial, by simp [hcontact], by simpa using hlive⟩]
              refine List.Forall₂.cons ⟨env.storedNonce, cipher, env.ephSecret,
                env.blobNonce, hcipher, ?_⟩ List.Forall₂.nil
              rw [hkey, htarget]
            · rw [if_neg fun hmailed => hpeer hmailed.1]
              simp only [List.filterMap_cons, List.filterMap_nil,
                parcelFor_sendBlob_of_ne hpeer]
              exact List.Forall₂.nil

/-- Without a session everything that a command asks of a contact is mailed. -/
theorem commandMessages_issued
    (hround : messages.RoundTrip) (hblobs : blobs.RoundTrip)
    (hsender : sender.Genuine P)
    (hcontacts : contactOf P loop.peers = messenger.contacts)
    (hkeyed : ∀ id peer, messenger.contacts id = some peer →
      peer.hash P = id ∧ peer.publicKey = publicKeyOf id)
    (htarget : publicKeyOf (target.id P) = target.x25519Pub)
    (hknown : (messenger.contacts (target.id P)).isSome = true)
    (hsession : loop.sessionMap (target.id P) = none) (cmd : Command) :
    List.Forall₂ (Issued P messages blobs sender target)
      ((commandMessages P messages blobs sender env loop cmd).filterMap
        (ClientToServer.parcelFor (target.id P)))
      (cmd.parcelOps (target.id P)) := by
  have hmailed := commandMessages_mailed env hround hblobs hsender hcontacts
    hkeyed htarget cmd
  rw [hknown, hsession] at hmailed
  cases cmd <;>
    simpa [Command.mailedOps, Command.parcelOps] using hmailed

/-- What a command does to the texts which the sender sent. -/
theorem sent_afterCommand
    (hknown : (messenger.contacts (target.id P)).isSome = true)
    (hfree : env.locked = false) {cmd : Command}
    (hkept : cmd ≠ .removePeer (target.id P)) :
    (messenger.afterCommand P messages blobs sender env cmd).textsBy .you
        (target.id P) =
      replayParcels (messenger.textsBy .you (target.id P))
        (cmd.parcelOps (target.id P)) := by
  cases cmd with
  | connect | setServer | shutdown | announceNow => rfl
  | removePeer peer =>
      have hpeer : peer ≠ target.id P := by
        rintro rfl
        exact hkept rfl
      exact Messenger.textsBy_clear_of_ne hpeer
  | purge peer =>
      simp only [Messenger.afterCommand, Command.directoryLabel,
        Messenger.next, Command.parcelOps]
      by_cases hpeer : peer = target.id P
      · subst hpeer
        rw [if_pos hknown, if_pos rfl, Messenger.textsBy_clear_self]
        rfl
      · rw [if_neg hpeer]
        split
        next => exact Messenger.textsBy_clear_of_ne hpeer
        next => rfl
  | send peer text =>
      simp only [Messenger.afterCommand, Command.directoryLabel,
        Messenger.next, Command.parcelOps]
      by_cases hpeer : peer = target.id P
      · subst hpeer
        rw [if_pos hknown, if_pos rfl, Messenger.textsBy_store,
          if_pos ⟨hfree, rfl, rfl⟩]
        rfl
      · rw [if_neg hpeer]
        split
        next =>
          exact Messenger.textsBy_store_of_ne env.locked (Or.inl hpeer)
        next => rfl

theorem known_afterCommand
    (hknown : (messenger.contacts (target.id P)).isSome = true)
    {cmd : Command} (hkept : cmd ≠ .removePeer (target.id P)) :
    ((messenger.afterCommand P messages blobs sender env cmd).contacts
      (target.id P)).isSome = true := by
  cases cmd with
  | connect | setServer | shutdown | announceNow => exact hknown
  | removePeer peer =>
      have hpeer : target.id P ≠ peer := by
        rintro rfl
        exact hkept rfl
      simpa [Messenger.afterCommand, Command.directoryLabel, Messenger.next,
        Function.update_of_ne hpeer] using hknown
  | purge peer =>
      simp only [Messenger.afterCommand, Command.directoryLabel,
        Messenger.next]
      split <;> exact hknown
  | send peer text =>
      simp only [Messenger.afterCommand, Command.directoryLabel,
        Messenger.next]
      split
      next =>
        rw [Messenger.contacts_store]
        exact hknown
      next => exact hknown

theorem known_next_of_keepsSent
    (hknown : (messenger.contacts (target.id P)).isSome = true)
    {label : DirectoryLabel}
    (hkeeps : KeepsSent P blobs sender target label) :
    ((messenger.next P messages blobs sender label).contacts
      (target.id P)).isSome = true := by
  cases label with
  | send peer text env => exact absurd hkeeps id
  | purge peer => exact absurd hkeeps id
  | removePeer peer => exact absurd hkeeps id
  | addPeer peer =>
      simp only [Messenger.next]
      split
      next =>
        by_cases hpeer : target.id P = peer.hash P
        · simp [hpeer]
        · simpa [Function.update_of_ne hpeer] using hknown
      next => exact hknown
  | blobChecked env blob =>
      rw [Messenger.contacts_blobChecked]
      exact hknown
  | blobStored env =>
      simp only [Messenger.next]
      split
      next => exact hknown
      next =>
        simp only [Messenger.contacts_store]
        exact hknown
  | sessionMessage peer text timestamp env =>
      rw [Messenger.next, Messenger.contacts_store]
      exact hknown
  | peerOnline | peerOffline | punchHole | sessionUp | historyChecked
  | historyRead => exact hknown

end Sender

/-! ## The recipient -/

section Recipient

variable {P : Primitives} {messages : Codec Message}
  {blobs : Codec BlobPayload} {sender target : Keys} {messenger : Messenger}

/-- The recipient's other tasks at most store what was checked. -/
theorem received_next_of_keepsReceived
    {label : DirectoryLabel}
    (hkeeps : KeepsReceived P blobs sender target label)
    (hauthored : messenger.Authored)
    (hidle : ∀ env blob, label = .blobChecked env blob →
      messenger.checked = none) :
    let next := messenger.next P messages blobs target label
    next.textsBy .peer (sender.id P) ++ next.pending (sender.id P) =
      messenger.textsBy .peer (sender.id P) ++
        messenger.pending (sender.id P) := by
  cases label with
  | addPeer peer =>
      simp only [Messenger.next]
      split <;> rfl
  | send peer text env =>
      simp only [Messenger.next]
      split
      next =>
        rw [Messenger.textsBy_store_of_ne env.locked (Or.inr (by simp)),
          Messenger.pending, Messenger.checked_store, Messenger.pending]
      next => rfl
  | purge peer =>
      simp only [Messenger.next]
      split
      next =>
        rw [Messenger.textsBy_clear_of_ne hkeeps]
        rfl
      next => rfl
  | removePeer peer =>
      have hcleared : (messenger.next P messages blobs target
          (.removePeer peer)).textsBy .peer (sender.id P) =
            messenger.textsBy .peer (sender.id P) :=
        Messenger.textsBy_clear_of_ne hkeeps
      simp only [hcleared]
      rfl
  | blobChecked env blob =>
      have hnone := hidle env blob rfl
      simp only [Messenger.next]
      cases hread : messenger.read P messages blobs target env.now blob with
      | ignored => rfl
      | message other msg =>
          obtain ⟨-, payload, hopen, rfl⟩ := read_eq_message hread
          have hother := hkeeps payload hopen
          simp only [Messenger.pending, hnone, if_neg hother]
          rfl
      | purge other =>
          obtain ⟨signature, timestamp, hopen⟩ := read_eq_purge hread
          have hother : other ≠ sender.id P := hkeeps _ hopen
          simp only [Messenger.textsBy_clear_of_ne hother]
          rfl
  | blobStored env =>
      have hfree : env.locked = false := hkeeps
      simp only [Messenger.next]
      cases hchecked : messenger.checked with
      | none => rfl
      | some checked =>
          obtain ⟨id, msg⟩ := checked
          have hauthor := hauthored id msg hchecked
          have hstored : ({ messenger.store env.locked id msg with
              checked := none } : Messenger).textsBy .peer (sender.id P) =
                messenger.textsBy .peer (sender.id P) ++
                  messenger.pending (sender.id P) := by
            rw [Messenger.pending, hchecked]
            have hsame : ({ messenger.store env.locked id msg with
                checked := none } : Messenger).textsBy .peer (sender.id P) =
                  (messenger.store env.locked id msg).textsBy .peer
                    (sender.id P) := rfl
            rw [hsame, Messenger.textsBy_store]
            simp [hfree, hauthor]
          simp only [hstored]
          simp [Messenger.pending]
  | sessionMessage peer text timestamp env =>
      simp only [Messenger.next]
      rw [Messenger.textsBy_store_of_ne env.locked (Or.inl hkeeps),
        Messenger.pending, Messenger.checked_store, Messenger.pending]
  | peerOnline | peerOffline | punchHole | sessionUp | historyChecked
  | historyRead => rfl

theorem contact_next_of_keepsReceived
    {label : DirectoryLabel}
    (hkeeps : KeepsReceived P blobs sender target label)
    (hcontact : messenger.contacts (sender.id P) = some sender.publicPart) :
    (messenger.next P messages blobs target label).contacts (sender.id P) =
      some sender.publicPart := by
  cases label with
  | addPeer peer =>
      simp only [Messenger.next]
      split
      next =>
        by_cases hpeer : sender.id P = peer.hash P
        · have hsame : peer = sender.publicPart := hkeeps hpeer.symm
          simp [hsame, Keys.id]
        · simpa [Function.update_of_ne hpeer] using hcontact
      next => exact hcontact
  | send peer text env =>
      simp only [Messenger.next]
      split
      next => rw [Messenger.contacts_store, hcontact]
      next => exact hcontact
  | purge peer =>
      simp only [Messenger.next]
      split <;> exact hcontact
  | removePeer peer =>
      have hne : sender.id P ≠ peer := Ne.symm hkeeps
      simpa [Messenger.next, Function.update_of_ne hne] using hcontact
  | blobChecked env blob =>
      rw [Messenger.contacts_blobChecked]
      exact hcontact
  | blobStored env =>
      simp only [Messenger.next]
      split
      next => exact hcontact
      next =>
        simp only [Messenger.contacts_store]
        exact hcontact
  | sessionMessage peer text timestamp env =>
      rw [Messenger.next, Messenger.contacts_store, hcontact]
  | peerOnline | peerOffline | punchHole | sessionUp | historyChecked
  | historyRead => exact hcontact

/-- What the recipient reads of a parcel. -/
def ParcelOp.reading (id : KeyType) (issued : Int64) : ParcelOp → BlobReading
  | .text sent => .message id ⟨.peer, sent, issued⟩
  | .wipe => .purge id

theorem read_of_issued
    (hsig : P.SignatureCorrect) (hdh : P.DhCommutes) (haead : P.AeadCorrect)
    (hround : messages.RoundTrip) (hblobs : blobs.RoundTrip)
    (hsender : sender.Genuine P) (htarget : target.Genuine P)
    {publicKeyOf : KeyType → KeyType} {count : ℕ} {theirs : DirectoryState}
    (hrefines : RefinesMessenger P messages target publicKeyOf count theirs
      messenger)
    (hcontact : messenger.contacts (sender.id P) = some sender.publicPart)
    {parcel : Parcel} {op : ParcelOp}
    (hissued : Issued P messages blobs sender target parcel op) {now : Int64}
    (hfresh : blobIsFresh parcel.issued now = true) :
    messenger.read P messages blobs target now parcel.blob =
      op.reading (sender.id P) parcel.issued := by
  have hload := (hrefines.loadPeerData_iff _ _).mpr hcontact
  have heffect : blobEffect P messages blobs theirs.peers target.x25519Priv
      now parcel.blob =
        (messenger.read P messages blobs target now parcel.blob).effect
          (storageKeyOf P target publicKeyOf) :=
    blobEffect_eq_read hrefines.contacts
      (fun id peer hpeer => (hrefines.keyed id peer hpeer).2) now parcel.blob
  cases op with
  | text text =>
      obtain ⟨storedNonce, cipher, ephSecret, nonce, hcipher, hblob⟩ := hissued
      have hstore := blobEffect_of_offline hsig hdh haead hround hblobs
        hsender htarget hload hfresh hcipher ephSecret nonce
      rw [← hblob, heffect] at hstore
      cases hread : messenger.read P messages blobs target now parcel.blob with
      | ignored =>
          rw [hread] at hstore
          contradiction
      | message id msg =>
          rw [hread, BlobReading.effect, BlobEffect.store.injEq] at hstore
          obtain ⟨rfl, -, rfl⟩ := hstore
          rfl
      | purge id =>
          rw [hread] at hstore
          contradiction
  | wipe =>
      obtain ⟨ephSecret, nonce, hblob⟩ := hissued
      have hwipe := blobEffect_of_purge messages hsig hdh haead hblobs hsender
        htarget hload hfresh ephSecret nonce
      rw [← hblob, heffect] at hwipe
      cases hread : messenger.read P messages blobs target now parcel.blob with
      | ignored =>
          rw [hread] at hwipe
          contradiction
      | message id msg =>
          rw [hread] at hwipe
          contradiction
      | purge id =>
          rw [hread] at hwipe
          cases hwipe
          rfl

/-- The handler checks one blob at a time. -/
theorem RefinesMessenger.idle_of_blobChecked
    {keys : Keys} {publicKeyOf : KeyType → KeyType} {count : ℕ}
    {state next : DirectoryState}
    (hrefines : RefinesMessenger P messages keys publicKeyOf count state
      messenger) {env : BlobEnv} {blob : Bytes}
    (hstep : directoryStep P messages blobs keys state
      (.blobChecked env blob) = some next) :
    messenger.checked = none := by
  have hchecked := hrefines.checked
  simp only [directoryStep] at hstep
  split at hstep
  next hnone =>
    rw [hnone] at hchecked
    exact Option.map_eq_none_iff.mp hchecked.symm
  next => contradiction

end Recipient

end SechatClient
