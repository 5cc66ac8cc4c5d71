import SechatClient.OfflineExchange

/-!
# Conversations mirrored through the mailbox

The invariant of an exchange that keeps the pairing: the recipient's
conversation, with the message which is being stored and with the parcels
underway, is the sender's.  When nothing is underway, both clients show the
same texts.
-/

namespace SechatClient

open ByteStrings OrderedStore StepSystem

section Runs

variable {P : Primitives} {messages : Codec Message}
  {blobs : Codec BlobPayload} {sender target : Keys}
  {publicKeyOf : KeyType → KeyType}

structure ExchangeInvariant (P : Primitives) (messages : Codec Message)
    (blobs : Codec BlobPayload) (sender target : Keys)
    (publicKeyOf : KeyType → KeyType) (count : ℕ) (state : Exchange)
    (mine theirs : Messenger) (ops : List ParcelOp) : Prop where
  refines_mine : RefinesMessenger P messages sender publicKeyOf count
    state.mine.toDirectoryState mine
  refines_theirs : RefinesMessenger P messages target publicKeyOf count
    state.theirs theirs
  authored_mine : mine.Authored
  authored_theirs : theirs.Authored
  isOpen : state.mine.server.isOpen = true
  session : state.mine.sessionMap (target.id P) = none
  known : (mine.contacts (target.id P)).isSome = true
  contact : theirs.contacts (sender.id P) = some sender.publicPart
  issued : List.Forall₂ (Issued P messages blobs sender target)
    (state.underway P target) ops
  texts : mine.textsBy .you (target.id P) =
    replayParcels (theirs.textsBy .peer (sender.id P) ++
      theirs.pending (sender.id P)) ops

section Step

variable {count : ℕ} {state next : Exchange} {mine theirs : Messenger}
  {ops : List ParcelOp}

theorem ExchangeInvariant.command
    (haead : P.AeadCorrect) (hround : messages.RoundTrip)
    (hblobs : blobs.RoundTrip) (hsender : sender.Genuine P)
    (htarget : publicKeyOf (target.id P) = target.x25519Pub)
    (hinv : ExchangeInvariant P messages blobs sender target publicKeyOf count
      state mine theirs ops)
    (hcount : count < 2 ^ 64) {env : LoopEnv} {cmd : Command}
    (hok : PairingKept P messages blobs sender target state
      (.command env cmd))
    (hstep : exchangeStep P messages blobs sender target state
      (.command env cmd) = some next) :
    ExchangeInvariant P messages blobs sender target publicKeyOf (count + 1)
      next (mine.afterCommand P messages blobs sender env cmd) theirs
      (ops ++ cmd.parcelOps (target.id P)) := by
  obtain ⟨hkept, hfree, hroom⟩ := hok
  obtain ⟨result, hresult, rfl⟩ := Option.map_eq_some_iff.mp hstep
  have hsends := handleCommand_sends hinv.isOpen hroom hresult
  have hcache : ∀ online ∈ result.loop.cache, online ∈ state.mine.cache :=
    fun _ honline => handleCommand_cache hresult honline
  have hissued : List.Forall₂ (Issued P messages blobs sender target)
      ((commandMessages P messages blobs sender env state.mine.toCommandLoop
        cmd).filterMap (ClientToServer.parcelFor (target.id P)))
      (cmd.parcelOps (target.id P)) :=
    commandMessages_issued hround hblobs hsender hinv.refines_mine.contacts
      hinv.refines_mine.keyed htarget hinv.known hinv.session cmd
  exact
    { refines_mine := hinv.refines_mine.command haead hround hblobs hcount
        hresult rfl rfl rfl (RunningClient.held_afterCommand hcache)
      refines_theirs := hinv.refines_theirs.succ
      authored_mine :=
        Messenger.Authored.afterCommand hinv.authored_mine env cmd
      authored_theirs := hinv.authored_theirs
      isOpen := hsends.isOpen
      session := by
        rcases hsends.sessions (target.id P) with hsame | hnone
        · exact hsame.trans hinv.session
        · exact hnone
      known := known_afterCommand hinv.known hkept
      contact := hinv.contact
      issued := by
        have hitems : (state.mine.afterCommand result.loop).server.queue.items =
            state.mine.server.queue.items ++ commandMessages P messages blobs
              sender env state.mine.toCommandLoop cmd := hsends.items
        simp only [Exchange.underway, hitems, List.filterMap_append,
          ← List.append_assoc]
        exact List.rel_append hinv.issued hissued
      texts := by
        rw [sent_afterCommand hinv.known hfree hkept, hinv.texts,
          replay_append] }

theorem ExchangeInvariant.myTask
    (haead : P.AeadCorrect) (hround : messages.RoundTrip)
    (hinv : ExchangeInvariant P messages blobs sender target publicKeyOf count
      state mine theirs ops)
    (hcount : count < 2 ^ 64) {label : DirectoryLabel}
    (hok : KeepsSent P blobs sender target label)
    (hkey : ∀ peer, label = .addPeer peer →
      P.isVerifyingKey peer.verifying = true →
      peer.publicKey = publicKeyOf (peer.hash P))
    (hstep : exchangeStep P messages blobs sender target state
      (.myTask label) = some next) :
    ExchangeInvariant P messages blobs sender target publicKeyOf (count + 1)
      next (mine.next P messages blobs sender label) theirs ops := by
  obtain ⟨after, hafter, rfl⟩ := Option.map_eq_some_iff.mp hstep
  exact
    { refines_mine :=
        hinv.refines_mine.step haead hround hcount hkey hafter
      refines_theirs := hinv.refines_theirs.succ
      authored_mine := Messenger.Authored.next hinv.authored_mine label
      authored_theirs := hinv.authored_theirs
      isOpen := hinv.isOpen
      session := hinv.session
      known := known_next_of_keepsSent hinv.known hok
      contact := hinv.contact
      issued := hinv.issued
      texts := by
        rw [sent_next_of_keepsSent hok hinv.authored_mine, hinv.texts] }

/-- The relay moves a blob from the channel to the mailbox. -/
theorem ExchangeInvariant.forwarded
    (hinv : ExchangeInvariant P messages blobs sender target publicKeyOf count
      state mine theirs ops)
    (hstep : exchangeStep P messages blobs sender target state .forwarded =
      some next) :
    ExchangeInvariant P messages blobs sender target publicKeyOf (count + 1)
      next mine theirs ops := by
  obtain ⟨⟨msg, rest⟩, hrecv, rfl⟩ := Option.map_eq_some_iff.mp hstep
  have hitems := BoundedQueue.recv_eq_some hrecv
  have hunderway : Exchange.underway P target
      { state with
        mine := state.mine.afterSend ⟨state.mine.server.isOpen, rest⟩
        mailbox := state.mailbox ++ (msg.parcelFor (target.id P)).toList } =
        state.underway P target := by
    simp only [Exchange.underway, RunningClient.afterSend, hitems]
    cases hparcel : msg.parcelFor (target.id P) <;> simp [hparcel]
  exact
    { refines_mine := hinv.refines_mine.succ
      refines_theirs := hinv.refines_theirs.succ
      authored_mine := hinv.authored_mine
      authored_theirs := hinv.authored_theirs
      isOpen := hinv.isOpen
      session := hinv.session
      known := hinv.known
      contact := hinv.contact
      issued := by
        rw [hunderway]
        exact hinv.issued
      texts := hinv.texts }

theorem ExchangeInvariant.theirTask
    (haead : P.AeadCorrect) (hround : messages.RoundTrip)
    (hinv : ExchangeInvariant P messages blobs sender target publicKeyOf count
      state mine theirs ops)
    (hcount : count < 2 ^ 64) {label : DirectoryLabel}
    (hok : KeepsReceived P blobs sender target label)
    (hkey : ∀ peer, label = .addPeer peer →
      P.isVerifyingKey peer.verifying = true →
      peer.publicKey = publicKeyOf (peer.hash P))
    (hstep : exchangeStep P messages blobs sender target state
      (.theirTask label) = some next) :
    ExchangeInvariant P messages blobs sender target publicKeyOf (count + 1)
      next mine (theirs.next P messages blobs target label) ops := by
  obtain ⟨after, hafter, rfl⟩ := Option.map_eq_some_iff.mp hstep
  have hidle : ∀ env blob, label = .blobChecked env blob →
      theirs.checked = none := by
    rintro env blob rfl
    exact hinv.refines_theirs.idle_of_blobChecked hafter
  exact
    { refines_mine := hinv.refines_mine.succ
      refines_theirs :=
        hinv.refines_theirs.step haead hround hcount hkey hafter
      authored_mine := hinv.authored_mine
      authored_theirs := Messenger.Authored.next hinv.authored_theirs label
      isOpen := hinv.isOpen
      session := hinv.session
      known := hinv.known
      contact := contact_next_of_keepsReceived hok hinv.contact
      issued := hinv.issued
      texts := by
        rw [hinv.texts]
        exact congrArg (fun texts => replayParcels texts ops)
          (received_next_of_keepsReceived hok hinv.authored_theirs
            hidle).symm }

/-- A step of the recipient's handler. -/
theorem ExchangeInvariant.of_theirs
    (hinv : ExchangeInvariant P messages blobs sender target publicKeyOf count
      state mine theirs ops)
    {moved : DirectoryState} {parcels : List Parcel} {after : Messenger}
    {rest : List ParcelOp}
    (hrefines : RefinesMessenger P messages target publicKeyOf (count + 1)
      moved after)
    (hauthored : after.Authored)
    (hcontact : after.contacts (sender.id P) = some sender.publicPart)
    (hissued : List.Forall₂ (Issued P messages blobs sender target)
      (Exchange.underway P target
        { state with theirs := moved, mailbox := parcels }) rest)
    (htexts : mine.textsBy .you (target.id P) =
      replayParcels (after.textsBy .peer (sender.id P) ++
        after.pending (sender.id P)) rest) :
    ExchangeInvariant P messages blobs sender target publicKeyOf (count + 1)
      { state with theirs := moved, mailbox := parcels } mine after rest where
  refines_mine := hinv.refines_mine.succ
  refines_theirs := hrefines
  authored_mine := hinv.authored_mine
  authored_theirs := hauthored
  isOpen := hinv.isOpen
  session := hinv.session
  known := hinv.known
  contact := hcontact
  issued := hissued
  texts := htexts

/-- The recipient's handler takes the oldest parcel, and its effect. -/
theorem ExchangeInvariant.delivered
    (hsig : P.SignatureCorrect) (hdh : P.DhCommutes) (haead : P.AeadCorrect)
    (hround : messages.RoundTrip) (hblobs : blobs.RoundTrip)
    (hsender : sender.Genuine P) (htarget : target.Genuine P)
    (hinv : ExchangeInvariant P messages blobs sender target publicKeyOf count
      state mine theirs ops)
    (hcount : count < 2 ^ 64) {env : BlobEnv}
    (hok : PairingKept P messages blobs sender target state (.delivered env))
    (hstep : exchangeStep P messages blobs sender target state
      (.delivered env) = some next) :
    ∃ after rest, ExchangeInvariant P messages blobs sender target publicKeyOf
      (count + 1) next mine after rest := by
  cases hmailbox : state.mailbox with
  | nil => simp [exchangeStep, hmailbox] at hstep
  | cons parcel parcels =>
      simp only [exchangeStep, hmailbox] at hstep
      obtain ⟨moved, hmoved, rfl⟩ := Option.map_eq_some_iff.mp hstep
      have hfresh : blobIsFresh parcel.issued env.now = true :=
        hok parcel (by simp [hmailbox])
      have hunderway : state.underway P target =
          parcel :: Exchange.underway P target
            { state with theirs := moved, mailbox := parcels } := by
        simp [Exchange.underway, hmailbox]
      have hissued := hinv.issued
      rw [hunderway] at hissued
      obtain ⟨op, rest, hop, hrest, rfl⟩ :=
        List.forall₂_cons_left_iff.mp hissued
      have hread := read_of_issued hsig hdh haead hround hblobs hsender
        htarget hinv.refines_theirs hinv.contact hop hfresh
      have hidle := hinv.refines_theirs.idle_of_blobChecked hmoved
      have hrefines := hinv.refines_theirs.step haead hround hcount
        (fun peer hpeer => by contradiction) hmoved
      have htexts := hinv.texts
      cases op with
      | text text =>
          simp only [Messenger.next, hread, ParcelOp.reading] at hrefines
          refine ⟨_, rest, hinv.of_theirs hrefines ?_ hinv.contact hrest ?_⟩
          · intro id msg hchecked
            cases hchecked
            rfl
          · rw [htexts, Messenger.pending, hidle, List.append_nil]
            simp [Messenger.pending, Messenger.textsBy, replayParcels]
      | wipe =>
          simp only [Messenger.next, hread, ParcelOp.reading] at hrefines
          refine ⟨_, rest, hinv.of_theirs hrefines hinv.authored_theirs
            hinv.contact hrest ?_⟩
          have hpending : (theirs.clear (sender.id P)).pending
              (sender.id P) = [] := by
            simp [Messenger.pending, Messenger.clear, hidle]
          rw [htexts, Messenger.textsBy_clear_self, hpending]
          rfl

theorem ExchangeInvariant.step
    (hsig : P.SignatureCorrect) (hdh : P.DhCommutes) (haead : P.AeadCorrect)
    (hround : messages.RoundTrip) (hblobs : blobs.RoundTrip)
    (hsender : sender.Genuine P) (htarget : target.Genuine P)
    (hpublic : publicKeyOf (target.id P) = target.x25519Pub)
    (hinv : ExchangeInvariant P messages blobs sender target publicKeyOf count
      state mine theirs ops)
    (hcount : count < 2 ^ 64) {label : ExchangeLabel}
    (hok : PairingKept P messages blobs sender target state label)
    (hkey : ∀ peer, label.task = some (.addPeer peer) →
      P.isVerifyingKey peer.verifying = true →
      peer.publicKey = publicKeyOf (peer.hash P))
    (hstep : exchangeStep P messages blobs sender target state label =
      some next) :
    ∃ mine theirs ops, ExchangeInvariant P messages blobs sender target
      publicKeyOf (count + 1) next mine theirs ops := by
  cases label with
  | command env cmd =>
      exact ⟨_, _, _, hinv.command haead hround hblobs hsender hpublic hcount
        hok hstep⟩
  | myTask label =>
      have hadds : ∀ peer, label = .addPeer peer →
          P.isVerifyingKey peer.verifying = true →
          peer.publicKey = publicKeyOf (peer.hash P) :=
        fun peer hlabel => hkey peer (congrArg some hlabel)
      exact ⟨_, _, _, hinv.myTask haead hround hcount hok hadds hstep⟩
  | forwarded => exact ⟨_, _, _, hinv.forwarded hstep⟩
  | delivered env =>
      obtain ⟨after, rest, hnext⟩ := hinv.delivered hsig hdh haead hround
        hblobs hsender htarget hcount hok hstep
      exact ⟨_, after, rest, hnext⟩
  | theirTask label =>
      have hadds : ∀ peer, label = .addPeer peer →
          P.isVerifyingKey peer.verifying = true →
          peer.publicKey = publicKeyOf (peer.hash P) :=
        fun peer hlabel => hkey peer (congrArg some hlabel)
      exact ⟨_, _, _, hinv.theirTask haead hround hcount hok hadds hstep⟩

theorem ExchangeInvariant.run
    (hsig : P.SignatureCorrect) (hdh : P.DhCommutes) (haead : P.AeadCorrect)
    (hround : messages.RoundTrip) (hblobs : blobs.RoundTrip)
    (hsender : sender.Genuine P) (htarget : target.Genuine P)
    (hpublic : publicKeyOf (target.id P) = target.x25519Pub)
    (hinv : ExchangeInvariant P messages blobs sender target publicKeyOf count
      state mine theirs ops) {labels : List ExchangeLabel}
    (hcount : count + labels.length ≤ 2 ^ 64)
    (hkeys : ∀ label ∈ labels, ∀ peer, label.task = some (.addPeer peer) →
      P.isVerifyingKey peer.verifying = true →
      peer.publicKey = publicKeyOf (peer.hash P))
    (hok : AllSteps (exchangeStep P messages blobs sender target)
      (PairingKept P messages blobs sender target) state labels)
    {final : Exchange}
    (hrun : runFrom (exchangeStep P messages blobs sender target) state
      labels = some final) :
    ∃ count mine theirs ops, ExchangeInvariant P messages blobs sender target
      publicKeyOf count final mine theirs ops := by
  induction labels generalizing state count mine theirs ops with
  | nil =>
      cases hrun
      exact ⟨_, _, _, _, hinv⟩
  | cons label rest ih =>
      obtain ⟨next, hstep, hrest⟩ := runFrom_cons_eq_some.mp hrun
      rw [List.length_cons] at hcount
      obtain ⟨_, _, _, hnext⟩ := hinv.step hsig hdh haead hround hblobs
        hsender htarget hpublic (by omega) hok.1
        (hkeys label List.mem_cons_self) hstep
      exact ih hnext (by omega)
        (fun other hother => hkeys other (List.mem_cons_of_mem _ hother))
        (hok.2 next hstep) hrest

end Step

/-! ## A fresh pairing -/

/-- Both clients have added each other and nothing else has happened between
them. -/
structure Exchange.FreshlyPaired (P : Primitives) (sender target : Keys)
    (start : Exchange) : Prop where
  my_peers : start.mine.peers = initializePeer P ∅ target.publicPart
  my_held : start.mine.toDirectoryState.held = []
  my_checked : start.mine.checkedBlob = none
  isOpen : start.mine.server.isOpen = true
  items : start.mine.server.queue.items = []
  session : start.mine.sessionMap (target.id P) = none
  mailbox : start.mailbox = []
  their_peers : start.theirs.peers = initializePeer P ∅ sender.publicPart
  their_held : start.theirs.held = []
  their_checked : start.theirs.checkedBlob = none

/-- A directory with one contact and no conversation. -/
theorem RefinesMessenger.of_first_contact
    {keys : Keys} {contact : PeerPublic}
    (hvalid : P.isVerifyingKey contact.verifying = true)
    (hkey : contact.publicKey = publicKeyOf (contact.hash P))
    {state : DirectoryState}
    (hpeers : state.peers = initializePeer P ∅ contact)
    (hchecked : state.checkedBlob = none) (hheld : state.held = []) :
    RefinesMessenger P messages keys publicKeyOf 0 state
      { Messenger.initial with
        contacts := Function.update (fun _ => none) (contact.hash P)
          (some contact) } where
  contacts := by
    rw [hpeers, contactOf_initializePeer hvalid]
    rfl
  keyed := by
    intro id peer hpeer
    by_cases hid : id = contact.hash P
    · subst hid
      simp only [Function.update_self, Option.some.injEq] at hpeer
      subst hpeer
      exact ⟨rfl, hkey⟩
    · simp [Function.update_of_ne hid] at hpeer
  held := by simp [hheld]
  checked := hchecked
  conversations := by
    intro id
    have hempty : chatRecords state.peers id = Tree.empty := by
      rw [hpeers, chatRecords_of_chatDbOf_eq (chatDbOf_initializePeer contact)]
      rfl
    rw [hempty]
    exact RefinesLog.initial

variable (messages blobs) in
theorem Exchange.FreshlyPaired.invariant
    (hvalidSender : P.isVerifyingKey sender.ed25519Verifying = true)
    (hvalidTarget : P.isVerifyingKey target.ed25519Verifying = true)
    (hkeySender : publicKeyOf (sender.id P) = sender.x25519Pub)
    (hkeyTarget : publicKeyOf (target.id P) = target.x25519Pub)
    {start : Exchange} (hstart : start.FreshlyPaired P sender target) :
    ∃ mine theirs, ExchangeInvariant P messages blobs sender target
      publicKeyOf 0 start mine theirs [] := by
  have hunderway : start.underway P target = [] := by
    simp [Exchange.underway, hstart.mailbox, hstart.items]
  exact ⟨_, _,
    { refines_mine := RefinesMessenger.of_first_contact hvalidTarget
        hkeyTarget.symm hstart.my_peers hstart.my_checked hstart.my_held
      refines_theirs := RefinesMessenger.of_first_contact hvalidSender
        hkeySender.symm hstart.their_peers hstart.their_checked
        hstart.their_held
      authored_mine := fun id msg hchecked => by contradiction
      authored_theirs := fun id msg hchecked => by contradiction
      isOpen := hstart.isOpen
      session := hstart.session
      known := by simp [Keys.id]
      contact := by simp [Keys.id]
      issued := by
        rw [hunderway]
        exact List.Forall₂.nil
      texts := rfl }⟩

end Runs

/-! ## What the two clients show -/

/-- The texts of one side of a conversation. -/
def shownTexts (fromMe : Bool) (lines : List ChatLine) : List String :=
  (lines.filter fun line => line.fromMe = fromMe).map ChatLine.text

/-- The text which the blob handler has checked and not yet stored. -/
def DirectoryState.pendingText (id : KeyType) (state : DirectoryState) :
    List String :=
  match state.checkedBlob with
  | some (sender, _, msg) => if sender = id then [msg.text] else []
  | none => []

theorem shownTexts_true (log : List Message) :
    shownTexts true (log.map Message.line) =
      (log.filter fun msg => msg.author = .you).map Message.text := by
  induction log with
  | nil => rfl
  | cons msg rest ih =>
      obtain ⟨author, text, timestamp⟩ := msg
      cases author <;>
        simpa [shownTexts, Message.line] using ih

theorem shownTexts_false (log : List Message) :
    shownTexts false (log.map Message.line) =
      (log.filter fun msg => msg.author = .peer).map Message.text := by
  induction log with
  | nil => rfl
  | cons msg rest ih =>
      obtain ⟨author, text, timestamp⟩ := msg
      cases author <;>
        simpa [shownTexts, Message.line] using ih

theorem RefinesMessenger.pendingText
    {P : Primitives} {messages : Codec Message} {keys : Keys}
    {publicKeyOf : KeyType → KeyType} {count : ℕ} {state : DirectoryState}
    {messenger : Messenger}
    (hrefines : RefinesMessenger P messages keys publicKeyOf count state
      messenger) (id : KeyType) :
    state.pendingText id = messenger.pending id := by
  unfold DirectoryState.pendingText Messenger.pending
  rw [hrefines.checked]
  cases messenger.checked <;> rfl

/-- While two clients have no session with each other, and neither removes the
other nor does the recipient delete the conversation, the recipient's history
with what is being stored and with what the parcels underway ask for shows the
texts which the sender's history shows as sent; when nothing is underway, both
show the same. -/
theorem offline_conversation_mirrored
    {P : Primitives} {messages : Codec Message} {blobs : Codec BlobPayload}
    (hsig : P.SignatureCorrect) (hdh : P.DhCommutes) (haead : P.AeadCorrect)
    (hround : messages.RoundTrip) (hblobs : blobs.RoundTrip)
    {sender target : Keys} (hsender : sender.Genuine P)
    (htarget : target.Genuine P)
    (hvalidSender : P.isVerifyingKey sender.ed25519Verifying = true)
    (hvalidTarget : P.isVerifyingKey target.ed25519Verifying = true)
    {publicKeyOf : KeyType → KeyType}
    (hkeySender : publicKeyOf (sender.id P) = sender.x25519Pub)
    (hkeyTarget : publicKeyOf (target.id P) = target.x25519Pub)
    {start : Exchange} (hstart : start.FreshlyPaired P sender target)
    {labels : List ExchangeLabel} (hlength : labels.length < 2 ^ 64)
    (hkeys : ∀ label ∈ labels, ∀ peer, label.task = some (.addPeer peer) →
      P.isVerifyingKey peer.verifying = true →
      peer.publicKey = publicKeyOf (peer.hash P))
    (hok : AllSteps (exchangeStep P messages blobs sender target)
      (PairingKept P messages blobs sender target) start labels)
    {final : Exchange}
    (hrun : runFrom (exchangeStep P messages blobs sender target) start
      labels = some final) :
    ∃ mine theirs ops,
      (∀ view : StoreView, view.peers = final.mine.peers →
        view.locked = false →
        Client.history P messages ⟨sender⟩ view (target.id P) = .ok mine) ∧
      (∀ view : StoreView, view.peers = final.theirs.peers →
        view.locked = false →
        Client.history P messages ⟨target⟩ view (sender.id P) = .ok theirs) ∧
      List.Forall₂ (Issued P messages blobs sender target)
        (final.underway P target) ops ∧
      shownTexts true mine =
        replayParcels (shownTexts false theirs ++
          final.theirs.pendingText (sender.id P)) ops ∧
      (final.underway P target = [] → final.theirs.checkedBlob = none →
        shownTexts true mine = shownTexts false theirs) := by
  obtain ⟨_, _, hinv⟩ := hstart.invariant messages blobs hvalidSender
    hvalidTarget hkeySender hkeyTarget
  obtain ⟨_, mine, theirs, ops, hfinal⟩ := hinv.run hsig hdh haead hround
    hblobs hsender htarget hkeyTarget (by omega) hkeys hok hrun
  obtain ⟨contact, hcontact⟩ := Option.isSome_iff_exists.mp hfinal.known
  have htexts := hfinal.texts
  rw [← hfinal.refines_theirs.pendingText, Messenger.textsBy,
    Messenger.textsBy, ← shownTexts_true, ← shownTexts_false] at htexts
  refine ⟨_, _, ops, ?_, ?_, hfinal.issued, htexts, ?_⟩
  · intro view hview hfree
    exact hfinal.refines_mine.history hcontact hview hfree
  · intro view hview hfree
    exact hfinal.refines_theirs.history hfinal.contact hview hfree
  · intro hdrained hstored
    have hissued := hfinal.issued
    rw [hdrained] at hissued
    cases hissued
    rw [htexts, DirectoryState.pendingText, hstored, List.append_nil]
    rfl

/-! ## A message through the mailbox -/

def samplePairing : Exchange where
  mine :=
    { peers := initializePeer .transparent ∅ (sampleKeys 3).publicPart
      sessionMap := fun _ => none
      outbounds := fun _ => ⟨true, .empty⟩
      server := ⟨true, .empty⟩
      intents := fun _ => none
      cache := []
      aliasFile := none
      myAddress := none
      contacts := fun _ => none
      attempts := []
      sessions := []
      checkedBlob := none
      reading := none }
  mailbox := []
  theirs := { DirectoryState.initial with
    peers := initializePeer .transparent ∅ (sampleKeys 1).publicPart }

theorem samplePairing_fresh :
    samplePairing.FreshlyPaired .transparent (sampleKeys 1) (sampleKeys 3) :=
  ⟨rfl, rfl, rfl, rfl, rfl, rfl, rfl, rfl, rfl, rfl⟩

def sampleExchange : List ExchangeLabel :=
  [.command sampleLoopEnv (.send ((sampleKeys 3).id .transparent) "hi"),
    .forwarded, .delivered sampleEnv, .theirTask (.blobStored sampleEnv)]

set_option maxRecDepth 4000 in
theorem sampleExchange_runs :
    ∃ final, runFrom (exchangeStep .transparent transparentMessages
        transparentBlobs (sampleKeys 1) (sampleKeys 3)) samplePairing
        sampleExchange = some final ∧
      final.underway .transparent (sampleKeys 3) = [] ∧
      final.theirs.checkedBlob = none := by
  have hdrained : (runFrom (exchangeStep .transparent transparentMessages
      transparentBlobs (sampleKeys 1) (sampleKeys 3)) samplePairing
      sampleExchange).any (fun final =>
        (final.underway .transparent (sampleKeys 3)).isEmpty &&
          final.theirs.checkedBlob.isNone) = true := by
    decide +kernel
  obtain ⟨final, hrun, hfinal⟩ := (Option.any_eq_true _ _).mp hdrained
  rw [Bool.and_eq_true, List.isEmpty_iff, Option.isNone_iff_eq_none] at hfinal
  exact ⟨final, hrun, hfinal.1, hfinal.2⟩

def samplePublicKeyOf (id : KeyType) : KeyType :=
  if id = (sampleKeys 1).id .transparent then (sampleKeys 1).x25519Pub
  else (sampleKeys 3).x25519Pub

theorem samplePublicKeyOf_sender :
    samplePublicKeyOf ((sampleKeys 1).id .transparent) =
      (sampleKeys 1).x25519Pub := if_pos rfl

theorem samplePublicKeyOf_target :
    samplePublicKeyOf ((sampleKeys 3).id .transparent) =
      (sampleKeys 3).x25519Pub := if_neg (by decide)

theorem sampleExchange_pairingKept :
    AllSteps (exchangeStep .transparent transparentMessages transparentBlobs
        (sampleKeys 1) (sampleKeys 3))
      (PairingKept .transparent transparentMessages transparentBlobs
        (sampleKeys 1) (sampleKeys 3)) samplePairing sampleExchange := by
  refine ⟨⟨by decide, rfl, by decide⟩, fun first hfirst =>
    ⟨trivial, fun second hsecond => ⟨?_, fun third _ =>
      ⟨rfl, fun _ _ => trivial⟩⟩⟩⟩
  obtain rfl := Option.some.inj hfirst
  obtain rfl := Option.some.inj hsecond
  intro parcel hparcel
  obtain rfl := Option.some.inj hparcel
  rfl

/-- One message sent, forwarded, delivered and stored. -/
theorem sample_conversation_mirrored :
    ∃ final mine theirs, runFrom (exchangeStep .transparent
        transparentMessages transparentBlobs (sampleKeys 1) (sampleKeys 3))
        samplePairing sampleExchange = some final ∧
      Client.history .transparent transparentMessages ⟨sampleKeys 1⟩
        ⟨final.mine.peers, [], 1000, fun _ => none, false⟩
        ((sampleKeys 3).id .transparent) = .ok mine ∧
      Client.history .transparent transparentMessages ⟨sampleKeys 3⟩
        ⟨final.theirs.peers, [], 1000, fun _ => none, false⟩
        ((sampleKeys 1).id .transparent) = .ok theirs ∧
      shownTexts true mine = shownTexts false theirs := by
  obtain ⟨final, hrun, hdrained, hstored⟩ := sampleExchange_runs
  have hkeys : ∀ label ∈ sampleExchange, ∀ peer,
      label.task = some (.addPeer peer) →
      Primitives.transparent.isVerifyingKey peer.verifying = true →
      peer.publicKey = samplePublicKeyOf (peer.hash .transparent) := by
    intro label hlabel peer hpeer
    simp only [sampleExchange, List.mem_cons, List.not_mem_nil, or_false]
      at hlabel
    rcases hlabel with rfl | rfl | rfl | rfl <;>
      simp [ExchangeLabel.task] at hpeer
  obtain ⟨mine, theirs, -, hmine, htheirs, -, -, hsame⟩ :=
    offline_conversation_mirrored transparent_signatureCorrect
      transparent_dhCommutes transparent_aeadCorrect
      transparentMessages_roundTrip transparentBlobs_roundTrip
      (sampleKeys_genuine 1) (sampleKeys_genuine 3) rfl rfl
      samplePublicKeyOf_sender samplePublicKeyOf_target samplePairing_fresh
      (by decide) hkeys sampleExchange_pairingKept hrun
  exact ⟨final, mine, theirs, hrun, hmine _ rfl rfl, htheirs _ rfl rfl,
    hsame hdrained hstored⟩

end SechatClient
