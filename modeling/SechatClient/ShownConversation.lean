import SechatClient.GuiApp
import SechatClient.StepSystem

/-!
# The conversation on the screen

`selected` and `history` are written separately: choosing a peer sets the
first, and the second follows only if the history can be read.  The lines on
the screen are compared with the last read that succeeded.
-/

namespace SechatClient

open ByteStrings OrderedStore StepSystem

/-! ## Runs -/

inductive GuiLabel where
  | update (message : GuiMessage) (env : UpdateEnv)
  | deliver (event : QueuedEvent)

/-- A message of the runtime, or an event that the library queues. -/
def guiStep (P : Primitives) (messages : Codec Message)
    (hexDecode : String → Except String Bytes) (gui : Gui) :
    GuiLabel → Option Gui
  | .update message env =>
      some (gui.update P messages hexDecode env message).1
  | .deliver event =>
      some { gui with rx := gui.rx.map (· ++ [event]) }

/-- The lines were read from the chat of the selected peer. -/
def Gui.ShowsSelected (gui : Gui) : Prop :=
  gui.history = [] ∨
    ∃ peer, gui.selected = some peer ∧
      gui.lastRead = some (peer, gui.history)

/-- The client is running, and it finds the contact and its database free. -/
def Gui.CanRead (P : Primitives) (gui : Gui) (view : StoreView)
    (id : KeyType) : Prop :=
  gui.client.isSome = true ∧ (loadPeerData P view.peers id).isOk = true ∧
    view.locked = false

/-- Another peer is chosen only if no lines are shown, or its history can be
read. -/
def HistoryLoads (P : Primitives) (gui : Gui) : GuiLabel → Prop
  | .update (.selectPeer id) env =>
      gui.history = [] ∨ gui.selected = some id ∨ gui.CanRead P env.view id
  | _ => True

/-! ## What a message does to the conversation -/

section Conversation

variable {P : Primitives} {messages : Codec Message}
  {hexDecode : String → Except String Bytes}

/-- What `ShowsSelected` is about. -/
def Gui.conversation (gui : Gui) :
    Option KeyType × List ChatLine × Option (KeyType × List ChatLine) :=
  (gui.selected, gui.history, gui.lastRead)

theorem Gui.ShowsSelected.of_conversation
    {gui next : Gui} (hshows : gui.ShowsSelected)
    (hsame : next.conversation = gui.conversation) :
    next.ShowsSelected := by
  simp only [conversation, Prod.mk.injEq] at hsame
  obtain ⟨hselected, hhistory, hlastRead⟩ := hsame
  unfold ShowsSelected
  rw [hselected, hhistory, hlastRead]
  exact hshows

@[simp] theorem conversation_refreshContacts (view : StoreView) (gui : Gui) :
    (gui.refreshContacts P view).conversation = gui.conversation := by
  unfold Gui.refreshContacts
  cases gui.client <;> rfl

theorem conversation_submitPassword (env : UpdateEnv) (gui : Gui) :
    (gui.submitPassword env).1.conversation = gui.conversation := by
  simp only [Gui.submitPassword]
  cases hscreen : gui.screen with
  | main => rfl
  | unlock password server error =>
      by_cases hempty : password.isEmpty = true
      · simp only [hempty, if_true]
        rfl
      · simp only [hempty]
        cases (if gui.hasIdentity then env.unlocked else env.created) with
        | error e => rfl
        | ok keys =>
            cases env.serverSaved <;> rfl

theorem conversation_onStarted
    (view : StoreView) (gui : Gui)
    (result : Except String (Client × Option (List QueuedEvent))) :
    (gui.onStarted P view result).conversation = gui.conversation := by
  unfold Gui.onStarted
  repeat' split
  all_goals rfl

theorem conversation_setAlias (env : UpdateEnv) (gui : Gui) :
    (gui.setAlias P env).conversation = gui.conversation := by
  unfold Gui.setAlias
  split
  · split
    · exact conversation_refreshContacts _ _
    · rfl
  · rfl

theorem conversation_addPeer (env : UpdateEnv) (gui : Gui) :
    (gui.addPeer P hexDecode env).conversation = gui.conversation := by
  unfold Gui.addPeer
  repeat' split
  all_goals first
    | rfl
    | exact conversation_refreshContacts _ _

/-! ## Reading a history -/

variable (P messages) in
theorem isOk_history
    (client : Client) (view : StoreView) (peer : KeyType) :
    (client.history P messages view peer).isOk =
      ((loadPeerData P view.peers peer).isOk && !view.locked) := by
  unfold Client.history
  cases loadPeerData P view.peers peer with
  | error e => rfl
  | ok contact => cases hlocked : view.locked <;> rfl

variable (P messages) in
/-- A reload either replaces the lines by those of its peer, or it fails and
leaves the conversation. -/
theorem reloadHistory_cases
    (view : StoreView) (peer : KeyType) (gui : Gui) :
    (gui.CanRead P view peer ∧ ∃ lines,
        (gui.reloadHistory P messages view peer).conversation =
          (gui.selected, lines, some (peer, lines))) ∨
      (¬ gui.CanRead P view peer ∧
        (gui.reloadHistory P messages view peer).conversation =
          gui.conversation) := by
  unfold Gui.reloadHistory Gui.CanRead
  cases hclient : gui.client with
  | none => exact Or.inr ⟨by simp, rfl⟩
  | some client =>
      have hreads := isOk_history P messages client view peer
      cases hhistory : client.history P messages view peer with
      | ok lines =>
          rw [hhistory] at hreads
          refine Or.inl ⟨?_, lines, ?_⟩
          · simpa [Except.isOk, Except.toBool] using hreads
          · simp [hhistory, Gui.conversation]
      | error e =>
          rw [hhistory] at hreads
          refine Or.inr ⟨?_, ?_⟩
          · simpa [Except.isOk, Except.toBool] using hreads
          · simp [hhistory, Gui.conversation, Gui.setStatus]

theorem showsSelected_of_conversation
    {gui : Gui} {peer : KeyType} {lines : List ChatLine}
    (hconversation : gui.conversation =
      (some peer, lines, some (peer, lines))) :
    gui.ShowsSelected := by
  simp only [Gui.conversation, Prod.mk.injEq] at hconversation
  obtain ⟨hselected, hhistory, hlastRead⟩ := hconversation
  refine Or.inr ⟨peer, hselected, ?_⟩
  rw [hlastRead, hhistory]

theorem Gui.ShowsSelected.applyEvent
    {gui : Gui} (hshows : gui.ShowsSelected) (event : QueuedEvent) :
    (gui.applyEvent P messages event).ShowsSelected := by
  obtain ⟨event, view⟩ := event
  cases event with
  | messageArrived peer fromMe =>
      simp only [Gui.applyEvent]
      split
      next hselected =>
        obtain ⟨_, lines, hread⟩ | ⟨_, hkept⟩ :=
          reloadHistory_cases P messages view peer gui
        · rw [hselected] at hread
          exact showsSelected_of_conversation hread
        · exact hshows.of_conversation hkept
      next =>
        split <;> exact hshows
  | peerOnline | peerOffline =>
      exact hshows.of_conversation (conversation_refreshContacts view gui)
  | connected | holePunchDenied | sessionUp | sessionDown | connectRetrying
  | connectGaveUp | disconnected | error => exact hshows

theorem Gui.ShowsSelected.foldl_applyEvent
    {gui : Gui} (hshows : gui.ShowsSelected) (events : List QueuedEvent) :
    (events.foldl (Gui.applyEvent P messages) gui).ShowsSelected := by
  induction events generalizing gui with
  | nil => exact hshows
  | cons event rest ih => exact ih (hshows.applyEvent event)

theorem Gui.ShowsSelected.drainEvents
    {gui : Gui} (hshows : gui.ShowsSelected) :
    (gui.drainEvents P messages).ShowsSelected := by
  unfold Gui.drainEvents
  cases gui.rx with
  | none => exact hshows
  | some events =>
      apply Gui.ShowsSelected.foldl_applyEvent
      exact hshows

/-- What `select_peer` leaves: the lines of the peer, or the old lines if the
history cannot be read. -/
theorem selectPeer_cases
    (view : StoreView) (id : KeyType) (gui : Gui) :
    (gui.CanRead P view id ∧ ∃ lines,
        (gui.selectPeer P messages view id).conversation =
          (some id, lines, some (id, lines))) ∨
      (¬ gui.CanRead P view id ∧
        (gui.selectPeer P messages view id).conversation =
          (some id, gui.history, gui.lastRead)) := by
  unfold Gui.selectPeer
  cases hclient : gui.client with
  | none =>
      refine Or.inr ⟨by simp [Gui.CanRead, hclient], ?_⟩
      simp [Gui.reloadHistory, Gui.conversation]
  | some client =>
      have hcases := reloadHistory_cases P messages view id (Gui.send
        { gui with
          selected := some id
          unread := Function.update gui.unread id none
          aliasInput := ((gui.contacts.find? fun contact =>
            contact.id = id).bind Contact.aliasName).getD "" } (.connect id))
      simpa [Gui.send, Gui.CanRead, hclient, Gui.conversation] using hcases

/-- After a choice the lines match the selection exactly if there were none,
the peer was selected before, or its history was read. -/
theorem showsSelected_selectPeer_iff
    {gui : Gui} (hshows : gui.ShowsSelected) (env : UpdateEnv)
    (id : KeyType) :
    (gui.update P messages hexDecode env (.selectPeer id)).1.ShowsSelected ↔
      HistoryLoads P gui (.update (.selectPeer id) env) := by
  have hupdate : (gui.update P messages hexDecode env
      (.selectPeer id)).1.conversation =
        (gui.selectPeer P messages env.view id).conversation := rfl
  obtain ⟨hreads, lines, hconversation⟩ | ⟨hfails, hconversation⟩ :=
    selectPeer_cases (P := P) env.view id gui
  · rw [hconversation] at hupdate
    exact iff_of_true (showsSelected_of_conversation hupdate)
      (Or.inr (Or.inr hreads))
  · rw [hconversation] at hupdate
    simp only [Gui.conversation, Prod.mk.injEq] at hupdate
    obtain ⟨hselected, hhistory, hlastRead⟩ := hupdate
    unfold Gui.ShowsSelected
    rw [hselected, hhistory, hlastRead]
    constructor
    · rintro (hempty | ⟨peer, hpeer, hlast⟩)
      · exact Or.inl hempty
      · cases hpeer
        obtain hempty | ⟨old, hold, hread⟩ := hshows
        · exact Or.inl hempty
        · rw [hlast] at hread
          cases hread
          exact Or.inr (Or.inl hold)
    · rintro (hempty | hsame | hreads)
      · exact Or.inl hempty
      · obtain hempty | ⟨old, hold, hread⟩ := hshows
        · exact Or.inl hempty
        · rw [hsame] at hold
          cases hold
          exact Or.inr ⟨id, rfl, hread⟩
      · exact absurd hreads hfails

/-- Only choosing a peer and the events read a history; the other messages
clear the lines or leave the conversation. -/
theorem Gui.ShowsSelected.update
    {gui : Gui} (hshows : gui.ShowsSelected) (env : UpdateEnv)
    {message : GuiMessage} (hother : ∀ id, message ≠ .selectPeer id) :
    (gui.update P messages hexDecode env message).1.ShowsSelected := by
  cases message with
  | selectPeer id => exact absurd rfl (hother id)
  | tick => exact hshows.drainEvents
  | submitPassword =>
      exact hshows.of_conversation (conversation_submitPassword env gui)
  | started result =>
      exact hshows.of_conversation
        (conversation_onStarted env.view gui result)
  | addPeer => exact hshows.of_conversation (conversation_addPeer env gui)
  | setAlias => exact hshows.of_conversation (conversation_setAlias env gui)
  | purgeSelected =>
      simp only [Gui.update, Gui.purgeSelected]
      split
      · exact Or.inl rfl
      · exact hshows
  | removeSelected =>
      simp only [Gui.update, Gui.removeSelected]
      split
      · apply Gui.ShowsSelected.of_conversation _
          (conversation_refreshContacts _ _)
        exact Or.inl rfl
      · exact hshows
  | passwordChanged | serverChanged =>
      simp only [Gui.update]
      split <;> exact hshows
  | sendDraft | changeServer | openSettings | windowClose =>
      simp only [Gui.update, Gui.sendDraft, Gui.changeServer,
        Gui.openSettings, Gui.windowClose]
      repeat' split
      all_goals exact hshows
  | draftChanged | addPeerX25519Changed | addPeerVerifyingChanged
  | serverFieldChanged | toggleTheme | aliasChanged | selectRail | doExit
  | ignored => exact hshows

theorem historyLoads_of_other
    (gui : Gui) (env : UpdateEnv) {message : GuiMessage}
    (hother : ∀ id, message ≠ .selectPeer id) :
    HistoryLoads P gui (.update message env) := by
  cases message with
  | selectPeer id => exact absurd rfl (hother id)
  | _ => trivial

theorem guiStep_showsSelected_iff
    {gui next : Gui} (label : GuiLabel) (hshows : gui.ShowsSelected)
    (hstep : guiStep P messages hexDecode gui label = some next) :
    next.ShowsSelected ↔ HistoryLoads P gui label := by
  cases label with
  | deliver event =>
      cases hstep
      exact iff_of_true hshows trivial
  | update message env =>
      cases hstep
      by_cases hselect : ∃ id, message = .selectPeer id
      · obtain ⟨id, rfl⟩ := hselect
        exact showsSelected_selectPeer_iff hshows env id
      · have hother : ∀ id, message ≠ .selectPeer id := by
          intro id heq
          exact hselect ⟨id, heq⟩
        exact iff_of_true (hshows.update env hother)
          (historyLoads_of_other gui env hother)

end Conversation

/-! ## What a read returns -/

/-- The lines of a contact's chat database. -/
def chatLines (P : Primitives) (messages : Codec Message) (client : Client)
    (peers : PeersDir) (contact : PeerPublic) : List ChatLine :=
  (loadPeerChatMessages P messages
    (loadStorageKey P contact.publicKey client.keys.x25519Priv)
    ((chatDbOf peers (contact.hash P)).getD Tree.empty)).1.map Message.line

theorem history_eq_ok
    {P : Primitives} {messages : Codec Message} {client : Client}
    {view : StoreView} {peer : KeyType} {lines : List ChatLine}
    (hstored : StoredByIdentity P view.peers)
    (hread : client.history P messages view peer = .ok lines) :
    ∃ contact, loadPeerData P view.peers peer = .ok contact ∧
      contact.hash P = peer ∧
      lines = chatLines P messages client view.peers contact := by
  unfold Client.history at hread
  cases hpeer : loadPeerData P view.peers peer with
  | error e =>
      rw [hpeer] at hread
      contradiction
  | ok contact =>
      simp only [hpeer] at hread
      cases hopen : loadPeerChatFile view.locked view.peers
          (contact.hash P) with
      | error e =>
          rw [hopen] at hread
          contradiction
      | ok result =>
          obtain ⟨opened, db⟩ := result
          obtain ⟨_, rfl, _⟩ := loadPeerChatFile_eq_ok hopen
          rw [hopen] at hread
          cases hread
          exact ⟨contact, rfl, hstored peer contact hpeer, rfl⟩

/-- In every state of a run the lines on the screen were read from the chat of
the selected peer exactly if the history can be read whenever another peer is
chosen while lines are shown.  A read of a peer returns the lines of that
peer's own database. -/
theorem shown_lines_from_selected_iff
    (P : Primitives) (messages : Codec Message)
    (hexDecode : String → Except String Bytes)
    (resolvedServer : Option String) (identityExists : Bool)
    (labels : List GuiLabel) :
    ((∀ first gui, first <+: labels →
        runFrom (guiStep P messages hexDecode)
          (.boot resolvedServer identityExists) first = some gui →
        gui.ShowsSelected) ↔
      AllSteps (guiStep P messages hexDecode) (HistoryLoads P)
        (.boot resolvedServer identityExists) labels) ∧
    ∀ (client : Client) (view : StoreView) (peer : KeyType)
        (lines : List ChatLine),
      StoredByIdentity P view.peers →
      client.history P messages view peer = .ok lines →
      ∃ contact, loadPeerData P view.peers peer = .ok contact ∧
        contact.hash P = peer ∧
        lines = chatLines P messages client view.peers contact := by
  constructor
  · apply invariant_along_iff_allSteps Gui.ShowsSelected
    · intro gui label
      cases label with
      | update message env => exact ⟨_, rfl⟩
      | deliver event => exact ⟨_, rfl⟩
    · intro gui label next hshows hstep
      exact guiStep_showsSelected_iff label hshows hstep
    · exact Or.inl rfl
  · intro client view peer lines hstored hread
    exact history_eq_ok hstored hread

/-! ## A history that cannot be read -/

def firstContact : KeyType := (sampleKeys 1).id .transparent

def secondContact : KeyType := (sampleKeys 2).id .transparent

/-- Two contacts; the chat of the first has one line. -/
def twoContacts : PeersDir :=
  storeChatDb
    (initializePeer .transparent
      (initializePeer .transparent ∅ (sampleKeys 1).publicPart)
      (sampleKeys 2).publicPart)
    firstContact
    (Tree.empty.insert (toBeBytes 0)
      ((encryptMessageStored .transparent transparentMessages
        ⟨.peer, "hi", 990⟩
        (loadStorageKey .transparent (sampleKeys 1).x25519Pub
          (sampleKeys 3).x25519Priv) (.replicate 12 0)).toOption.getD []))

def sampleUpdateEnv (locked : Bool) : UpdateEnv where
  view := ⟨twoContacts, [], 1000, fun _ => none, locked⟩
  unlocked := .ok (sampleKeys 3)
  created := .ok (sampleKeys 3)
  serverSaved := .ok ()
  aliasWritten := .ok ()
  peerStored := .ok ()
  windowId := 1

/-- The first contact is chosen, then the second one while its database is
`locked` or not. -/
def switchContacts (locked : Bool) : List GuiLabel :=
  [.update (.started (.ok (⟨sampleKeys 3⟩, some []))) (sampleUpdateEnv false),
    .update (.selectPeer firstContact) (sampleUpdateEnv false),
    .update (.selectPeer secondContact) (sampleUpdateEnv locked)]

/-- `hex::decode` on the key fields, which stay empty here. -/
def decodeEmpty (_ : String) : Except String Bytes := .ok []

theorem switch_shows_second_contact :
    ∃ gui, runFrom (guiStep .transparent transparentMessages decodeEmpty)
        (.boot none true) (switchContacts false) = some gui ∧
      gui.selected = some secondContact ∧ gui.history = [] ∧
      gui.ShowsSelected := by
  refine ⟨_, rfl, rfl, rfl, ?_⟩
  refine (shown_lines_from_selected_iff .transparent transparentMessages
    decodeEmpty none true (switchContacts false)).1.mpr ?_
    (switchContacts false) _ (List.prefix_refl _) rfl
  refine allSteps_cons trivial rfl (allSteps_cons (Or.inl rfl) rfl ?_)
  exact allSteps_cons (Or.inr (Or.inr ⟨rfl, rfl, rfl⟩)) rfl trivial

/-- The database of the second contact is open elsewhere: its name stands over
the lines of the first one. -/
theorem locked_chat_shows_first_contact :
    ∃ gui, runFrom (guiStep .transparent transparentMessages decodeEmpty)
        (.boot none true) (switchContacts true) = some gui ∧
      gui.selected = some secondContact ∧
      gui.history = [⟨false, "hi", 990⟩] ∧
      gui.lastRead = some (firstContact, gui.history) ∧
      ¬ gui.ShowsSelected := by
  refine ⟨_, rfl, rfl, rfl, rfl, ?_⟩
  rintro (hempty | ⟨peer, hpeer, hread⟩)
  · cases hempty
  · have hsame : firstContact = secondContact := by
      cases hpeer
      exact congrArg Prod.fst (Option.some.inj hread)
    exact absurd hsame (by decide)

end SechatClient
