import SechatClient.ShownConversation

/-!
# Unread counters

The sidebar shows beside each contact how many messages are unread.  A
counter goes up when an inbound message arrives while another conversation is
selected, or none, and it is cleared when its conversation is selected or its
contact removed.  Over a whole run it is the number of inbound messages since
the conversation was last deselected.  A conversation stays selected while the
rail shows another tab.
-/

namespace SechatClient

open ByteStrings StepSystem

/-- What matters for the counters: an inbound message, and a conversation that
is selected no longer. -/
inductive UnreadMark where
  | arrived (peer : KeyType)
  | closed (peer : KeyType)
  deriving DecidableEq

def countMark (peer : KeyType) (count : ℕ) : UnreadMark → ℕ
  | .arrived other => if other = peer then count + 1 else count
  | .closed other => if other = peer then 0 else count

/-- The messages of a peer since its conversation was last deselected. -/
def arrivalsSinceClosed (peer : KeyType) (marks : List UnreadMark) : ℕ :=
  marks.foldl (countMark peer) 0

/-! ## Counting marks -/

section Marks

variable {peer : KeyType}

theorem arrivalsSinceClosed_append_singleton
    (marks : List UnreadMark) (mark : UnreadMark) :
    arrivalsSinceClosed peer (marks ++ [mark]) =
      countMark peer (arrivalsSinceClosed peer marks) mark := by
  simp [arrivalsSinceClosed]

end Marks

/-! ## Runs with their marks -/

def AppEvent.arrival : AppEvent → List UnreadMark
  | .messageArrived peer false => [.arrived peer]
  | _ => []

/-- The conversation that a step deselects. -/
def closedBy (before after : Option KeyType) : List UnreadMark :=
  match before with
  | none => []
  | some peer => if after = some peer then [] else [.closed peer]

/-- The inbound messages which a step tells the application of. -/
def Gui.heard (gui : Gui) : GuiLabel → List UnreadMark
  | .update .tick _ => (gui.rx.getD []).flatMap fun event => event.1.arrival
  | _ => []

structure UnreadTrace where
  gui : Gui
  marks : List UnreadMark

section Steps

variable (P : Primitives) (messages : Codec Message)
  (hexDecode : String → Except String Bytes)

def unreadStep (trace : UnreadTrace) (label : GuiLabel) :
    Option UnreadTrace :=
  (guiStep P messages hexDecode trace.gui label).map fun next =>
    { gui := next
      marks := trace.marks ++ trace.gui.heard label ++
        closedBy trace.gui.selected next.selected }

end Steps

/-- No counter for the selected conversation, and for the others the messages
since they were deselected, if there are any. -/
def CountsUnread (gui : Gui) (marks : List UnreadMark) : Prop :=
  ∀ peer, gui.unread peer =
    if gui.selected = some peer ∨ arrivalsSinceClosed peer marks = 0 then none
    else some (arrivalsSinceClosed peer marks)

section Counting

variable {P : Primitives} {messages : Codec Message}
  {hexDecode : String → Except String Bytes}

/-- What `CountsUnread` reads of the application. -/
def Gui.counters (gui : Gui) : Option KeyType × (KeyType → Option ℕ) :=
  (gui.selected, gui.unread)

theorem CountsUnread.of_counters
    {gui next : Gui} {marks : List UnreadMark}
    (hcounts : CountsUnread gui marks)
    (hsame : next.counters = gui.counters) : CountsUnread next marks := by
  simp only [Gui.counters, Prod.mk.injEq] at hsame
  obtain ⟨hselected, hunread⟩ := hsame
  intro peer
  rw [hselected, hunread]
  exact hcounts peer

@[simp] theorem counters_refreshContacts (view : StoreView) (gui : Gui) :
    (gui.refreshContacts P view).counters = gui.counters := by
  unfold Gui.refreshContacts
  cases gui.client <;> rfl

@[simp] theorem counters_reloadHistory
    (view : StoreView) (peer : KeyType) (gui : Gui) :
    (gui.reloadHistory P messages view peer).counters = gui.counters := by
  unfold Gui.reloadHistory
  cases gui.client with
  | none => rfl
  | some client =>
      cases hread : client.history P messages view peer <;>
        simp [hread, Gui.counters, Gui.setStatus]

/-- An inbound message is counted unless its conversation is shown. -/
theorem CountsUnread.arrived
    {gui : Gui} {marks : List UnreadMark} (hcounts : CountsUnread gui marks)
    {peer : KeyType} (hhidden : gui.selected ≠ some peer) :
    CountsUnread
      { gui with
        unread := Function.update gui.unread peer
          (some ((gui.unread peer).getD 0 + 1)) }
      (marks ++ [.arrived peer]) := by
  intro other
  rw [arrivalsSinceClosed_append_singleton]
  by_cases hother : other = peer
  · subst hother
    have hold : (gui.unread other).getD 0 =
        arrivalsSinceClosed other marks := by
      rw [hcounts other]
      by_cases hzero : arrivalsSinceClosed other marks = 0 <;>
        simp [hhidden, hzero]
    simp [countMark, hhidden, hold]
  · have hne : ¬ peer = other := fun heq => hother heq.symm
    simpa [countMark, hne, Function.update_of_ne hother] using hcounts other

theorem CountsUnread.arrived_shown
    {gui : Gui} {marks : List UnreadMark} (hcounts : CountsUnread gui marks)
    {peer : KeyType} (hshown : gui.selected = some peer) :
    CountsUnread gui (marks ++ [.arrived peer]) := by
  intro other
  rw [arrivalsSinceClosed_append_singleton]
  by_cases hother : peer = other
  · subst hother
    have hold := hcounts peer
    simp only [hshown, true_or, if_true] at hold ⊢
    exact hold
  · simpa [countMark, hother] using hcounts other

theorem CountsUnread.applyEvent
    {gui : Gui} {marks : List UnreadMark} (hcounts : CountsUnread gui marks)
    (event : QueuedEvent) :
    CountsUnread (gui.applyEvent P messages event)
      (marks ++ event.1.arrival) := by
  obtain ⟨event, view⟩ := event
  cases event with
  | messageArrived peer fromMe =>
      simp only [Gui.applyEvent]
      by_cases hshown : gui.selected = some peer
      · rw [if_pos hshown]
        refine CountsUnread.of_counters ?_ (counters_reloadHistory _ _ _)
        cases fromMe with
        | true => simpa [AppEvent.arrival] using hcounts
        | false => exact hcounts.arrived_shown hshown
      · rw [if_neg hshown]
        cases fromMe with
        | true => simpa [AppEvent.arrival] using hcounts
        | false => exact hcounts.arrived hshown
  | peerOnline | peerOffline =>
      refine CountsUnread.of_counters ?_ (counters_refreshContacts _ _)
      simpa [AppEvent.arrival] using hcounts
  | connected | holePunchDenied | sessionUp | sessionDown | connectRetrying
  | connectGaveUp | disconnected | error =>
      have hsame : CountsUnread gui (marks ++ []) := by
        rwa [List.append_nil]
      exact hsame

theorem CountsUnread.foldl_applyEvent
    {gui : Gui} {marks : List UnreadMark} (hcounts : CountsUnread gui marks)
    (events : List QueuedEvent) :
    CountsUnread (events.foldl (Gui.applyEvent P messages) gui)
      (marks ++ events.flatMap fun event => event.1.arrival) := by
  induction events generalizing gui marks with
  | nil => simpa using hcounts
  | cons event rest ih =>
      rw [List.foldl_cons, List.flatMap_cons, ← List.append_assoc]
      exact ih (hcounts.applyEvent event)

/-! ## Opening and closing conversations -/

theorem closedBy_self (selected : Option KeyType) :
    closedBy selected selected = [] := by
  cases selected <;> simp [closedBy]

/-- Selecting a conversation clears its counter, and starts the count of the
one that was selected before. -/
theorem CountsUnread.select
    {gui next : Gui} {marks : List UnreadMark} (hcounts : CountsUnread gui marks)
    {id : KeyType}
    (hnext : next.counters =
      (some id, Function.update gui.unread id none)) :
    CountsUnread next (marks ++ closedBy gui.selected next.selected) := by
  simp only [Gui.counters, Prod.mk.injEq] at hnext
  obtain ⟨hselected, hunread⟩ := hnext
  rw [hselected]
  intro peer
  rw [hselected, hunread]
  by_cases hpeer : peer = id
  · subst hpeer
    simp
  · rw [Function.update_of_ne hpeer, hcounts peer]
    have hshown : some id ≠ some peer := by simpa using Ne.symm hpeer
    cases hold : gui.selected with
    | none => simp [closedBy, hshown]
    | some old =>
        by_cases hid : id = old
        · subst hid
          simp [closedBy, hshown]
        · have hclosed : closedBy (some old) (some id) = [.closed old] := by
            simp [closedBy, hid]
          rw [hclosed, arrivalsSinceClosed_append_singleton]
          by_cases hother : old = peer <;>
            simp [countMark, hother, hshown]

/-- Removing the contact closes its conversation. -/
theorem CountsUnread.remove
    {gui next : Gui} {marks : List UnreadMark} (hcounts : CountsUnread gui marks)
    {old : KeyType} (hold : gui.selected = some old)
    (hnext : next.counters =
      (none, Function.update gui.unread old none)) :
    CountsUnread next (marks ++ closedBy gui.selected next.selected) := by
  simp only [Gui.counters, Prod.mk.injEq] at hnext
  obtain ⟨hselected, hunread⟩ := hnext
  have hclosed : closedBy (some old) none = [.closed old] := rfl
  rw [hselected, hold, hclosed]
  intro peer
  rw [hselected, hunread, arrivalsSinceClosed_append_singleton]
  by_cases hpeer : peer = old
  · subst hpeer
    simp [countMark]
  · have hne : ¬ old = peer := fun heq => hpeer heq.symm
    rw [Function.update_of_ne hpeer, hcounts peer]
    simp [countMark, hold, hne]

theorem CountsUnread.same
    {gui next : Gui} {marks : List UnreadMark} (hcounts : CountsUnread gui marks)
    (hsame : next.counters = gui.counters) :
    CountsUnread next (marks ++ closedBy gui.selected next.selected) := by
  have hselected : next.selected = gui.selected := congrArg Prod.fst hsame
  rw [hselected, closedBy_self, List.append_nil]
  exact hcounts.of_counters hsame

theorem counters_selectPeer (view : StoreView) (id : KeyType) (gui : Gui) :
    (gui.selectPeer P messages view id).counters =
      (some id, Function.update gui.unread id none) := by
  rw [Gui.selectPeer, counters_reloadHistory]
  cases gui.client <;> rfl

/-- The events of a tick keep the selection. -/
theorem selected_drainEvents (gui : Gui) :
    (gui.drainEvents P messages).selected = gui.selected := by
  unfold Gui.drainEvents
  cases gui.rx with
  | none => rfl
  | some events =>
      have hfold (start : Gui) :
          (events.foldl (Gui.applyEvent P messages) start).selected =
            start.selected := by
        induction events generalizing start with
        | nil => rfl
        | cons event rest ih =>
            rw [List.foldl_cons, ih]
            obtain ⟨event, view⟩ := event
            cases event with
            | messageArrived peer fromMe =>
                simp only [Gui.applyEvent]
                split
                · exact congrArg Prod.fst (counters_reloadHistory _ _ _)
                · split <;> rfl
            | peerOnline | peerOffline =>
                exact congrArg Prod.fst (counters_refreshContacts _ _)
            | connected | holePunchDenied | sessionUp | sessionDown
            | connectRetrying | connectGaveUp | disconnected | error => rfl
      exact hfold _

theorem CountsUnread.drainEvents
    {gui : Gui} {marks : List UnreadMark} (hcounts : CountsUnread gui marks) :
    CountsUnread (gui.drainEvents P messages)
      (marks ++ (gui.rx.getD []).flatMap fun event => event.1.arrival) := by
  unfold Gui.drainEvents
  cases gui.rx with
  | none => simpa using hcounts
  | some events =>
      have hemptied : CountsUnread { gui with rx := some [] } marks := hcounts
      exact hemptied.foldl_applyEvent events

/-- Only ticks, choosing a peer and removing one concern the counters. -/
theorem counters_update
    (gui : Gui) (env : UpdateEnv) {message : GuiMessage}
    (htick : message ≠ .tick) (hselect : ∀ id, message ≠ .selectPeer id)
    (hremove : message ≠ .removeSelected) :
    (gui.update P messages hexDecode env message).1.counters =
      gui.counters := by
  cases message with
  | tick => exact absurd rfl htick
  | selectPeer id => exact absurd rfl (hselect id)
  | removeSelected => exact absurd rfl hremove
  | submitPassword =>
      simp only [Gui.update, Gui.submitPassword]
      repeat' split
      all_goals rfl
  | started result =>
      simp only [Gui.update, Gui.onStarted]
      repeat' split
      all_goals rfl
  | addPeer =>
      simp only [Gui.update, Gui.addPeer]
      repeat' split
      all_goals first
        | rfl
        | exact counters_refreshContacts _ _
  | setAlias =>
      simp only [Gui.update, Gui.setAlias]
      repeat' split
      all_goals first
        | rfl
        | exact counters_refreshContacts _ _
  | passwordChanged | serverChanged | sendDraft | changeServer | openSettings
  | windowClose | purgeSelected =>
      simp only [Gui.update, Gui.sendDraft, Gui.changeServer,
        Gui.openSettings, Gui.windowClose, Gui.purgeSelected]
      repeat' split
      all_goals rfl
  | draftChanged | addPeerX25519Changed | addPeerVerifyingChanged
  | serverFieldChanged | toggleTheme | aliasChanged | selectRail | doExit
  | ignored => rfl

theorem CountsUnread.step
    {trace next : UnreadTrace} {label : GuiLabel}
    (hcounts : CountsUnread trace.gui trace.marks)
    (hstep : unreadStep P messages hexDecode trace label = some next) :
    CountsUnread next.gui next.marks := by
  obtain ⟨after, hafter, rfl⟩ := Option.map_eq_some_iff.mp hstep
  cases label with
  | deliver event =>
      cases hafter
      simp only [Gui.heard, List.append_nil]
      exact hcounts.same rfl
  | update message env =>
      cases hafter
      cases message with
      | tick =>
          simp only [Gui.heard, Gui.update]
          rw [selected_drainEvents, closedBy_self, List.append_nil]
          exact hcounts.drainEvents
      | selectPeer id =>
          simp only [Gui.heard, List.append_nil]
          exact hcounts.select (counters_selectPeer env.view id trace.gui)
      | removeSelected =>
          simp only [Gui.heard, List.append_nil, Gui.update,
            Gui.removeSelected]
          split
          next peer _ hselected =>
            exact hcounts.remove hselected (counters_refreshContacts _ _)
          next => exact hcounts.same rfl
      | passwordChanged | serverChanged | submitPassword | started
      | draftChanged | sendDraft | addPeerX25519Changed
      | addPeerVerifyingChanged | addPeer | serverFieldChanged | changeServer
      | openSettings | toggleTheme | aliasChanged | setAlias | purgeSelected
      | selectRail | windowClose | doExit | ignored =>
          simp only [Gui.heard, List.append_nil]
          exact hcounts.same
            (counters_update trace.gui env (by simp) (by simp) (by simp))

end Counting

/-- In every state of a run the counter of a peer is the number of inbound
messages which the application was told of since the peer's conversation was
last selected; the selected conversation has none. -/
theorem unread_counts_arrivals
    (P : Primitives) (messages : Codec Message)
    (hexDecode : String → Except String Bytes)
    (resolvedServer : Option String) (identityExists : Bool)
    {labels : List GuiLabel} {final : UnreadTrace}
    (hrun : runFrom (unreadStep P messages hexDecode)
      ⟨.boot resolvedServer identityExists, []⟩ labels = some final)
    (peer : KeyType) :
    final.gui.unread peer =
      if final.gui.selected = some peer ∨
          arrivalsSinceClosed peer final.marks = 0 then none
      else some (arrivalsSinceClosed peer final.marks) := by
  have hcounts : CountsUnread final.gui final.marks :=
    runFrom_invariant (fun trace => CountsUnread trace.gui trace.marks)
      (fun _ _ _ hinv hstep => hinv.step hstep) (fun _ => rfl) hrun
  exact hcounts peer

/-- The first contact is selected while the second one writes twice. -/
def writesInBackground : List GuiLabel :=
  [.update (.started (.ok (⟨sampleKeys 3⟩, some []))) (sampleUpdateEnv false),
    .update (.selectPeer firstContact) (sampleUpdateEnv false),
    .deliver (.messageArrived secondContact false,
      (sampleUpdateEnv false).view),
    .update .tick (sampleUpdateEnv false),
    .deliver (.messageArrived secondContact false,
      (sampleUpdateEnv false).view),
    .update .tick (sampleUpdateEnv false)]

theorem writesInBackground_marks :
    ∃ final, runFrom (unreadStep .transparent transparentMessages decodeEmpty)
        ⟨.boot none true, []⟩ writesInBackground = some final ∧
      final.gui.selected = some firstContact ∧
      final.marks = [.arrived secondContact, .arrived secondContact] :=
  ⟨_, rfl, rfl, rfl⟩

theorem background_messages_unread :
    ∃ final, runFrom (unreadStep .transparent transparentMessages decodeEmpty)
        ⟨.boot none true, []⟩ writesInBackground = some final ∧
      final.gui.unread secondContact = some 2 := by
  obtain ⟨final, hrun, hselected, hmarks⟩ := writesInBackground_marks
  refine ⟨final, hrun, ?_⟩
  have hcounts := unread_counts_arrivals .transparent transparentMessages
    decodeEmpty none true hrun secondContact
  have hother : firstContact ≠ secondContact := by decide
  rw [hcounts, hselected, hmarks]
  simp [arrivalsSinceClosed, countMark, hother]

end SechatClient
