import SechatClient.TwoClients

/-!
# What each path does to the texts

One lemma for each of the parties on a path: what a command hands to the
outbound channels and to the mailbox, what a turn of a send loop takes, what
the receive loop emits of it, and what a step of the peers directory does to
the texts which one peer wrote.
-/

namespace SechatClient

open ByteStrings OrderedStore StepSystem TaggedLists

/-! ## What a command hands over -/

/-- The text which a command puts into an outbound channel. -/
def Command.queuedOn (sessionMap : KeyType → Option SessionEntry)
    (number : ℕ) : Command → List String
  | .send peer text =>
      if (sessionMap peer).map SessionEntry.outbound = some number then [text]
      else []
  | _ => []

def ParcelOp.textOf : ParcelOp → Option String
  | .text sent => some sent
  | .wipe => none

section Commands

variable {P : Primitives} {messages : Codec Message}
  {blobs : Codec BlobPayload} {keys : Keys} {env : LoopEnv}
  {loop : CommandLoop} {cmd : Command} {result : LoopResult}

theorem sendOverSession_outbounds
    {state : CommandState} {peerPub : PeerPublic} {peer : KeyType}
    {text : String} {entry : SessionEntry} {sent : CommandResult}
    (hready : (state.outbounds entry.outbound).waits = false)
    (hsend : sendOverSession P messages keys env.toCommandEnv state peerPub
      peer text entry = some sent) (number : ℕ) :
    ((sent.state.outbounds number).queue.items).Sublist
      ((state.outbounds number).queue.items ++
        if entry.outbound = number then [text] else []) := by
  unfold sendOverSession at hsend
  rw [whenSent, hready] at hsend
  simp only [Bool.false_eq_true, if_false] at hsend
  split at hsend
  next => contradiction
  next channel accepted haccepted =>
    simp only [Option.some.injEq] at hsend
    subst hsend
    have houtbounds := (persistSent_spec P messages keys env.toCommandEnv
      peerPub peer text
      { state with
        outbounds := Function.update state.outbounds entry.outbound channel
        sessionMap :=
          if accepted then state.sessionMap
          else Function.update state.sessionMap peer none }).1
    rw [houtbounds]
    simp only
    by_cases hnumber : entry.outbound = number
    · subst hnumber
      rw [Function.update_self, if_pos rfl,
        (Channel.send_eq_some haccepted).2]
      cases accepted <;> simp
    · rw [Function.update_of_ne (Ne.symm hnumber), if_neg hnumber,
        List.append_nil]

theorem sendOffline_outbounds
    {state : CommandState} {peerPub : PeerPublic} {peer : KeyType}
    {text : String} {sent : CommandResult}
    (hsend : sendOffline P messages blobs keys env.toCommandEnv state peerPub
      peer text = some sent) :
    sent.state.outbounds = state.outbounds := by
  unfold sendOffline at hsend
  split at hsend
  next =>
    cases hsend
    rfl
  next =>
    split at hsend
    next => contradiction
    next channel accepted _ =>
      cases hsend
      exact (persistSent_spec P messages keys env.toCommandEnv peerPub peer
        text { state with server := channel }).1

/-- A command puts at most the text it sends into an outbound channel. -/
theorem handleCommand_outbounds
    (hroom : FindsRoom P messages blobs keys env loop cmd)
    (hresult : handleCommand P messages blobs keys env loop cmd = some result)
    (number : ℕ) :
    ((result.loop.outbounds number).queue.items).Sublist
      ((loop.outbounds number).queue.items ++
        cmd.queuedOn loop.sessionMap number) := by
  cases cmd with
  | connect peer =>
      simp only [handleCommand, Option.some.injEq] at hresult
      subst hresult
      unfold handleConnect
      split
      next => simp
      next => split <;> simp
  | setServer | shutdown | removePeer =>
      cases hresult
      simp [handleRemovePeer, CommandLoop.dropSession, Command.queuedOn]
  | announceNow =>
      simp only [handleCommand, handleAnnounceNow] at hresult
      split at hresult
      next =>
        cases hresult
        simp
      next =>
        obtain ⟨server, -, rfl⟩ := Option.map_eq_some_iff.mp hresult
        simp [CommandLoop.withServer]
  | purge peer =>
      simp only [handleCommand, handlePurge] at hresult
      split at hresult
      next =>
        cases hresult
        simp [CommandLoop.dropSession]
      next =>
        split at hresult
        next =>
          cases hresult
          simp [purgeLocally, CommandLoop.withPeers, CommandLoop.dropSession]
        next =>
          split at hresult
          next => contradiction
          next =>
            cases hresult
            simp [purgeLocally, CommandLoop.withPeers, CommandLoop.withServer,
              CommandLoop.dropSession]
  | send peer text =>
      obtain ⟨sent, hsent, rfl⟩ := Option.map_eq_some_iff.mp hresult
      unfold handleSend at hsent
      split at hsent
      next =>
        cases hsent
        simp
      next =>
        split at hsent
        next entry hentry =>
          have hready : (loop.outbounds entry.outbound).waits = false :=
            hroom.outbound peer text entry rfl hentry
          have hsublist := sendOverSession_outbounds hready hsent number
          simpa [Command.queuedOn, hentry] using hsublist
        next =>
          rw [sendOffline_outbounds hsent]
          simp

variable {id : KeyType}

/-- A text to a peer goes into the channel of its session and no other. -/
theorem queuedOn_sublist_via
    {number : ℕ} (howner : ∀ peer entry, loop.sessionMap peer = some entry →
      entry.outbound = number → peer = id) :
    (cmd.queuedOn loop.sessionMap number).Sublist
      (via (.session number)
        (tagged (pathTo loop.sessionMap id) (cmd.textsTo id))) := by
  cases cmd with
  | send peer text =>
      simp only [Command.queuedOn, Command.textsTo]
      by_cases hnumber : (loop.sessionMap peer).map SessionEntry.outbound =
          some number
      · obtain ⟨entry, hentry, houtbound⟩ := Option.map_eq_some_iff.mp hnumber
        obtain rfl := howner peer entry hentry houtbound
        have hpath : pathTo loop.sessionMap peer = .session number := by
          rw [pathTo, hentry, ← houtbound]
        rw [if_pos hnumber, if_pos rfl, hpath, via_tagged_self]
      · rw [if_neg hnumber]
        exact List.nil_sublist _
  | _ => exact List.nil_sublist _

/-- What a command mails is the text whose path is the mailbox. -/
theorem mailedOps_sublist_via (known : Bool) :
    ((cmd.mailedOps known (loop.sessionMap id).isSome id).filterMap
        ParcelOp.textOf).Sublist
      (via .mailbox
        (tagged (pathTo loop.sessionMap id) (cmd.textsTo id))) := by
  cases cmd with
  | send peer text =>
      simp only [Command.mailedOps, Command.textsTo]
      by_cases hmailed : peer = id ∧ known = true ∧
          (loop.sessionMap id).isSome = false
      · have hpath : pathTo loop.sessionMap id = .mailbox := by
          rw [pathTo, Option.isSome_eq_false_iff.mp hmailed.2.2 |>
            Option.isNone_iff_eq_none.mp]
        rw [if_pos hmailed, if_pos hmailed.1, hpath, via_tagged_self]
        exact List.Sublist.refl _
      · rw [if_neg hmailed]
        exact List.nil_sublist _
  | purge peer =>
      simp only [Command.mailedOps]
      split <;> exact List.nil_sublist _
  | _ => exact List.nil_sublist _

end Commands

/-! ## What a reader's conversation gains -/

section Reading

variable {P : Primitives} {messages : Codec Message}
  {blobs : Codec BlobPayload} {mine theirs : Keys} {id : KeyType}
  {messenger next : Messenger} {label : DirectoryLabel}

/-- What a step does to the texts that a peer wrote: it keeps them, deletes
them, or stores the one that was checked.  What was checked may be lost. -/
inductive ReaderMove (id : KeyType) (messenger next : Messenger) : Prop where
  | keeps (texts : next.textsBy .peer id = messenger.textsBy .peer id)
      (pending : (next.pending id).Sublist (messenger.pending id))
  | clears (texts : next.textsBy .peer id = [])
      (pending : (next.pending id).Sublist (messenger.pending id))
  | stores (texts : next.textsBy .peer id =
        messenger.textsBy .peer id ++ messenger.pending id)
      (pending : next.pending id = [])

theorem ReaderMove.refl : ReaderMove id messenger messenger :=
  .keeps rfl (List.Sublist.refl _)

theorem ReaderMove.of_clear {other : KeyType}
    (hchecked : next.checked = messenger.checked)
    (hconversation : next.conversation =
      (messenger.clear other).conversation) :
    ReaderMove id messenger next := by
  have hpending : (next.pending id).Sublist (messenger.pending id) := by
    rw [Messenger.pending, Messenger.pending, hchecked]
  have htexts : next.textsBy .peer id =
      (messenger.clear other).textsBy .peer id :=
    Messenger.textsBy_congr (congrFun hconversation id)
  by_cases hother : other = id
  · subst hother
    exact .clears (htexts.trans Messenger.textsBy_clear_self) hpending
  · exact .keeps (htexts.trans (Messenger.textsBy_clear_of_ne hother)) hpending

theorem readerMove_next
    (hspeaks : SpeaksForOthers P blobs id mine theirs label)
    (hauthored : messenger.Authored)
    (hidle : ∀ env blob, label = .blobChecked env blob →
      messenger.checked = none) :
    ReaderMove id messenger (messenger.next P messages blobs mine label) := by
  cases label with
  | addPeer peer =>
      simp only [Messenger.next]
      split
      next => exact .keeps rfl (List.Sublist.refl _)
      next => exact .refl
  | send peer text env =>
      simp only [Messenger.next]
      split
      next =>
        refine .keeps ?_ ?_
        · exact Messenger.textsBy_store_of_ne env.locked (Or.inr (by simp))
        · rw [Messenger.pending, Messenger.checked_store]
          exact List.Sublist.refl _
      next => exact .refl
  | purge peer =>
      simp only [Messenger.next]
      split
      next => exact .of_clear rfl rfl
      next => exact .refl
  | removePeer peer => exact .of_clear rfl rfl
  | blobChecked env blob =>
      have hnone := hidle env blob rfl
      simp only [Messenger.next]
      cases hread : messenger.read P messages blobs mine env.now blob with
      | ignored => exact .refl
      | message other msg =>
          obtain ⟨-, payload, hopen, rfl⟩ := read_eq_message hread
          refine .keeps rfl ?_
          simp only [Messenger.pending, if_neg (hspeaks payload hopen)]
          exact List.nil_sublist _
      | purge other => exact .of_clear rfl rfl
  | blobStored env =>
      simp only [Messenger.next]
      cases hchecked : messenger.checked with
      | none => exact .refl
      | some checked =>
          obtain ⟨other, msg⟩ := checked
          have hpeer := hauthored other msg hchecked
          have htexts : ({ messenger.store env.locked other msg with
              checked := none } : Messenger).textsBy .peer id =
                (messenger.store env.locked other msg).textsBy .peer id := rfl
          rw [Messenger.textsBy_store] at htexts
          by_cases hstored : env.locked = false ∧ other = id
          · refine .stores ?_ rfl
            rw [htexts, if_pos ⟨hstored.1, hstored.2, hpeer⟩,
              Messenger.pending, hchecked]
            simp [hstored.2]
          · refine .keeps ?_ (List.nil_sublist _)
            rw [htexts, if_neg fun hall => hstored ⟨hall.1, hall.2.1⟩,
              List.append_nil]
  | sessionMessage peer text timestamp env =>
      refine .keeps ?_ ?_
      · exact Messenger.textsBy_store_of_ne env.locked (Or.inl hspeaks)
      · rw [Messenger.next, Messenger.pending, Messenger.checked_store]
        exact List.Sublist.refl _
  | peerOnline | peerOffline | punchHole | sessionUp | historyChecked
  | historyRead => exact .refl

theorem readerMove_afterCommand (hauthored : messenger.Authored)
    (env : LoopEnv) (cmd : Command) :
    ReaderMove id messenger
      (messenger.afterCommand P messages blobs mine env cmd) := by
  unfold Messenger.afterCommand
  cases cmd with
  | connect | announceNow | setServer | shutdown => exact .refl
  | send | purge | removePeer =>
      refine readerMove_next
        (show SpeaksForOthers P blobs id mine mine _ from trivial) hauthored ?_
      intro env blob hlabel
      cases hlabel

/-- The keys of a peer stay its own. -/
theorem contact_next_of_speaks
    (hspeaks : SpeaksForOthers P blobs id mine theirs label)
    (hcontact : ∀ contact, messenger.contacts id = some contact →
      contact = theirs.publicPart) (contact : PeerPublic)
    (hnext : (messenger.next P messages blobs mine label).contacts id =
      some contact) :
    contact = theirs.publicPart := by
  cases label with
  | addPeer peer =>
      simp only [Messenger.next] at hnext
      split at hnext
      next =>
        by_cases hpeer : id = peer.hash P
        · subst hpeer
          simp only [Function.update_self, Option.some.injEq] at hnext
          subst hnext
          exact hspeaks rfl
        · simp only [Function.update_of_ne hpeer] at hnext
          exact hcontact contact hnext
      next => exact hcontact contact hnext
  | send peer text env =>
      simp only [Messenger.next] at hnext
      split at hnext
      next =>
        rw [Messenger.contacts_store] at hnext
        exact hcontact contact hnext
      next => exact hcontact contact hnext
  | purge peer =>
      simp only [Messenger.next] at hnext
      split at hnext <;> exact hcontact contact hnext
  | removePeer peer =>
      by_cases hpeer : id = peer
      · simp [Messenger.next, hpeer] at hnext
      · simp only [Messenger.next, Function.update_of_ne hpeer] at hnext
        exact hcontact contact hnext
  | blobChecked env blob =>
      rw [Messenger.contacts_blobChecked] at hnext
      exact hcontact contact hnext
  | blobStored env =>
      simp only [Messenger.next] at hnext
      split at hnext
      next => exact hcontact contact hnext
      next =>
        simp only [Messenger.contacts_store] at hnext
        exact hcontact contact hnext
  | sessionMessage peer text timestamp env =>
      rw [Messenger.next, Messenger.contacts_store] at hnext
      exact hcontact contact hnext
  | peerOnline | peerOffline | punchHole | sessionUp | historyChecked
  | historyRead => exact hcontact contact hnext

theorem contact_afterCommand
    (hcontact : ∀ contact, messenger.contacts id = some contact →
      contact = theirs.publicPart) (env : LoopEnv) (cmd : Command)
    (contact : PeerPublic)
    (hnext : (messenger.afterCommand P messages blobs mine env cmd).contacts
      id = some contact) :
    contact = theirs.publicPart := by
  unfold Messenger.afterCommand at hnext
  cases cmd with
  | connect | announceNow | setServer | shutdown => exact hcontact contact hnext
  | send | purge | removePeer =>
      refine contact_next_of_speaks ?_ hcontact contact hnext
      trivial

/-- A parcel opens to a payload of its sender. -/
theorem opened_of_issued
    (hdh : P.DhCommutes) (haead : P.AeadCorrect) (hblobs : blobs.RoundTrip)
    (hmine : mine.Genuine P) {parcel : Parcel} {op : ParcelOp}
    (hissued : Issued P messages blobs theirs mine parcel op) :
    ∃ payload, openBlob P blobs mine.x25519Priv parcel.blob = .ok payload ∧
      payload.senderPubHash = theirs.id P ∧
      payload.timestamp = parcel.issued := by
  cases op with
  | text sent =>
      obtain ⟨_, cipher, ephSecret, nonce, -, hblob⟩ := hissued
      rw [hblob]
      exact ⟨_, openBlob_encryptBlob hdh haead hblobs hmine
        (hblobs.toVec_eq _) ephSecret nonce, rfl, rfl⟩
  | wipe =>
      obtain ⟨ephSecret, nonce, hblob⟩ := hissued
      rw [hblob]
      exact ⟨_, openBlob_encryptBlob hdh haead hblobs hmine
        (hblobs.toVec_eq _) ephSecret nonce, rfl, rfl⟩

/-- The recipient reads of a parcel what it asks for, or ignores it: it is
late, or its sender is no contact. -/
theorem read_of_parcel
    (hsig : P.SignatureCorrect) (hdh : P.DhCommutes) (haead : P.AeadCorrect)
    (hround : messages.RoundTrip) (hblobs : blobs.RoundTrip)
    (htheirs : theirs.Genuine P) (hmine : mine.Genuine P)
    {publicKeyOf : KeyType → KeyType} {count : ℕ} {state : DirectoryState}
    (hrefines : RefinesMessenger P messages mine publicKeyOf count state
      messenger)
    (hcontact : ∀ contact, messenger.contacts (theirs.id P) = some contact →
      contact = theirs.publicPart) {parcel : Parcel} {op : ParcelOp}
    (hissued : Issued P messages blobs theirs mine parcel op) (now : Int64) :
    messenger.read P messages blobs mine now parcel.blob =
        op.reading (theirs.id P) parcel.issued ∨
      messenger.read P messages blobs mine now parcel.blob = .ignored := by
  obtain ⟨payload, hopen, hsender, htime⟩ := opened_of_issued hdh haead hblobs
    hmine hissued
  cases hknown : messenger.contacts (theirs.id P) with
  | none =>
      right
      simp only [Messenger.read, hopen, hsender, hknown]
  | some contact =>
      by_cases hfresh : blobIsFresh parcel.issued now = true
      · left
        obtain rfl := hcontact contact hknown
        exact read_of_issued hsig hdh haead hround hblobs htheirs hmine
          hrefines hknown hissued hfresh
      · right
        have hlate : ¬ (blobIsFresh payload.timestamp now = true ∧
            verifySlice P contact.verifying payload.bytesToVerify
              payload.signature = true) := by
          rw [htime]
          exact fun hboth => hfresh hboth.1
        simp only [Messenger.read, hopen, hsender, hknown, if_neg hlate]

end Reading

/-! ## What a session passes on -/

/-- The texts which the event task has taken. -/
def SessionEnd.heard (link : SessionEnd) : List String :=
  (link.recv.emitted.take link.taken).filterMap SessionEvent.text

/-- The texts handed to a session: what its send loop has encrypted and what
still waits for it. -/
def LinkedClient.handed (client : LinkedClient) (number : ℕ) : List String :=
  match client.ends number with
  | none => []
  | some link =>
      link.send.calls.map Prod.snd ++ (client.outbounds number).queue.items

section Session

variable {P : Primitives} {frames : Codec PeerMessage} {receiver : Receiver}
  {calls : List (Int64 × String)} {link next : SessionEnd}

theorem heard_sublist_texts : link.heard.Sublist link.recv.texts :=
  (List.take_sublist link.taken link.recv.emitted).filterMap _

theorem heard_sublist_heard
    (hemitted : link.recv.emitted <+: next.recv.emitted)
    (htaken : next.taken = link.taken) : link.heard.Sublist next.heard := by
  rw [SessionEnd.heard, SessionEnd.heard, htaken]
  exact (hemitted.take link.taken).sublist.filterMap _

theorem heard_take {event : SessionEvent}
    (hevent : link.recv.emitted[link.taken]? = some event)
    (hrecv : next.recv = link.recv) (htaken : next.taken = link.taken + 1) :
    next.heard = link.heard ++ event.text.toList := by
  rw [SessionEnd.heard, SessionEnd.heard, hrecv, htaken, List.take_add_one,
    hevent]
  cases htext : event.text <;> simp [htext]

/-- The receive loop has emitted some of the texts which the other end has
encrypted, in their order. -/
structure EndFollows (P : Primitives) (frames : Codec PeerMessage)
    (receiver : Receiver) (calls : List (Int64 × String))
    (link : SessionEnd) : Prop where
  fed : link.receiving = true → ∃ fed : List Delivery,
    (∀ delivery ∈ fed, Authentic P frames receiver calls delivery) ∧
      RecvInvariant P frames receiver fed link.recv
  texts : calls.length < 2 ^ 63 →
    link.recv.texts.Sublist (calls.map Prod.snd)

theorem EndFollows.initial : EndFollows P frames receiver calls .initial where
  fed := fun _ => ⟨[], by simp, RecvInvariant.initial⟩
  texts := fun _ => List.nil_sublist _

theorem EndFollows.append
    (hfollows : EndFollows P frames receiver calls link)
    (more : List (Int64 × String)) :
    EndFollows P frames receiver (calls ++ more) link where
  fed := by
    intro hreceiving
    obtain ⟨fed, hauth, hinv⟩ := hfollows.fed hreceiving
    refine ⟨fed, ?_, hinv⟩
    intro delivery hdelivery pm counter messageBytes text hgenuine hpayload
      hdecrypt
    obtain ⟨call, hcall, hsame⟩ := hauth delivery hdelivery pm counter
      messageBytes text hgenuine hpayload hdecrypt
    exact ⟨call, List.mem_append_left _ hcall, hsame⟩
  texts := by
    intro hbound
    rw [List.length_append] at hbound
    rw [List.map_append]
    exact (hfollows.texts (by omega)).trans (List.sublist_append_left _ _)

theorem EndFollows.of_inbox
    (hfollows : EndFollows P frames receiver calls link)
    (hrecv : next.recv = link.recv)
    (hreceiving : next.receiving = link.receiving) :
    EndFollows P frames receiver calls next where
  fed := by
    rw [hrecv, hreceiving]
    exact hfollows.fed
  texts := by
    rw [hrecv]
    exact hfollows.texts

theorem EndFollows.stop {recv : RecvState}
    (htexts : calls.length < 2 ^ 63 →
      recv.texts.Sublist (calls.map Prod.snd)) :
    EndFollows P frames receiver calls (link.stop recv) where
  fed := fun hreceiving => by contradiction
  texts := by
    rw [SessionEnd.stop, RecvState.close_texts]
    exact htexts

/-- One more frame, whatever it is. -/
theorem EndFollows.receive
    (haead : P.AeadCorrect)
    (hcalls : calls.length < 2 ^ 63 →
      calls.Pairwise fun x y => x.1.toInt < y.1.toInt)
    (hfollows : EndFollows P frames receiver calls link)
    (hreceiving : link.receiving = true) {delivery : Delivery}
    (hauth : Authentic P frames receiver calls delivery) :
    EndFollows P frames receiver calls
      (link.afterFrame
        (handleInboundFrame P frames receiver link.recv delivery)) := by
  obtain ⟨fed, hfed, hinv⟩ := hfollows.fed hreceiving
  have hnext := hinv.step delivery
  have hall : ∀ other ∈ fed ++ [delivery],
      Authentic P frames receiver calls other := by
    intro other hother
    rcases List.mem_append.mp hother with hold | hnew
    · exact hfed other hold
    · rw [List.mem_singleton.mp hnew]
      exact hauth
  have htexts (hbound : calls.length < 2 ^ 63) :
      (handleInboundFrame P frames receiver link.recv
        delivery).1.texts.Sublist (calls.map Prod.snd) := by
    rw [RecvState.texts, hnext.emitted]
    exact deliveredEvents_texts_sublist_calls haead (hcalls hbound) hall
  unfold SessionEnd.afterFrame
  split
  next => exact ⟨fun _ => ⟨fed ++ [delivery], hall, hnext⟩, htexts⟩
  next => exact EndFollows.stop htexts

variable (P frames receiver) in
theorem emitted_prefix_handleInboundFrame
    (state : RecvState) (delivery : Delivery) :
    state.emitted <+:
      (handleInboundFrame P frames receiver state delivery).1.emitted := by
  rcases handleInboundFrame_cases P frames receiver state delivery with
    ⟨chat, -, -, hresult⟩ | ⟨-, ⟨-, hresult⟩ | ⟨-, hresult⟩⟩
  · rw [hresult]
    split
    next => exact List.prefix_append _ _
    next => exact List.prefix_refl _
  · rw [hresult]
  · rw [hresult]

theorem emitted_prefix_close (recv : RecvState) (evtOpen : Bool) :
    recv.emitted <+: (recv.close evtOpen).emitted := by
  unfold RecvState.close
  split
  next => exact List.prefix_append _ _
  next => exact List.prefix_refl _

theorem emitted_prefix_afterFrame (delivery : Delivery) :
    link.recv.emitted <+: (link.afterFrame
      (handleInboundFrame P frames receiver link.recv
        delivery)).recv.emitted := by
  have hhandled := emitted_prefix_handleInboundFrame P frames receiver
    link.recv delivery
  unfold SessionEnd.afterFrame
  split
  next => exact hhandled
  next => exact hhandled.trans (emitted_prefix_close _ _)

theorem taken_afterFrame (result : RecvState × Bool) :
    (link.afterFrame result).taken = link.taken := by
  unfold SessionEnd.afterFrame
  split <;> rfl

theorem send_afterFrame (result : RecvState × Bool) :
    (link.afterFrame result).send = link.send := by
  unfold SessionEnd.afterFrame
  split <;> rfl

/-- The text of a turn of the send loop. -/
def Outgoing.texts : Outgoing → List String
  | .text sent => [sent]
  | _ => []

variable (P frames) in
theorem sendStep_calls (sender : Sender) (state : SendState)
    (outgoing : Outgoing) (env : SendEnv) :
    ∃ more, (sendStep P frames sender state (outgoing, env)).1.calls =
        state.calls ++ more ∧
      more.map Prod.snd = outgoing.texts := by
  cases outgoing with
  | text sent => exact ⟨[(state.counter + 1, sent)], by simp [sendStep], rfl⟩
  | closed => exact ⟨[], by simp [sendStep], rfl⟩
  | heartbeat => exact ⟨[], by simp [sendStep], rfl⟩

/-- What a turn of the send loop changes. -/
theorem sendTurn_eq
    {keys : Side → Keys} {sessionKey : ℕ → KeyType} {side : Side}
    {number : ℕ} {client : LinkedClient} {channel : OutboundChannel}
    {outgoing : Outgoing} {env : SendEnv} :
    sendTurn P frames keys sessionKey side number
        (client.setOutbound number channel) link outgoing env =
      let result := sendStep P frames
        (sessionSender P keys .direct (sessionKey number) side) link.send
        (outgoing, env)
      (client.setEnd number
        { link with send := result.1, sending := result.2 }).setOutbound number
          (if result.2 then channel else ⟨false, .empty⟩) := by
  simp only [sendTurn]
  split
  next => rfl
  next =>
    simp only [LinkedClient.setOutbound, LinkedClient.setEnd,
      Function.update_idem]

end Session

end SechatClient
