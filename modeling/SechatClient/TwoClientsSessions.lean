import SechatClient.TwoClientsSteps

/-!
# The sessions of two clients

The steps of the sessions keep the invariant of two clients: a session starts
and ends on either side, its send loop reads the channel, its receive loop is
given some bytes, and its event task stores a text.
-/

namespace SechatClient

open ByteStrings OrderedStore StepSystem TaggedLists

variable {P : Primitives} {frames : Codec PeerMessage}
  {messages : Codec Message} {blobs : Codec BlobPayload} {keys : Side → Keys}
  {sessionKey : ℕ → KeyType} {publicKeyOf : KeyType → KeyType}

section Steps

variable {count : ℕ} {state next : TwoClients}
  {messengers : Side → Messenger} {ops : Side → List ParcelOp}
  {sent received : Side → List (TextPath × String)} {side : Side}

/-! ## One end of a session -/

theorem ClientKeeps.setEnd
    {client : LinkedClient} {messenger : Messenger} {number : ℕ}
    {link : SessionEnd} (changed : SessionEnd)
    (hkeeps : ClientKeeps P messages keys publicKeyOf count side client
      messenger)
    (hlink : client.ends number = some link)
    (hnumbered : changed.send.Numbered) :
    ClientKeeps P messages keys publicKeyOf count side
      (client.setEnd number changed) messenger where
  refines := hkeeps.refines
  authored := hkeeps.authored
  contact := hkeeps.contact
  isOpen := hkeeps.isOpen
  owner := by
    intro peer entry hentry hend
    refine hkeeps.owner peer entry hentry ?_
    by_cases hnumber : entry.outbound = number
    · rw [hnumber, hlink]
      rfl
    · simpa only [LinkedClient.setEnd, Function.update_of_ne hnumber]
        using hend
  numbered := by
    intro other found hfound
    by_cases hother : other = number
    · subst hother
      simp only [LinkedClient.setEnd, Function.update_self,
        Option.some.injEq] at hfound
      rw [← hfound]
      exact hnumbered
    · simp only [LinkedClient.setEnd, Function.update_of_ne hother] at hfound
      exact hkeeps.numbered other found hfound

/-- The other client is the only owner of the entry of its sessions. -/
theorem ClientKeeps.setEntry
    {client : LinkedClient} {messenger : Messenger}
    (hkeeps : ClientKeeps P messages keys publicKeyOf count side client
      messenger) (entry : Option SessionEntry) :
    ClientKeeps P messages keys publicKeyOf count side
      (client.setEntry ((keys side.other).id P) entry) messenger :=
  { hkeeps with
    owner := by
      intro peer found hfound hend
      by_cases hpeer : peer = (keys side.other).id P
      · exact hpeer
      · simp only [LinkedClient.setEntry, Function.update_of_ne hpeer]
          at hfound
        exact hkeeps.owner peer found hfound hend }

/-- The sender changes at one of its ends only. -/
theorem SenderMove.at_end
    {mine next : LinkedClient} (number : ℕ)
    (hserver : next.server = mine.server)
    (hends : ∀ other, other ≠ number → next.ends other = mine.ends other)
    (houtbounds : ∀ other, other ≠ number →
      next.outbounds other = mine.outbounds other)
    (hhanded : (next.handed number).Sublist (mine.handed number))
    (hcalls : ∃ more, next.calls number = mine.calls number ++ more) :
    SenderMove P keys side mine next where
  parcels := by rw [hserver]
  handed := by
    intro other
    by_cases hother : other = number
    · rw [hother]
      exact hhanded
    · rw [LinkedClient.handed, LinkedClient.handed, hends other hother,
        houtbounds other hother]
  calls := by
    intro other
    by_cases hother : other = number
    · rw [hother]
      exact hcalls
    · refine ⟨[], ?_⟩
      rw [LinkedClient.calls, LinkedClient.calls, hends other hother,
        List.append_nil]

/-- The sender's half of an end stays as it is. -/
theorem SenderMove.of_end
    {mine next : LinkedClient} {number : ℕ} {link changed : SessionEnd}
    (hlink : mine.ends number = some link)
    (hserver : next.server = mine.server)
    (hends : next.ends = Function.update mine.ends number (some changed))
    (houtbounds : next.outbounds = mine.outbounds)
    (hsend : changed.send = link.send) :
    SenderMove P keys side mine next := by
  have hself : next.ends number = some changed := by
    rw [hends, Function.update_self]
  refine .at_end number hserver ?_ ?_ ?_ ⟨[], ?_⟩
  · intro other hother
    rw [hends, Function.update_of_ne hother]
  · intro other _
    rw [houtbounds]
  · simp only [LinkedClient.handed, hself, hlink, hsend, houtbounds]
    exact List.Sublist.refl _
  · simp only [LinkedClient.calls, hself, hlink, hsend, List.append_nil]

/-- The reader's end of a session is replaced. -/
theorem PathsFollow.setInbox
    {mine theirs next : LinkedClient} {box : List Parcel} {reader : Messenger}
    {ops : List ParcelOp} {sent received : List (TextPath × String)}
    {number : ℕ} {changed : SessionEnd}
    (hpaths : PathsFollow P frames messages blobs keys sessionKey side mine
      theirs box reader ops sent received)
    (hends : next.ends = Function.update theirs.ends number (some changed))
    (hfollows : EndFollows P frames
      (sessionReceiver P keys (sessionKey number) side.other)
      (mine.calls number) changed)
    (hheard : (via (.session number) received).Sublist changed.heard) :
    PathsFollow P frames messages blobs keys sessionKey side mine next box
      reader ops sent received :=
  { hpaths with
    follows := by
      intro other found hfound
      by_cases hother : other = number
      · subst hother
        rw [hends, Function.update_self, Option.some.injEq] at hfound
        rw [← hfound]
        exact hfollows
      · rw [hends, Function.update_of_ne hother] at hfound
        exact hpaths.follows other found hfound
    heard := by
      intro other found hfound
      by_cases hother : other = number
      · subst hother
        rw [hends, Function.update_self, Option.some.injEq] at hfound
        rw [← hfound]
        exact hheard
      · rw [hends, Function.update_of_ne hother] at hfound
        exact hpaths.heard other found hfound
    unheard := by
      intro other hnone
      by_cases hother : other = number
      · rw [hother, hends, Function.update_self] at hnone
        contradiction
      · rw [hends, Function.update_of_ne hother] at hnone
        exact hpaths.unheard other hnone }

/-- A session starts, before it is in the map. -/
theorem TwoClientsInvariant.started
    (haead : P.AeadCorrect) (hround : messages.RoundTrip)
    (hinv : TwoClientsInvariant P frames messages blobs keys sessionKey
      publicKeyOf count state messengers ops sent received)
    (hcount : count < 2 ^ 64) {number : ℕ}
    (hfresh : ∀ peer entry, (state.clients side).sessionMap peer = some entry →
      entry.outbound ≠ number)
    (hstep : twoClientsStep P frames messages blobs keys sessionKey state
      (.started side number) = some next) :
    TextsFollow P frames messages blobs keys sessionKey publicKeyOf
      (count + 1) next sent := by
  simp only [twoClientsStep] at hstep
  split at hstep
  next => contradiction
  next hnone =>
    obtain ⟨after, hafter, rfl⟩ := Option.map_eq_some_iff.mp hstep
    have hkept := hinv.clients side
    have hin := hinv.incoming side
    have hkeeps : ClientKeeps P messages keys publicKeyOf (count + 1) side
        ((((state.clients side).withDirectory after).setEnd number
          .initial).setOutbound number ⟨true, .empty⟩) (messengers side) :=
      { refines := hkept.refines.step haead hround hcount
          (fun peer hpeer => by contradiction) hafter
        authored := hkept.authored
        contact := hkept.contact
        isOpen := hkept.isOpen
        owner := by
          intro peer entry hentry hend
          refine hkept.owner peer entry hentry ?_
          simpa only [LinkedClient.setOutbound, LinkedClient.setEnd,
            LinkedClient.withDirectory,
            Function.update_of_ne (hfresh peer entry hentry)] using hend
        numbered := by
          intro other found hfound
          by_cases hother : other = number
          · subst hother
            simp only [LinkedClient.setOutbound, LinkedClient.setEnd,
              Function.update_self, Option.some.injEq] at hfound
            rw [← hfound]
            exact SendState.initial_numbered
          · simp only [LinkedClient.setOutbound, LinkedClient.setEnd,
              Function.update_of_ne hother] at hfound
            exact hkept.numbered other found hfound }
    refine hinv.quiet rfl rfl hkeeps ?_ ⟨_, hin.setInbox rfl .initial ?_⟩
    · refine .at_end number rfl ?_ ?_ ?_ ⟨[], ?_⟩
      · intro other hother
        exact Function.update_of_ne hother ..
      · intro other hother
        exact Function.update_of_ne hother ..
      · simp [LinkedClient.handed, LinkedClient.setOutbound,
          LinkedClient.setEnd, SessionEnd.initial, SendState.initial,
          BoundedQueue.empty]
      · simp [LinkedClient.calls, LinkedClient.setOutbound,
          LinkedClient.setEnd, SessionEnd.initial, SendState.initial, hnone]
    · rw [hin.unheard number hnone]
      exact List.nil_sublist _

/-- The event task moves on, and the entry of the peer with it. -/
theorem TwoClientsInvariant.moves_events
    (hinv : TwoClientsInvariant P frames messages blobs keys sessionKey
      publicKeyOf count state messengers ops sent received)
    {number : ℕ} {link : SessionEnd}
    (hlink : (state.clients side).ends number = some link)
    (events : EventTask) (entry : Option SessionEntry) :
    TextsFollow P frames messages blobs keys sessionKey publicKeyOf
      (count + 1) (state.setClient side
        (((state.clients side).setEnd number
          { link with events := events }).setEntry
            ((keys side.other).id P) entry)) sent := by
  have hkept := (hinv.clients side).succ
  have hkeeps := (hkept.setEnd { link with events := events } hlink
    (hkept.numbered number link hlink)).setEntry entry
  refine hinv.quiet rfl rfl hkeeps (.of_end hlink rfl rfl rfl rfl) ?_
  exact ⟨_, (hinv.incoming side).inboxes (.setEnd hlink rfl rfl rfl rfl)⟩

/-- The session is put into the map. -/
theorem TwoClientsInvariant.inserted
    (hinv : TwoClientsInvariant P frames messages blobs keys sessionKey
      publicKeyOf count state messengers ops sent received)
    {number : ℕ}
    (hstep : twoClientsStep P frames messages blobs keys sessionKey state
      (.inserted side number) = some next) :
    TextsFollow P frames messages blobs keys sessionKey publicKeyOf
      (count + 1) next sent := by
  simp only [twoClientsStep] at hstep
  split at hstep
  next => contradiction
  next link hlink =>
    split at hstep
    next =>
      cases hstep
      exact hinv.moves_events hlink .running (some ⟨number, none⟩)
    next => contradiction

/-- The event task ends, and removes what the map holds for the peer. -/
theorem TwoClientsInvariant.removed
    (hinv : TwoClientsInvariant P frames messages blobs keys sessionKey
      publicKeyOf count state messengers ops sent received)
    {number : ℕ}
    (hstep : twoClientsStep P frames messages blobs keys sessionKey state
      (.removed side number) = some next) :
    TextsFollow P frames messages blobs keys sessionKey publicKeyOf
      (count + 1) next sent := by
  simp only [twoClientsStep] at hstep
  split at hstep
  next => contradiction
  next link hlink =>
    split at hstep
    next =>
      cases hstep
      exact hinv.moves_events hlink .ended none
    next => contradiction

/-! ## The loops of a session -/

/-- A turn of the send loop moves the texts it reads from the channel to the
calls. -/
theorem TwoClientsInvariant.turn
    (hinv : TwoClientsInvariant P frames messages blobs keys sessionKey
      publicKeyOf count state messengers ops sent received)
    {number : ℕ} {link : SessionEnd} (outgoing : Outgoing) (env : SendEnv)
    (channel : OutboundChannel)
    (hlink : (state.clients side).ends number = some link)
    (hqueue : (outgoing.texts ++ channel.queue.items).Sublist
      ((state.clients side).outbounds number).queue.items) :
    TextsFollow P frames messages blobs keys sessionKey publicKeyOf
      (count + 1) (state.setClient side (sendTurn P frames keys sessionKey
        side number ((state.clients side).setOutbound number channel) link
        outgoing env)) sent := by
  have hkept := (hinv.clients side).succ
  have hnumbered := hkept.numbered number link hlink
  obtain ⟨more, hcalls, htexts⟩ := sendStep_calls P frames
    (sessionSender P keys .direct (sessionKey number) side) link.send outgoing
    env
  have hnext := sendStep_numbered P frames
    (sessionSender P keys .direct (sessionKey number) side) hnumbered
    (outgoing, env)
  rw [sendTurn_eq]
  generalize sendStep P frames
    (sessionSender P keys .direct (sessionKey number) side) link.send
    (outgoing, env) = result at hcalls hnext ⊢
  have hkeeps := hkept.setEnd
    { link with send := result.1, sending := result.2 } hlink hnext
  have hinboxes : KeepsInboxes (state.clients side)
      ((state.clients side).setEnd number
        { link with send := result.1, sending := result.2 }) :=
    .setEnd hlink rfl rfl rfl rfl
  refine hinv.quiet rfl rfl { hkeeps with } ?_
    ⟨_, (hinv.incoming side).inboxes hinboxes⟩
  refine .at_end number rfl ?_ ?_ ?_ ⟨more, ?_⟩
  · intro other hother
    exact Function.update_of_ne hother ..
  · intro other hother
    exact Function.update_of_ne hother ..
  · have hleft : (if result.2 then channel
        else ⟨false, .empty⟩ : OutboundChannel).queue.items.Sublist
          channel.queue.items := by
      split
      next => exact List.Sublist.refl _
      next => exact List.nil_sublist _
    simp only [LinkedClient.handed, LinkedClient.setOutbound,
      LinkedClient.setEnd, Function.update_self, hlink, hcalls,
      List.map_append, htexts, List.append_assoc]
    exact (List.Sublist.refl _).append
      (((List.Sublist.refl _).append hleft).trans hqueue)
  · simp only [LinkedClient.calls, LinkedClient.setOutbound,
      LinkedClient.setEnd, Function.update_self, hlink, hcalls]

theorem TwoClientsInvariant.sends
    (hinv : TwoClientsInvariant P frames messages blobs keys sessionKey
      publicKeyOf count state messengers ops sent received)
    {number : ℕ} {env : SendEnv}
    (hstep : twoClientsStep P frames messages blobs keys sessionKey state
      (.sends side number env) = some next) :
    TextsFollow P frames messages blobs keys sessionKey publicKeyOf
      (count + 1) next sent := by
  simp only [twoClientsStep] at hstep
  split at hstep
  next => contradiction
  next link hlink =>
    split at hstep
    next =>
      obtain ⟨⟨outgoing, channel⟩, houtgoing, rfl⟩ :=
        Option.map_eq_some_iff.mp hstep
      refine hinv.turn outgoing env channel hlink ?_
      unfold LinkedClient.outgoing at houtgoing
      split at houtgoing
      next text rest hrecv =>
        cases houtgoing
        rw [BoundedQueue.recv_eq_some hrecv]
        exact List.Sublist.refl _
      next =>
        split at houtgoing
        next =>
          cases houtgoing
          exact List.Sublist.refl _
        next => contradiction
    next => contradiction

theorem TwoClientsInvariant.beats
    (hinv : TwoClientsInvariant P frames messages blobs keys sessionKey
      publicKeyOf count state messengers ops sent received)
    {number : ℕ} {env : SendEnv}
    (hstep : twoClientsStep P frames messages blobs keys sessionKey state
      (.beats side number env) = some next) :
    TextsFollow P frames messages blobs keys sessionKey publicKeyOf
      (count + 1) next sent := by
  simp only [twoClientsStep] at hstep
  split at hstep
  next => contradiction
  next link hlink =>
    split at hstep
    next =>
      cases hstep
      have hturn := hinv.turn .heartbeat env
        ((state.clients side).outbounds number) hlink (List.Sublist.refl _)
      rwa [LinkedClient.setOutbound, Function.update_eq_self] at hturn
    next => contradiction

/-- The calls of an end are the ones of an end with numbered calls. -/
theorem ClientKeeps.calls_pairwise
    {client : LinkedClient} {messenger : Messenger}
    (hkeeps : ClientKeeps P messages keys publicKeyOf count side client
      messenger) {number : ℕ}
    (hbound : (client.calls number).length < 2 ^ 63) :
    (client.calls number).Pairwise fun x y => x.1.toInt < y.1.toInt := by
  unfold LinkedClient.calls at hbound ⊢
  cases hlink : client.ends number with
  | none => exact List.Pairwise.nil
  | some link =>
      rw [hlink] at hbound
      exact (hkeeps.numbered number link hlink).calls_pairwise hbound

/-- The receive loop gets some bytes. -/
theorem TwoClientsInvariant.receives
    (haead : P.AeadCorrect)
    (hinv : TwoClientsInvariant P frames messages blobs keys sessionKey
      publicKeyOf count state messengers ops sent received)
    {number : ℕ} {bytes : Bytes} {now : Int64}
    (hauth : ∀ evtOpen, Authentic P frames
      (sessionReceiver P keys (sessionKey number) side)
      ((state.clients side.other).calls number) ⟨bytes, now, evtOpen⟩)
    (hstep : twoClientsStep P frames messages blobs keys sessionKey state
      (.receives side number bytes now) = some next) :
    TextsFollow P frames messages blobs keys sessionKey publicKeyOf
      (count + 1) next sent := by
  simp only [twoClientsStep] at hstep
  split at hstep
  next => contradiction
  next link hlink =>
    split at hstep
    next hreceiving =>
      cases hstep
      have hkept := (hinv.clients side).succ
      have hin := hinv.incoming side
      have hnumbered : (receiveTurn P frames keys sessionKey side number link
          bytes now).send.Numbered := by
        rw [receiveTurn, send_afterFrame]
        exact hkept.numbered number link hlink
      have hkeeps := hkept.setEnd _ hlink hnumbered
      have hfollows := hin.follows number link hlink
      simp only [Side.other_other] at hfollows
      refine hinv.quiet rfl rfl hkeeps
        (.of_end hlink rfl rfl rfl (send_afterFrame _)) ⟨_, hin.setInbox rfl ?_ ?_⟩
      · rw [Side.other_other]
        exact hfollows.receive haead
          (hinv.clients side.other).calls_pairwise hreceiving (hauth _)
      · exact (hin.heard number link hlink).trans
          (heard_sublist_heard (emitted_prefix_afterFrame _)
            (taken_afterFrame _))
    next => contradiction

/-- The receive loop hears nothing any more, and stops. -/
theorem TwoClientsInvariant.silent
    (hinv : TwoClientsInvariant P frames messages blobs keys sessionKey
      publicKeyOf count state messengers ops sent received)
    {number : ℕ}
    (hstep : twoClientsStep P frames messages blobs keys sessionKey state
      (.silent side number) = some next) :
    TextsFollow P frames messages blobs keys sessionKey publicKeyOf
      (count + 1) next sent := by
  simp only [twoClientsStep] at hstep
  split at hstep
  next => contradiction
  next link hlink =>
    split at hstep
    next =>
      cases hstep
      have hkept := (hinv.clients side).succ
      have hin := hinv.incoming side
      have hkeeps := hkept.setEnd (link.stop link.recv) hlink
        (hkept.numbered number link hlink)
      refine hinv.quiet rfl rfl hkeeps (.of_end hlink rfl rfl rfl rfl)
        ⟨_, hin.setInbox rfl (.stop (hin.follows number link hlink).texts) ?_⟩
      exact (hin.heard number link hlink).trans
        (heard_sublist_heard (emitted_prefix_close _ _) rfl)
    next => contradiction

/-- The reader stores a text which its event task takes from a session. -/
theorem PathsFollow.hears
    {mine theirs after : LinkedClient} {box : List Parcel} {reader : Messenger}
    {ops : List ParcelOp} {sent received : List (TextPath × String)}
    {number : ℕ} {link changed : SessionEnd} {text : String}
    {timestamp : Int64} (locked : Bool)
    (hpaths : PathsFollow P frames messages blobs keys sessionKey side mine
      theirs box reader ops sent received)
    (hlink : theirs.ends number = some link)
    (hevent : link.recv.emitted[link.taken]? = some (.message text timestamp))
    (hends : after.ends = Function.update theirs.ends number (some changed))
    (hrecv : changed.recv = link.recv)
    (hreceiving : changed.receiving = link.receiving)
    (htaken : changed.taken = link.taken + 1) :
    ∃ received, PathsFollow P frames messages blobs keys sessionKey side mine
      after box (reader.store locked ((keys side).id P)
        ⟨.peer, text, timestamp⟩) ops sent received := by
  have hheard : changed.heard = link.heard ++ [text] :=
    heard_take hevent hrecv htaken
  have hfollows := (hpaths.follows number link hlink).of_inbox hrecv hreceiving
  have hbefore := hpaths.heard number link hlink
  have hsublist : (via (.session number) received).Sublist changed.heard := by
    rw [hheard]
    exact hbefore.trans (List.sublist_append_left _ _)
  have hmoved := hpaths.setInbox hends hfollows hsublist
  have htexts : (reader.store locked ((keys side).id P)
      ⟨.peer, text, timestamp⟩).textsBy .peer ((keys side).id P) =
        reader.textsBy .peer ((keys side).id P) ++
          if locked = false then [text] else [] := by
    simp [Messenger.textsBy_store]
  have hpending : (reader.store locked ((keys side).id P)
      ⟨.peer, text, timestamp⟩).pending ((keys side).id P) =
        reader.pending ((keys side).id P) := by
    rw [Messenger.pending, Messenger.checked_store, Messenger.pending]
  cases locked with
  | true =>
      refine ⟨received,
        { hmoved with
          mailed := ?_
          shown := ?_ }⟩
      · rw [hpending]
        exact hmoved.mailed
      · rw [htexts, hmoved.shown]
        simp
  | false =>
      refine ⟨received ++ tagged (.session number) [text],
        { hmoved with
          mailed := ?_
          heard := ?_
          unheard := ?_
          shown := ?_ }⟩
      · rw [hpending, via_append, via_tagged_of_ne (by simp), List.append_nil]
        exact hmoved.mailed
      · intro other found hfound
        rw [via_append]
        by_cases hother : other = number
        · subst hother
          rw [hends, Function.update_self, Option.some.injEq] at hfound
          rw [← hfound, hheard, via_tagged_self]
          exact hbefore.append (List.Sublist.refl _)
        · rw [via_tagged_of_ne (by simpa using Ne.symm hother),
            List.append_nil]
          exact hmoved.heard other found hfound
      · intro other hnone
        have hother : other ≠ number := by
          rintro rfl
          rw [hends, Function.update_self] at hnone
          contradiction
        rw [via_append, via_tagged_of_ne (by simpa using Ne.symm hother),
          List.append_nil]
        exact hmoved.unheard other hnone
      · rw [List.map_append, map_snd_tagged, hmoved.shown, htexts]
        simp

/-- The event task takes the next event of its session. -/
theorem TwoClientsInvariant.event
    (haead : P.AeadCorrect) (hround : messages.RoundTrip)
    (hinv : TwoClientsInvariant P frames messages blobs keys sessionKey
      publicKeyOf count state messengers ops sent received)
    (hcount : count < 2 ^ 64) {number : ℕ} {env : BlobEnv}
    (hstep : twoClientsStep P frames messages blobs keys sessionKey state
      (.event side number env) = some next) :
    TextsFollow P frames messages blobs keys sessionKey publicKeyOf
      (count + 1) next sent := by
  simp only [twoClientsStep] at hstep
  split at hstep
  next => contradiction
  next link hlink =>
    split at hstep
    next =>
      obtain ⟨client, hclient, rfl⟩ := Option.map_eq_some_iff.mp hstep
      obtain ⟨event, hevent, hturn⟩ := Option.bind_eq_some_iff.mp hclient
      have hkept := hinv.clients side
      have hin := hinv.incoming side
      cases event with
      | message text timestamp =>
          obtain ⟨after, hafter, rfl⟩ := Option.map_eq_some_iff.mp hturn
          have hmoved : ClientKeeps P messages keys publicKeyOf (count + 1)
              side ((state.clients side).withDirectory after)
              ((messengers side).store env.locked ((keys side.other).id P)
                ⟨.peer, text, timestamp⟩) :=
            { refines := hkept.refines.step haead hround hcount
                (fun peer hpeer => by contradiction) hafter
              authored := by
                intro id msg hchecked
                rw [Messenger.checked_store] at hchecked
                exact hkept.authored id msg hchecked
              contact := by
                rw [Messenger.contacts_store]
                exact hkept.contact
              isOpen := hkept.isOpen
              owner := hkept.owner
              numbered := hkept.numbered }
          have hkeeps := hmoved.setEnd { link with taken := link.taken + 1 }
            hlink (hkept.numbered number link hlink)
          exact hinv.quiet rfl rfl hkeeps (.of_end hlink rfl rfl rfl rfl)
            (hin.hears env.locked hlink hevent rfl rfl rfl rfl)
      | closed =>
          cases hturn
          have hkeeps := hkept.succ.setEnd
            { link with
              taken := link.taken + 1
              events := .closing } hlink (hkept.numbered number link hlink)
          refine hinv.quiet rfl rfl hkeeps (.of_end hlink rfl rfl rfl rfl)
            ⟨_, hin.setInbox rfl
              ((hin.follows number link hlink).of_inbox rfl rfl) ?_⟩
          have hheard : ({ link with
              taken := link.taken + 1
              events := .closing } : SessionEnd).heard =
                link.heard ++ SessionEvent.closed.text.toList :=
            heard_take hevent rfl rfl
          rw [hheard]
          exact (hin.heard number link hlink).trans
            (List.sublist_append_left _ _)
    next => contradiction

end Steps

end SechatClient
