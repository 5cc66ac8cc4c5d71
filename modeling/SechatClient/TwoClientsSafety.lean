import SechatClient.MirroredConversations
import SechatClient.TwoClientsSessions

/-!
# What one client shows was sent by the other

Whatever the two users do, and whatever the network does to the frames of their
sessions, the texts which one client shows as received are, path by path, a
selection of the texts which the other user sent.
-/

namespace SechatClient

open ByteStrings OrderedStore StepSystem TaggedLists

variable {P : Primitives} {frames : Codec PeerMessage}
  {messages : Codec Message} {blobs : Codec BlobPayload} {keys : Side → Keys}
  {sessionKey : ℕ → KeyType} {publicKeyOf : KeyType → KeyType}

/-! ## Runs -/

section Runs

variable {count : ℕ} {state next final : TwoClients}
  {sent : Side → List (TextPath × String)}

theorem TextsFollow.initial :
    TextsFollow P frames messages blobs keys sessionKey publicKeyOf 0 .initial
      fun _ => [] := by
  refine ⟨fun _ => .initial, fun _ => [], fun _ => [], ?_, ?_, ?_⟩
  · intro side
    exact
      { refines := RefinesMessenger.initial
        authored := fun id msg hchecked => by contradiction
        contact := fun contact hcontact => by contradiction
        isOpen := rfl
        owner := fun peer entry hentry => by contradiction
        numbered := fun number link hlink => by contradiction }
  · intro side
    exact
      { issued := List.Forall₂.nil
        mailed := List.Sublist.refl _
        handed := fun number => List.Sublist.refl _
        follows := fun number link hlink => by contradiction
        heard := fun number link hlink => by contradiction
        unheard := fun number _ => rfl
        shown := rfl }
  · exact fun side => Nat.le_refl 0

/-- Any step of either client, of the relay or of a session. -/
theorem TextsFollow.step
    (hsig : P.SignatureCorrect) (hdh : P.DhCommutes) (haead : P.AeadCorrect)
    (hround : messages.RoundTrip) (hblobs : blobs.RoundTrip)
    (hgenuine : ∀ side, (keys side).Genuine P)
    (hpublic : ∀ side, publicKeyOf ((keys side).id P) = (keys side).x25519Pub)
    (hfollow : TextsFollow P frames messages blobs keys sessionKey publicKeyOf
      count state sent) (hcount : count < 2 ^ 64) {label : TwoClientsLabel}
    (hok : Trustworthy P frames messages blobs keys sessionKey state label)
    (hkey : ∀ peer, label.directory = some (.addPeer peer) →
      P.isVerifyingKey peer.verifying = true →
      peer.publicKey = publicKeyOf (peer.hash P))
    (hstep : twoClientsStep P frames messages blobs keys sessionKey state
      label = some next) :
    TextsFollow P frames messages blobs keys sessionKey publicKeyOf
      (count + 1) next fun side =>
        sent side ++ sentFrom P keys side state label := by
  obtain ⟨messengers, ops, received, hinv⟩ := hfollow
  cases label with
  | command side env cmd =>
      exact hinv.command haead hround hblobs hgenuine hpublic hcount hok hstep
  | task side label =>
      have hadds : ∀ peer, label = .addPeer peer →
          P.isVerifyingKey peer.verifying = true →
          peer.publicKey = publicKeyOf (peer.hash P) :=
        fun peer hlabel => hkey peer (congrArg some hlabel)
      simpa only [sentFrom, List.append_nil] using
        hinv.task haead hround hcount hok hadds hstep
  | others side loop =>
      simpa only [sentFrom, List.append_nil] using hinv.others hok hstep
  | forwarded side =>
      simpa only [sentFrom, List.append_nil] using hinv.forwarded hstep
  | delivered side env =>
      simpa only [sentFrom, List.append_nil] using
        hinv.delivered hsig hdh haead hround hblobs hgenuine hcount hstep
  | lost side =>
      simpa only [sentFrom, List.append_nil] using hinv.lost hstep
  | started side number =>
      simpa only [sentFrom, List.append_nil] using
        hinv.started haead hround hcount hok hstep
  | inserted side number =>
      simpa only [sentFrom, List.append_nil] using hinv.inserted hstep
  | sends side number env =>
      simpa only [sentFrom, List.append_nil] using hinv.sends hstep
  | beats side number env =>
      simpa only [sentFrom, List.append_nil] using hinv.beats hstep
  | receives side number bytes now =>
      simpa only [sentFrom, List.append_nil] using
        hinv.receives haead hok hstep
  | silent side number =>
      simpa only [sentFrom, List.append_nil] using hinv.silent hstep
  | event side number env =>
      simpa only [sentFrom, List.append_nil] using
        hinv.event haead hround hcount hstep
  | removed side number =>
      simpa only [sentFrom, List.append_nil] using hinv.removed hstep

theorem TextsFollow.run
    (hsig : P.SignatureCorrect) (hdh : P.DhCommutes) (haead : P.AeadCorrect)
    (hround : messages.RoundTrip) (hblobs : blobs.RoundTrip)
    (hgenuine : ∀ side, (keys side).Genuine P)
    (hpublic : ∀ side, publicKeyOf ((keys side).id P) = (keys side).x25519Pub)
    (hfollow : TextsFollow P frames messages blobs keys sessionKey publicKeyOf
      count state sent) {labels : List TwoClientsLabel}
    (hcount : count + labels.length ≤ 2 ^ 64)
    (hkeys : ∀ label ∈ labels, ∀ peer,
      label.directory = some (.addPeer peer) →
      P.isVerifyingKey peer.verifying = true →
      peer.publicKey = publicKeyOf (peer.hash P))
    (hok : AllSteps
      (twoClientsStep P frames messages blobs keys sessionKey)
      (Trustworthy P frames messages blobs keys sessionKey) state labels)
    (hrun : runFrom (twoClientsStep P frames messages blobs keys sessionKey)
      state labels = some final) :
    TextsFollow P frames messages blobs keys sessionKey publicKeyOf
      (count + labels.length) final fun side =>
        sent side ++ sentAlong P frames messages blobs keys sessionKey side
          state labels := by
  induction labels generalizing count state sent with
  | nil =>
      cases hrun
      simpa only [sentAlong, List.append_nil, List.length_nil,
        Nat.add_zero] using hfollow
  | cons label rest ih =>
      obtain ⟨middle, hstep, hrest⟩ := runFrom_cons_eq_some.mp hrun
      rw [List.length_cons] at hcount
      have hmoved := hfollow.step hsig hdh haead hround hblobs hgenuine
        hpublic (by omega) hok.1 (hkeys label List.mem_cons_self) hstep
      have hall := ih hmoved (by omega)
        (fun other hother => hkeys other (List.mem_cons_of_mem _ hother))
        (hok.2 middle hstep) hrest
      simpa only [sentAlong, hstep, List.append_assoc, List.length_cons,
        Nat.add_assoc, Nat.add_comm 1] using hall

end Runs

/-! ## What a path delivers -/

section Delivery

variable {side : Side} {mine theirs : LinkedClient} {box : List Parcel}
  {reader : Messenger} {ops : List ParcelOp}
  {sent received : List (TextPath × String)}

theorem LinkedClient.calls_sublist_handed (number : ℕ) :
    ((mine.calls number).map Prod.snd).Sublist (mine.handed number) := by
  unfold LinkedClient.calls LinkedClient.handed
  cases mine.ends number with
  | none => exact List.Sublist.refl _
  | some link => exact List.sublist_append_left _ _

/-- Fewer than `2 ^ 63` texts keep the counters of a session apart. -/
theorem PathsFollow.selects
    (hpaths : PathsFollow P frames messages blobs keys sessionKey side mine
      theirs box reader ops sent received)
    (hbound : sent.length < 2 ^ 63) : Selects received sent := by
  intro path
  cases path with
  | mailbox =>
      have hall := hpaths.mailed
      rw [List.append_assoc] at hall
      exact (List.sublist_append_left _ _).trans hall
  | session number =>
      cases hlink : theirs.ends number with
      | none =>
          rw [hpaths.unheard number hlink]
          exact List.nil_sublist _
      | some link =>
          have hcalls : ((mine.calls number).map Prod.snd).Sublist
              (via (.session number) sent) :=
            (LinkedClient.calls_sublist_handed number).trans
              (hpaths.handed number)
          have hfew : (mine.calls number).length < 2 ^ 63 := by
            have hlength := hcalls.length_le
            have hvia := length_via_le (.session number) sent
            rw [List.length_map] at hlength
            omega
          have htexts := (hpaths.follows number link hlink).texts hfew
          exact ((hpaths.heard number link hlink).trans
            heard_sublist_texts).trans (htexts.trans hcalls)

end Delivery

/-- A history that can be read is the messenger's conversation. -/
theorem RefinesMessenger.history_eq_ok
    {mine : Keys} {count : ℕ} {state : DirectoryState} {messenger : Messenger}
    (hrefines : RefinesMessenger P messages mine publicKeyOf count state
      messenger) {id : KeyType} {view : StoreView} {shown : List ChatLine}
    (hview : view.peers = state.peers)
    (hhistory : Client.history P messages ⟨mine⟩ view id = .ok shown) :
    shown = (messenger.conversation id).map Message.line := by
  have hread := hhistory
  simp only [Client.history] at hread
  split at hread
  next => contradiction
  next peer hload =>
    rw [hview] at hload
    split at hread
    next => contradiction
    next hopen =>
      have hfree := (loadPeerChatFile_eq_ok hopen).1
      have hknown := (hrefines.loadPeerData_iff id peer).mp hload
      rw [hrefines.history hknown hview hfree] at hhistory
      exact (Except.ok.inj hhistory).symm

/-- What a client shows as received from the other one is a selection of what
the other user sent: on each path in the order sent, nothing twice. -/
theorem shown_texts_were_sent
    (hsig : P.SignatureCorrect) (hdh : P.DhCommutes) (haead : P.AeadCorrect)
    (hround : messages.RoundTrip) (hblobs : blobs.RoundTrip)
    (hgenuine : ∀ side, (keys side).Genuine P)
    (hpublic : ∀ side, publicKeyOf ((keys side).id P) = (keys side).x25519Pub)
    {labels : List TwoClientsLabel} (hlength : labels.length < 2 ^ 63)
    (hkeys : ∀ label ∈ labels, ∀ peer,
      label.directory = some (.addPeer peer) →
      P.isVerifyingKey peer.verifying = true →
      peer.publicKey = publicKeyOf (peer.hash P))
    (hok : AllSteps
      (twoClientsStep P frames messages blobs keys sessionKey)
      (Trustworthy P frames messages blobs keys sessionKey) .initial labels)
    {final : TwoClients}
    (hrun : runFrom (twoClientsStep P frames messages blobs keys sessionKey)
      .initial labels = some final) (side : Side) :
    let sent := sentAlong P frames messages blobs keys sessionKey side .initial
      labels
    ∃ received : List (TextPath × String),
      (∀ view : StoreView, view.peers = (final.clients side.other).peers →
        ∀ shown, Client.history P messages ⟨keys side.other⟩ view
            ((keys side).id P) = .ok shown →
          shownTexts false shown = received.map Prod.snd) ∧
      Selects received sent ∧
      (received.map Prod.snd).Subperm (sent.map Prod.snd) := by
  intro sent
  have hall := TextsFollow.initial.run hsig hdh haead hround hblobs hgenuine
    hpublic (by omega) hkeys hok hrun
  obtain ⟨messengers, ops, received, hinv⟩ := hall
  have hpaths := hinv.paths side
  have hbound := hinv.bound side
  simp only [List.nil_append, Nat.zero_add] at hpaths hbound
  have hselects : Selects (received side) sent :=
    hpaths.selects (Nat.lt_of_le_of_lt hbound hlength)
  refine ⟨received side, ?_, hselects, hselects.subperm⟩
  intro view hview shown hshown
  rw [(hinv.clients side.other).refines.history_eq_ok hview hshown,
    shownTexts_false, hpaths.shown, Messenger.textsBy]

/-! ## One text through the mailbox and one over a session -/

def sampleTalkKey (_ : ℕ) : KeyType := Vector.replicate 32 5

def sampleTalkFrame : Bytes :=
  (frame .transparent transparentFrames
    (.chatMessage 1 (encryptMessageForChat .transparent "yo"
      (sessionReceiver .transparent samplePair (sampleTalkKey 0)
        .right).recvKey 1))
    (samplePair .left).x25519Pub (samplePair .left).ed25519Signing
    1000).getD []

/-- The first text is sent before the session is in the map and arrives after
the second one, whose frame is delivered twice. -/
def sampleTalk : List TwoClientsLabel :=
  [.task .left (.addPeer (samplePair .right).publicPart),
    .task .right (.addPeer (samplePair .left).publicPart),
    .task .left (.punchHole ((samplePair .right).id .transparent) "" 1000),
    .task .right (.punchHole ((samplePair .left).id .transparent) "" 1000),
    .started .left 0, .started .right 0,
    .command .left sampleLoopEnv
      (.send ((samplePair .right).id .transparent) "hi"),
    .inserted .left 0, .inserted .right 0,
    .command .left sampleLoopEnv
      (.send ((samplePair .right).id .transparent) "yo"),
    .sends .left 0 ⟨1000, true⟩,
    .receives .right 0 sampleTalkFrame 1000,
    .receives .right 0 sampleTalkFrame 1000,
    .event .right 0 sampleEnv,
    .forwarded .left, .delivered .right sampleEnv,
    .task .right (.blobStored sampleEnv)]

abbrev sampleTalkStep : TwoClients → TwoClientsLabel → Option TwoClients :=
  twoClientsStep .transparent transparentFrames transparentMessages
    transparentBlobs samplePair sampleTalkKey

theorem FindsRoom.send
    {mine : Keys} {env : LoopEnv} {loop : CommandLoop} {peer : KeyType}
    {text : String}
    (hserver : loop.server.queue.items.length +
      (commandMessages P messages blobs mine env loop
        (.send peer text)).length ≤ 100)
    (houtbound : (loop.sessionMap peer).all (fun entry =>
      !(loop.outbounds entry.outbound).waits) = true) :
    FindsRoom P messages blobs mine env loop (.send peer text) where
  server := hserver
  outbound := by
    rintro _ _ entry ⟨⟩ hentry
    rw [hentry] at houtbound
    simpa using houtbound

def sampleTalkRoom (text : String) (before : TwoClients) : Bool :=
  let loop := (before.clients .left).toCommandLoop
  let peer := (samplePair .right).id .transparent
  decide (loop.server.queue.items.length +
      (commandMessages .transparent transparentMessages transparentBlobs
        (samplePair .left) sampleLoopEnv loop (.send peer text)).length ≤
        100) &&
    (loop.sessionMap peer).all fun entry =>
      !(loop.outbounds entry.outbound).waits

theorem sampleTalk_findsRoom
    {text : String} {labels : List TwoClientsLabel} {before : TwoClients}
    (hall : (runFrom sampleTalkStep .initial labels).all
      (sampleTalkRoom text) = true)
    (hbefore : runFrom sampleTalkStep .initial labels = some before) :
    FindsRoom .transparent transparentMessages transparentBlobs
      (samplePair .left) sampleLoopEnv (before.clients .left).toCommandLoop
      (.send ((samplePair .right).id .transparent) text) := by
  rw [hbefore, Option.all_some, sampleTalkRoom, Bool.and_eq_true,
    decide_eq_true_eq] at hall
  exact .send hall.1 hall.2

theorem sampleTalk_fresh
    {side : Side} {labels : List TwoClientsLabel} {before : TwoClients}
    (hnone : (runFrom sampleTalkStep .initial labels).map (fun state =>
      (state.clients side).sessionMap) = some fun _ => none)
    (hbefore : runFrom sampleTalkStep .initial labels = some before)
    (peer : KeyType) (entry : SessionEntry)
    (hentry : (before.clients side).sessionMap peer = some entry) :
    entry.outbound ≠ 0 := by
  rw [hbefore, Option.map_some, Option.some.injEq] at hnone
  rw [hnone] at hentry
  contradiction

theorem sampleTalk_authentic
    {labels : List TwoClientsLabel} {before : TwoClients}
    (hall : (runFrom sampleTalkStep .initial labels).all (fun before =>
      decide ((1, "yo") ∈ (before.clients .left).calls 0)) = true)
    (hbefore : runFrom sampleTalkStep .initial labels = some before)
    (evtOpen : Bool) :
    Authentic .transparent transparentFrames
      (sessionReceiver .transparent samplePair (sampleTalkKey 0) .right)
      ((before.clients .left).calls 0) ⟨sampleTalkFrame, 1000, evtOpen⟩ := by
  rw [hbefore, Option.all_some, decide_eq_true_eq] at hall
  exact authentic_of_frame transparentFrames_roundTrip rfl hall 1000 evtOpen

theorem sampleTalk_trustworthy :
    AllSteps sampleTalkStep
      (Trustworthy .transparent transparentFrames transparentMessages
        transparentBlobs samplePair sampleTalkKey) .initial sampleTalk := by
  refine allSteps_of_take ?_
  intro index label before hlabel hbefore
  have hlt : index < 17 := (List.getElem?_eq_some_iff.mp hlabel).1
  interval_cases index <;> cases hlabel
  · exact fun _ => rfl
  · exact fun _ => rfl
  · trivial
  · trivial
  · exact sampleTalk_fresh rfl hbefore
  · exact sampleTalk_fresh rfl hbefore
  · exact sampleTalk_findsRoom (by decide +kernel) hbefore
  · trivial
  · trivial
  · exact sampleTalk_findsRoom (by decide +kernel) hbefore
  · trivial
  · exact sampleTalk_authentic (by decide +kernel) hbefore
  · exact sampleTalk_authentic (by decide +kernel) hbefore
  · trivial
  · trivial
  · trivial
  · trivial

theorem eq_ok_of_toOption
    {ε α : Type*} {result : Except ε α} {value : α}
    (hsome : result.toOption = some value) : result = .ok value := by
  cases result with
  | error e => contradiction
  | ok found => exact congrArg Except.ok (Option.some.inj hsome)

theorem sampleTalk_runs :
    ∃ final shown, runFrom sampleTalkStep .initial sampleTalk = some final ∧
      Client.history .transparent transparentMessages ⟨samplePair .right⟩
        ⟨(final.clients .right).peers, [], 1000, fun _ => none, false⟩
        ((samplePair .left).id .transparent) = .ok shown ∧
      shownTexts false shown = ["yo", "hi"] := by
  have hshown : (runFrom sampleTalkStep .initial sampleTalk).any
      (fun final =>
        (Client.history .transparent transparentMessages ⟨samplePair .right⟩
          ⟨(final.clients .right).peers, [], 1000, fun _ => none, false⟩
          ((samplePair .left).id .transparent)).toOption.any fun shown =>
            decide (shownTexts false shown = ["yo", "hi"])) = true := by
    decide +kernel
  obtain ⟨final, hrun, hfinal⟩ := (Option.any_eq_true _ _).mp hshown
  obtain ⟨shown, hread, htexts⟩ := (Option.any_eq_true _ _).mp hfinal
  exact ⟨final, shown, hrun, eq_ok_of_toOption hread, of_decide_eq_true htexts⟩

theorem sampleTalk_publicKeyOf (side : Side) :
    samplePublicKeyOf ((samplePair side).id .transparent) =
      (samplePair side).x25519Pub := by
  cases side with
  | left => exact samplePublicKeyOf_sender
  | right => exact samplePublicKeyOf_target

theorem sampleTalk_added
    {label : TwoClientsLabel} (hlabel : label ∈ sampleTalk) {peer : PeerPublic}
    (hadds : label.directory = some (.addPeer peer)) :
    peer.publicKey = samplePublicKeyOf (peer.hash .transparent) := by
  have hsides : ∃ side, peer = (samplePair side).publicPart := by
    simp only [sampleTalk, List.mem_cons, List.not_mem_nil, or_false]
      at hlabel
    rcases hlabel with rfl | rfl | rfl | rfl | rfl | rfl | rfl | rfl | rfl |
      rfl | rfl | rfl | rfl | rfl | rfl | rfl | rfl <;>
      simp only [TwoClientsLabel.directory, Option.some.injEq, reduceCtorEq,
        DirectoryLabel.addPeer.injEq] at hadds
    · exact ⟨.right, hadds.symm⟩
    · exact ⟨.left, hadds.symm⟩
  obtain ⟨side, rfl⟩ := hsides
  exact (sampleTalk_publicKeyOf side).symm

theorem sample_shown_texts_were_sent :
    ∃ final shown, runFrom sampleTalkStep .initial sampleTalk = some final ∧
      Client.history .transparent transparentMessages ⟨samplePair .right⟩
        ⟨(final.clients .right).peers, [], 1000, fun _ => none, false⟩
        ((samplePair .left).id .transparent) = .ok shown ∧
      shownTexts false shown = ["yo", "hi"] ∧
      (shownTexts false shown).Subperm
        ((sentAlong .transparent transparentFrames transparentMessages
          transparentBlobs samplePair sampleTalkKey .left .initial
          sampleTalk).map Prod.snd) := by
  obtain ⟨final, shown, hrun, hhistory, htexts⟩ := sampleTalk_runs
  obtain ⟨received, hshown, -, hsubperm⟩ := shown_texts_were_sent
    transparent_signatureCorrect transparent_dhCommutes
    transparent_aeadCorrect transparentMessages_roundTrip
    transparentBlobs_roundTrip
    (fun side => by cases side <;> exact sampleKeys_genuine _)
    sampleTalk_publicKeyOf (by decide)
    (fun _ hlabel _ hadds _ => sampleTalk_added hlabel hadds)
    sampleTalk_trustworthy hrun .left
  refine ⟨final, shown, hrun, hhistory, htexts, ?_⟩
  rw [hshown _ rfl shown hhistory]
  exact hsubperm

end SechatClient
