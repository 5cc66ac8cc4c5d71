import SechatClient.TwoClientsInvariant

/-!
# The steps of two clients

Every step of two clients keeps the invariant of both directions: it moves the
texts of one direction along their path, hands over what a command sends, or
loses some of what is underway.
-/

namespace SechatClient

open ByteStrings OrderedStore StepSystem TaggedLists

variable {P : Primitives} {frames : Codec PeerMessage}
  {messages : Codec Message} {blobs : Codec BlobPayload} {keys : Side → Keys}
  {sessionKey : ℕ → KeyType} {publicKeyOf : KeyType → KeyType}

/-- After `count` steps along which each side sent what `sent` says. -/
def TextsFollow (P : Primitives) (frames : Codec PeerMessage)
    (messages : Codec Message) (blobs : Codec BlobPayload) (keys : Side → Keys)
    (sessionKey : ℕ → KeyType) (publicKeyOf : KeyType → KeyType) (count : ℕ)
    (state : TwoClients) (sent : Side → List (TextPath × String)) : Prop :=
  ∃ messengers ops received,
    TwoClientsInvariant P frames messages blobs keys sessionKey publicKeyOf
      count state messengers ops sent received

section Steps

variable {count : ℕ} {state next : TwoClients}
  {messengers : Side → Messenger} {ops : Side → List ParcelOp}
  {sent received : Side → List (TextPath × String)} {side : Side}

/-! ## Steps that send nothing -/

theorem SenderMove.of_same {mine next : LinkedClient}
    (hserver : next.server = mine.server) (hends : next.ends = mine.ends)
    (houtbounds : next.outbounds = mine.outbounds) :
    SenderMove P keys side mine next where
  parcels := by rw [hserver]
  handed := by
    intro number
    rw [LinkedClient.handed, LinkedClient.handed, hends, houtbounds]
  calls := by
    intro number
    refine ⟨[], ?_⟩
    rw [LinkedClient.calls, LinkedClient.calls, hends, List.append_nil]

theorem KeepsInboxes.of_ends {theirs next : LinkedClient}
    (hends : next.ends = theirs.ends) : KeepsInboxes theirs next := by
  intro number
  rw [hends]
  exact ⟨fun link hlink => ⟨link, hlink, rfl, rfl, rfl⟩, id⟩

/-- One end of a session changes in what its reader does not see. -/
theorem KeepsInboxes.setEnd {client next : LinkedClient} {number : ℕ}
    {link changed : SessionEnd} (hlink : client.ends number = some link)
    (hends : next.ends = Function.update client.ends number (some changed))
    (hrecv : changed.recv = link.recv)
    (hreceiving : changed.receiving = link.receiving)
    (htaken : changed.taken = link.taken) : KeepsInboxes client next := by
  intro other
  rw [hends]
  by_cases hother : other = number
  · subst hother
    rw [Function.update_self]
    refine ⟨?_, fun hnone => by contradiction⟩
    intro found hfound
    cases hfound
    exact ⟨link, hlink, hrecv, hreceiving, htaken⟩
  · rw [Function.update_of_ne hother]
    exact ⟨fun found hfound => ⟨found, hfound, rfl, rfl, rfl⟩, id⟩

theorem TwoClientsInvariant.incoming
    (hinv : TwoClientsInvariant P frames messages blobs keys sessionKey
      publicKeyOf count state messengers ops sent received) (side : Side) :
    PathsFollow P frames messages blobs keys sessionKey side.other
      (state.clients side.other) (state.clients side) (state.mailbox side)
      (messengers side) (ops side.other) (sent side.other)
      (received side.other) := by
  have hpaths := hinv.paths side.other
  simpa only [Side.other_other] using hpaths

/-- A step of one client which moves texts along and sends none. -/
theorem TwoClientsInvariant.passes
    (hinv : TwoClientsInvariant P frames messages blobs keys sessionKey
      publicKeyOf count state messengers ops sent received)
    {client : LinkedClient} {messenger : Messenger}
    {outBox inBox : List Parcel} {outOps inOps : List ParcelOp}
    {inReceived : List (TextPath × String)}
    (hclients : next.clients = Function.update state.clients side client)
    (houtBox : next.mailbox side.other = outBox)
    (hinBox : next.mailbox side = inBox)
    (hkeeps : ClientKeeps P messages keys publicKeyOf (count + 1) side client
      messenger)
    (hout : PathsFollow P frames messages blobs keys sessionKey side client
      (state.clients side.other) outBox (messengers side.other) outOps
      (sent side) (received side))
    (hin : PathsFollow P frames messages blobs keys sessionKey side.other
      (state.clients side.other) client inBox messenger inOps
      (sent side.other) inReceived) :
    TextsFollow P frames messages blobs keys sessionKey publicKeyOf
      (count + 1) next sent := by
  have hbound := (hinv.bound side).trans (Nat.le_succ count)
  rw [← hinBox] at hin
  rw [← houtBox] at hout
  have hmoved := hinv.move hclients hkeeps hout hin hbound
  rw [Function.update_eq_self side sent] at hmoved
  exact ⟨_, _, _, hmoved⟩

theorem TwoClientsInvariant.quiet
    (hinv : TwoClientsInvariant P frames messages blobs keys sessionKey
      publicKeyOf count state messengers ops sent received)
    {client : LinkedClient} {messenger : Messenger}
    (hclients : next.clients = Function.update state.clients side client)
    (hmailbox : next.mailbox = state.mailbox)
    (hkeeps : ClientKeeps P messages keys publicKeyOf (count + 1) side client
      messenger)
    (hsender : SenderMove P keys side (state.clients side) client)
    (hin : ∃ received, PathsFollow P frames messages blobs keys sessionKey
      side.other (state.clients side.other) client (state.mailbox side)
      messenger (ops side.other) (sent side.other) received) :
    TextsFollow P frames messages blobs keys sessionKey publicKeyOf
      (count + 1) next sent := by
  obtain ⟨inReceived, hin⟩ := hin
  exact hinv.passes hclients (congrFun hmailbox _) (congrFun hmailbox _) hkeeps
    ((hinv.paths side).senderMoves hsender) hin

/-- A step of the peers directory. -/
theorem TwoClientsInvariant.task
    (haead : P.AeadCorrect) (hround : messages.RoundTrip)
    (hinv : TwoClientsInvariant P frames messages blobs keys sessionKey
      publicKeyOf count state messengers ops sent received)
    (hcount : count < 2 ^ 64) {label : DirectoryLabel}
    (hok : SpeaksForOthers P blobs ((keys side.other).id P) (keys side)
      (keys side.other) label)
    (hkey : ∀ peer, label = .addPeer peer →
      P.isVerifyingKey peer.verifying = true →
      peer.publicKey = publicKeyOf (peer.hash P))
    (hstep : twoClientsStep P frames messages blobs keys sessionKey state
      (.task side label) = some next) :
    TextsFollow P frames messages blobs keys sessionKey publicKeyOf
      (count + 1) next sent := by
  obtain ⟨after, hafter, rfl⟩ := Option.map_eq_some_iff.mp hstep
  have hkept := hinv.clients side
  have hidle : ∀ env blob, label = .blobChecked env blob →
      (messengers side).checked = none := by
    rintro env blob rfl
    exact hkept.refines.idle_of_blobChecked hafter
  have hkeeps : ClientKeeps P messages keys publicKeyOf (count + 1) side
      ((state.clients side).withDirectory after)
      ((messengers side).next P messages blobs (keys side) label) :=
    { refines := hkept.refines.step haead hround hcount hkey hafter
      authored := hkept.authored.next label
      contact := contact_next_of_speaks hok hkept.contact
      isOpen := hkept.isOpen
      owner := hkept.owner
      numbered := hkept.numbered }
  have hinboxes : KeepsInboxes (state.clients side)
      ((state.clients side).withDirectory after) := .of_ends rfl
  refine hinv.quiet rfl rfl hkeeps (.of_same rfl rfl rfl) ?_
  exact ((hinv.incoming side).inboxes hinboxes).readerMoves
    (readerMove_next hok hkept.authored hidle)

/-- What the other tasks of a client do. -/
theorem TwoClientsInvariant.others
    (hinv : TwoClientsInvariant P frames messages blobs keys sessionKey
      publicKeyOf count state messengers ops sent received)
    {loop : CommandLoop}
    (hok : LeavesPaths ((keys side.other).id P) (state.clients side) loop)
    (hstep : twoClientsStep P frames messages blobs keys sessionKey state
      (.others side loop) = some next) :
    TextsFollow P frames messages blobs keys sessionKey publicKeyOf
      (count + 1) next sent := by
  cases hstep
  have hkept := hinv.clients side
  have hrefines : RefinesMessenger P messages (keys side) publicKeyOf count
      ((state.clients side).withLoop loop).toDirectoryState
      (messengers side) :=
    hkept.refines.transfer hok.peers rfl fun peer hpeer =>
      hkept.refines.held peer
        (RunningClient.held_afterCommand hok.cache peer hpeer)
  have hkeeps : ClientKeeps P messages keys publicKeyOf (count + 1) side
      ((state.clients side).withLoop loop) (messengers side) :=
    { refines := hrefines.succ
      authored := hkept.authored
      contact := hkept.contact
      isOpen := hok.isOpen
      owner := hok.foreign
      numbered := hkept.numbered }
  have hsender : SenderMove P keys side (state.clients side)
      ((state.clients side).withLoop loop) :=
    { parcels := hok.parcels
      handed := by
        intro number
        simp only [LinkedClient.handed, LinkedClient.withLoop_ends,
          LinkedClient.withLoop_outbounds]
        cases hlink : (state.clients side).ends number with
        | none => exact List.Sublist.refl _
        | some link =>
            have hsame : loop.outbounds number =
                (state.clients side).outbounds number :=
              hok.outbounds number (by rw [hlink]; rfl)
            simp only [hsame]
            exact List.Sublist.refl _
      calls := fun number => ⟨[], (List.append_nil _).symm⟩ }
  have hinboxes : KeepsInboxes (state.clients side)
      ((state.clients side).withLoop loop) := .of_ends rfl
  exact hinv.quiet rfl rfl hkeeps hsender
    ⟨_, (hinv.incoming side).inboxes hinboxes⟩

/-! ## A command -/

theorem ClientKeeps.command
    (haead : P.AeadCorrect) (hround : messages.RoundTrip)
    (hblobs : blobs.RoundTrip) {client : LinkedClient} {messenger : Messenger}
    (hkept : ClientKeeps P messages keys publicKeyOf count side client
      messenger)
    (hcount : count < 2 ^ 64) {env : LoopEnv} {cmd : Command}
    {result : LoopResult}
    (hok : FindsRoom P messages blobs (keys side) env client.toCommandLoop cmd)
    (hresult : handleCommand P messages blobs (keys side) env
      client.toCommandLoop cmd = some result) :
    ClientKeeps P messages keys publicKeyOf (count + 1) side
      (client.withLoop result.loop)
      (messenger.afterCommand P messages blobs (keys side) env cmd) := by
  have hsends := handleCommand_sends hkept.isOpen hok.server hresult
  have hcache : ∀ online ∈ result.loop.cache, online ∈ client.cache :=
    fun _ honline => handleCommand_cache hresult honline
  exact
    { refines := hkept.refines.command haead hround hblobs hcount hresult rfl
        rfl rfl (RunningClient.held_afterCommand hcache)
      authored := hkept.authored.afterCommand env cmd
      contact := contact_afterCommand hkept.contact env cmd
      isOpen := hsends.isOpen
      owner := by
        intro peer entry hentry hend
        have hbefore : client.sessionMap peer = some entry := by
          rcases hsends.sessions peer with hsame | hnone
          · exact hsame.symm.trans hentry
          · have hcontra : result.loop.sessionMap peer = some entry := hentry
            rw [hnone] at hcontra
            contradiction
        exact hkept.owner peer entry hbefore hend
      numbered := hkept.numbered }

/-- A text which a command sends enters its path, and no other. -/
theorem PathsFollow.command
    (hround : messages.RoundTrip) (hblobs : blobs.RoundTrip)
    (hgenuine : (keys side).Genuine P)
    (hpublic : publicKeyOf ((keys side.other).id P) =
      (keys side.other).x25519Pub)
    {mine theirs : LinkedClient} {box : List Parcel}
    {messenger reader : Messenger} {mailed : List ParcelOp}
    {before shown : List (TextPath × String)}
    (hkept : ClientKeeps P messages keys publicKeyOf count side mine messenger)
    (hpaths : PathsFollow P frames messages blobs keys sessionKey side mine
      theirs box reader mailed before shown)
    {env : LoopEnv} {cmd : Command} {result : LoopResult}
    (hok : FindsRoom P messages blobs (keys side) env mine.toCommandLoop cmd)
    (hresult : handleCommand P messages blobs (keys side) env
      mine.toCommandLoop cmd = some result) :
    PathsFollow P frames messages blobs keys sessionKey side
      (mine.withLoop result.loop) theirs box reader
      (mailed ++ cmd.mailedOps
        (messenger.contacts ((keys side.other).id P)).isSome
        (mine.sessionMap ((keys side.other).id P)).isSome
        ((keys side.other).id P))
      (before ++ tagged
        (pathTo mine.sessionMap ((keys side.other).id P))
        (cmd.textsTo ((keys side.other).id P))) shown := by
  have hsends := handleCommand_sends hkept.isOpen hok.server hresult
  have hcontacts : contactOf P mine.toCommandLoop.peers =
      messenger.contacts := hkept.refines.contacts
  have hmailed := commandMessages_mailed env hround hblobs hgenuine hcontacts
    hkept.refines.keyed hpublic cmd
  have hitems : (mine.withLoop result.loop).server.queue.items =
      mine.server.queue.items ++ commandMessages P messages blobs (keys side)
        env mine.toCommandLoop cmd := hsends.items
  exact
    { hpaths with
      issued := by
        rw [hitems, List.filterMap_append, ← List.append_assoc]
        exact List.rel_append hpaths.issued hmailed
      mailed := by
        rw [List.filterMap_append, via_append, ← List.append_assoc]
        exact hpaths.mailed.append (mailedOps_sublist_via _)
      handed := by
        intro number
        rw [via_append]
        have hbefore := hpaths.handed number
        simp only [LinkedClient.handed, LinkedClient.withLoop_ends,
          LinkedClient.withLoop_outbounds] at hbefore ⊢
        cases hlink : mine.ends number with
        | none => exact List.nil_sublist _
        | some link =>
            rw [hlink] at hbefore
            have howner : ∀ peer entry, mine.sessionMap peer = some entry →
                entry.outbound = number → peer = (keys side.other).id P := by
              rintro peer entry hentry rfl
              exact hkept.owner peer entry hentry (by rw [hlink]; rfl)
            have hqueued := (handleCommand_outbounds hok hresult number).trans
              ((List.Sublist.refl _).append (queuedOn_sublist_via howner))
            have hall := (List.Sublist.refl
              (link.send.calls.map Prod.snd)).append hqueued
            rw [← List.append_assoc] at hall
            exact hall.trans (hbefore.append (List.Sublist.refl _)) }

theorem length_textsTo_le (id : KeyType) (cmd : Command) :
    (cmd.textsTo id).length ≤ 1 := by
  cases cmd with
  | send peer text =>
      simp only [Command.textsTo]
      split <;> simp
  | _ => simp [Command.textsTo]

theorem TwoClientsInvariant.command
    (haead : P.AeadCorrect) (hround : messages.RoundTrip)
    (hblobs : blobs.RoundTrip) (hgenuine : ∀ side, (keys side).Genuine P)
    (hpublic : ∀ side, publicKeyOf ((keys side).id P) = (keys side).x25519Pub)
    (hinv : TwoClientsInvariant P frames messages blobs keys sessionKey
      publicKeyOf count state messengers ops sent received)
    (hcount : count < 2 ^ 64) {env : LoopEnv} {cmd : Command}
    (hok : FindsRoom P messages blobs (keys side) env
      (state.clients side).toCommandLoop cmd)
    (hstep : twoClientsStep P frames messages blobs keys sessionKey state
      (.command side env cmd) = some next) :
    TextsFollow P frames messages blobs keys sessionKey publicKeyOf
      (count + 1) next fun other => sent other ++
        sentFrom P keys other state (.command side env cmd) := by
  obtain ⟨result, hresult, rfl⟩ := Option.map_eq_some_iff.mp hstep
  have hkept := hinv.clients side
  have hkeeps := hkept.command haead hround hblobs hcount hok hresult
  have hout := (hinv.paths side).command hround hblobs (hgenuine side)
    (hpublic side.other) hkept hok hresult
  have hinboxes : KeepsInboxes (state.clients side)
      ((state.clients side).withLoop result.loop) := .of_ends rfl
  obtain ⟨inReceived, hin⟩ := ((hinv.incoming side).inboxes
    hinboxes).readerMoves (readerMove_afterCommand hkept.authored env cmd)
  have hbound : (sent side ++ tagged
      (pathTo (state.clients side).sessionMap ((keys side.other).id P))
      (cmd.textsTo ((keys side.other).id P))).length ≤ count + 1 := by
    rw [List.length_append, tagged, List.length_map]
    exact Nat.add_le_add (hinv.bound side) (length_textsTo_le _ cmd)
  have hsent : Function.update sent side (sent side ++ tagged
      (pathTo (state.clients side).sessionMap ((keys side.other).id P))
      (cmd.textsTo ((keys side.other).id P))) =
        fun other => sent other ++
          sentFrom P keys other state (.command side env cmd) := by
    funext other
    rcases Side.eq_or_eq_other side other with rfl | rfl
    · rw [Function.update_self, sentFrom, if_pos rfl]
    · rw [Function.update_of_ne (Side.other_ne side), sentFrom,
        if_neg (Side.other_ne side).symm, List.append_nil]
  have hclients : (state.setClient side ((state.clients side).withLoop
      result.loop)).clients = Function.update state.clients side
        ((state.clients side).withLoop result.loop) := rfl
  have hmoved := hinv.move hclients hkeeps hout hin hbound
  rw [hsent] at hmoved
  exact ⟨_, _, _, hmoved⟩

/-! ## The mailbox -/

/-- The relay takes a message out of the server channel. -/
theorem TwoClientsInvariant.forwarded
    (hinv : TwoClientsInvariant P frames messages blobs keys sessionKey
      publicKeyOf count state messengers ops sent received)
    (hstep : twoClientsStep P frames messages blobs keys sessionKey state
      (.forwarded side) = some next) :
    TextsFollow P frames messages blobs keys sessionKey publicKeyOf
      (count + 1) next sent := by
  obtain ⟨⟨msg, rest⟩, hrecv, rfl⟩ := Option.map_eq_some_iff.mp hstep
  have hitems := BoundedQueue.recv_eq_some hrecv
  have hkept := hinv.clients side
  have hpaths := hinv.paths side
  have hkeeps : ClientKeeps P messages keys publicKeyOf (count + 1) side
      ((state.clients side).withServer
        ⟨(state.clients side).server.isOpen, rest⟩) (messengers side) :=
    { refines := hkept.refines.succ
      authored := hkept.authored
      contact := hkept.contact
      isOpen := hkept.isOpen
      owner := hkept.owner
      numbered := hkept.numbered }
  have hout : PathsFollow P frames messages blobs keys sessionKey side
      ((state.clients side).withServer
        ⟨(state.clients side).server.isOpen, rest⟩)
      (state.clients side.other)
      (state.mailbox side.other ++
        (msg.parcelFor ((keys side.other).id P)).toList)
      (messengers side.other) (ops side) (sent side) (received side) :=
    { hpaths with
      issued := by
        have hissued := hpaths.issued
        rw [hitems] at hissued
        have hunderway : state.mailbox side.other ++
            (msg.parcelFor ((keys side.other).id P)).toList ++
              rest.items.filterMap
                (ClientToServer.parcelFor ((keys side.other).id P)) =
            state.mailbox side.other ++ (msg :: rest.items).filterMap
              (ClientToServer.parcelFor ((keys side.other).id P)) := by
          rw [List.filterMap_cons, List.append_assoc]
          cases msg.parcelFor ((keys side.other).id P) <;> rfl
        rw [← hunderway] at hissued
        exact hissued }
  have hinboxes : KeepsInboxes (state.clients side)
      ((state.clients side).withServer
        ⟨(state.clients side).server.isOpen, rest⟩) := .of_ends rfl
  have hin := (hinv.incoming side).inboxes hinboxes
  refine hinv.passes rfl (Function.update_self ..) ?_ hkeeps hout hin
  exact Function.update_of_ne (Side.other_ne side).symm ..

/-- The first parcel is not delivered. -/
theorem PathsFollow.dropped
    {mine theirs : LinkedClient} {parcel : Parcel} {rest : List Parcel}
    {reader : Messenger} {op : ParcelOp} {restOps : List ParcelOp}
    {sent received : List (TextPath × String)}
    (hpaths : PathsFollow P frames messages blobs keys sessionKey side mine
      theirs (parcel :: rest) reader (op :: restOps) sent received) :
    PathsFollow P frames messages blobs keys sessionKey side mine theirs rest
      reader restOps sent received :=
  { hpaths with
    issued := (List.forall₂_cons.mp hpaths.issued).2
    mailed := by
      refine List.Sublist.trans ?_ hpaths.mailed
      exact (List.Sublist.refl _).append
        ((List.sublist_cons_self op restOps).filterMap _) }

/-- The reader's handler checks the first parcel. -/
theorem PathsFollow.delivered
    {mine theirs : LinkedClient} {parcel : Parcel} {rest : List Parcel}
    {reader : Messenger} {op : ParcelOp} {restOps : List ParcelOp}
    {sent received : List (TextPath × String)} {env : BlobEnv}
    (hpaths : PathsFollow P frames messages blobs keys sessionKey side mine
      theirs (parcel :: rest) reader (op :: restOps) sent received)
    (hidle : reader.checked = none)
    (hread : reader.read P messages blobs (keys side.other) env.now
          parcel.blob = op.reading ((keys side).id P) parcel.issued ∨
      reader.read P messages blobs (keys side.other) env.now parcel.blob =
        .ignored) :
    ∃ received, PathsFollow P frames messages blobs keys sessionKey side mine
      theirs rest (reader.next P messages blobs (keys side.other)
        (.blobChecked env parcel.blob)) restOps sent received := by
  have hrest := hpaths.dropped
  have hpending : reader.pending ((keys side).id P) = [] := by
    rw [Messenger.pending, hidle]
  rcases hread with hread | hread
  · cases op with
    | text text =>
        refine ⟨received, ?_⟩
        simp only [Messenger.next, hread, ParcelOp.reading]
        exact
          { hrest with
            mailed := by
              have hmailed := hpaths.mailed
              rw [hpending] at hmailed
              simpa [Messenger.pending, ParcelOp.textOf] using hmailed
            shown := hrest.shown }
    | wipe =>
        have hclears : ReaderMove ((keys side).id P) reader
            (reader.next P messages blobs (keys side.other)
              (.blobChecked env parcel.blob)) := by
          simp only [Messenger.next, hread, ParcelOp.reading]
          exact .of_clear rfl rfl
        exact hrest.readerMoves hclears
  · refine ⟨received, ?_⟩
    simp only [Messenger.next, hread]
    exact hrest

/-- The next blob of the mailbox goes to the handler. -/
theorem TwoClientsInvariant.delivered
    (hsig : P.SignatureCorrect) (hdh : P.DhCommutes) (haead : P.AeadCorrect)
    (hround : messages.RoundTrip) (hblobs : blobs.RoundTrip)
    (hgenuine : ∀ side, (keys side).Genuine P)
    (hinv : TwoClientsInvariant P frames messages blobs keys sessionKey
      publicKeyOf count state messengers ops sent received)
    (hcount : count < 2 ^ 64) {env : BlobEnv}
    (hstep : twoClientsStep P frames messages blobs keys sessionKey state
      (.delivered side env) = some next) :
    TextsFollow P frames messages blobs keys sessionKey publicKeyOf
      (count + 1) next sent := by
  cases hmailbox : state.mailbox side with
  | nil => simp [twoClientsStep, hmailbox] at hstep
  | cons parcel rest =>
      simp only [twoClientsStep, hmailbox] at hstep
      obtain ⟨after, hafter, rfl⟩ := Option.map_eq_some_iff.mp hstep
      have hkept := hinv.clients side
      have hinboxes : KeepsInboxes (state.clients side)
          ((state.clients side).withDirectory after) := .of_ends rfl
      have hin := (hinv.incoming side).inboxes hinboxes
      rw [hmailbox] at hin
      obtain ⟨op, restOps, hop, -, hops⟩ :=
        List.forall₂_cons_left_iff.mp hin.issued
      rw [hops] at hin
      have hread := read_of_parcel hsig hdh haead hround hblobs
        (hgenuine side.other) (hgenuine side) hkept.refines hkept.contact
        (by simpa only [Side.other_other] using hop) env.now
      have hidle := hkept.refines.idle_of_blobChecked hafter
      obtain ⟨inReceived, hin⟩ := hin.delivered hidle
        (by simpa only [Side.other_other] using hread)
      simp only [Side.other_other] at hin
      have hkeeps : ClientKeeps P messages keys publicKeyOf (count + 1) side
          ((state.clients side).withDirectory after)
          ((messengers side).next P messages blobs (keys side)
            (.blobChecked env parcel.blob)) :=
        { refines := hkept.refines.step haead hround hcount
            (fun peer hpeer => by contradiction) hafter
          authored := hkept.authored.next _
          contact := by
            rw [Messenger.contacts_blobChecked]
            exact hkept.contact
          isOpen := hkept.isOpen
          owner := hkept.owner
          numbered := hkept.numbered }
      refine hinv.passes rfl ?_ (Function.update_self ..) hkeeps
        ((hinv.paths side).senderMoves (.of_same rfl rfl rfl)) hin
      exact Function.update_of_ne (Side.other_ne side) ..

/-- The relay loses the first blob of a mailbox. -/
theorem TwoClientsInvariant.lost
    (hinv : TwoClientsInvariant P frames messages blobs keys sessionKey
      publicKeyOf count state messengers ops sent received)
    (hstep : twoClientsStep P frames messages blobs keys sessionKey state
      (.lost side) = some next) :
    TextsFollow P frames messages blobs keys sessionKey publicKeyOf
      (count + 1) next sent := by
  cases hmailbox : state.mailbox side with
  | nil => simp [twoClientsStep, hmailbox] at hstep
  | cons parcel rest =>
      simp only [twoClientsStep, hmailbox, Option.some.injEq] at hstep
      subst hstep
      have hin := hinv.incoming side
      rw [hmailbox] at hin
      obtain ⟨op, restOps, -, -, hops⟩ :=
        List.forall₂_cons_left_iff.mp hin.issued
      rw [hops] at hin
      refine hinv.passes (Function.update_eq_self ..).symm ?_
        (Function.update_self ..) (hinv.clients side).succ
        (hinv.paths side) hin.dropped
      exact Function.update_of_ne (Side.other_ne side) ..

end Steps

end SechatClient
