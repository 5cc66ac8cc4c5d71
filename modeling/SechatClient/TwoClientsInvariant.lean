import SechatClient.TextPaths

/-!
# The invariant of two clients

One direction at a time: what one side sent, tagged with its path, is followed
along the path, through the parcels underway or through the calls of the send
loop and the events of the receive loop, to what the other side has stored.
Every step moves one client, which is the sender of one direction and the
reader of the other.
-/

namespace SechatClient

open ByteStrings OrderedStore StepSystem TaggedLists

variable {P : Primitives} {frames : Codec PeerMessage}
  {messages : Codec Message} {blobs : Codec BlobPayload} {keys : Side → Keys}
  {sessionKey : ℕ → KeyType} {publicKeyOf : KeyType → KeyType}

/-- What holds of each client by itself. -/
structure ClientKeeps (P : Primitives) (messages : Codec Message)
    (keys : Side → Keys) (publicKeyOf : KeyType → KeyType) (count : ℕ)
    (side : Side) (client : LinkedClient) (messenger : Messenger) : Prop where
  refines : RefinesMessenger P messages (keys side) publicKeyOf count
    client.toDirectoryState messenger
  authored : messenger.Authored
  contact : ∀ contact,
    messenger.contacts ((keys side.other).id P) = some contact →
      contact = (keys side.other).publicPart
  isOpen : client.server.isOpen = true
  owner : ∀ peer entry, client.sessionMap peer = some entry →
    (client.ends entry.outbound).isSome = true → peer = (keys side.other).id P
  numbered : ∀ number link, client.ends number = some link →
    link.send.Numbered

/-- One direction: `mine` sends, `reader` is the messenger of `theirs`, and
`box` the mailbox between them. -/
structure PathsFollow (P : Primitives) (frames : Codec PeerMessage)
    (messages : Codec Message) (blobs : Codec BlobPayload) (keys : Side → Keys)
    (sessionKey : ℕ → KeyType) (side : Side) (mine theirs : LinkedClient)
    (box : List Parcel) (reader : Messenger) (ops : List ParcelOp)
    (sent received : List (TextPath × String)) : Prop where
  issued : List.Forall₂ (Issued P messages blobs (keys side)
      (keys side.other))
    (box ++ mine.server.queue.items.filterMap
      (ClientToServer.parcelFor ((keys side.other).id P))) ops
  mailed : (via .mailbox received ++ reader.pending ((keys side).id P) ++
    ops.filterMap ParcelOp.textOf).Sublist (via .mailbox sent)
  handed : ∀ number,
    (mine.handed number).Sublist (via (.session number) sent)
  follows : ∀ number link, theirs.ends number = some link →
    EndFollows P frames
      (sessionReceiver P keys (sessionKey number) side.other)
      (mine.calls number) link
  heard : ∀ number link, theirs.ends number = some link →
    (via (.session number) received).Sublist link.heard
  unheard : ∀ number, theirs.ends number = none →
    via (.session number) received = []
  shown : received.map Prod.snd = reader.textsBy .peer ((keys side).id P)

structure TwoClientsInvariant (P : Primitives) (frames : Codec PeerMessage)
    (messages : Codec Message) (blobs : Codec BlobPayload) (keys : Side → Keys)
    (sessionKey : ℕ → KeyType) (publicKeyOf : KeyType → KeyType) (count : ℕ)
    (state : TwoClients) (messengers : Side → Messenger)
    (ops : Side → List ParcelOp)
    (sent received : Side → List (TextPath × String)) : Prop where
  clients : ∀ side, ClientKeeps P messages keys publicKeyOf count side
    (state.clients side) (messengers side)
  paths : ∀ side, PathsFollow P frames messages blobs keys sessionKey side
    (state.clients side) (state.clients side.other)
    (state.mailbox side.other) (messengers side.other) (ops side) (sent side)
    (received side)
  bound : ∀ side, (sent side).length ≤ count

/-! ## One direction -/

section Direction

variable {side : Side} {mine theirs next : LinkedClient} {box : List Parcel}
  {reader after : Messenger} {ops : List ParcelOp}
  {sent received : List (TextPath × String)}

/-- What a step of the sender changes. -/
structure SenderMove (P : Primitives) (keys : Side → Keys) (side : Side)
    (mine next : LinkedClient) : Prop where
  parcels : next.server.queue.items.filterMap
      (ClientToServer.parcelFor ((keys side.other).id P)) =
    mine.server.queue.items.filterMap
      (ClientToServer.parcelFor ((keys side.other).id P))
  handed : ∀ number, (next.handed number).Sublist (mine.handed number)
  calls : ∀ number, ∃ more, next.calls number = mine.calls number ++ more

theorem PathsFollow.senderMoves
    (hpaths : PathsFollow P frames messages blobs keys sessionKey side mine
      theirs box reader ops sent received)
    (hmove : SenderMove P keys side mine next) :
    PathsFollow P frames messages blobs keys sessionKey side next theirs box
      reader ops sent received where
  issued := by
    rw [hmove.parcels]
    exact hpaths.issued
  mailed := hpaths.mailed
  handed := fun number => (hmove.handed number).trans (hpaths.handed number)
  follows := by
    intro number link hlink
    obtain ⟨more, hmore⟩ := hmove.calls number
    rw [hmore]
    exact (hpaths.follows number link hlink).append more
  heard := hpaths.heard
  unheard := hpaths.unheard
  shown := hpaths.shown

/-- What a step of the reader's client leaves of the ends of its sessions. -/
def KeepsInboxes (theirs next : LinkedClient) : Prop :=
  ∀ number, (∀ link, next.ends number = some link →
      ∃ before, theirs.ends number = some before ∧
        link.recv = before.recv ∧ link.receiving = before.receiving ∧
        link.taken = before.taken) ∧
    (next.ends number = none → theirs.ends number = none)

theorem PathsFollow.inboxes
    (hpaths : PathsFollow P frames messages blobs keys sessionKey side mine
      theirs box reader ops sent received)
    (hkeeps : KeepsInboxes theirs next) :
    PathsFollow P frames messages blobs keys sessionKey side mine next box
      reader ops sent received where
  issued := hpaths.issued
  mailed := hpaths.mailed
  handed := hpaths.handed
  follows := by
    intro number link hlink
    obtain ⟨before, hbefore, hrecv, hreceiving, -⟩ :=
      (hkeeps number).1 link hlink
    exact (hpaths.follows number before hbefore).of_inbox hrecv hreceiving
  heard := by
    intro number link hlink
    obtain ⟨before, hbefore, hrecv, -, htaken⟩ := (hkeeps number).1 link hlink
    have hheard := hpaths.heard number before hbefore
    rwa [SessionEnd.heard, ← hrecv, ← htaken] at hheard
  unheard := fun number hnone =>
    hpaths.unheard number ((hkeeps number).2 hnone)
  shown := hpaths.shown

/-- The reader's messenger moves. -/
theorem PathsFollow.readerMoves
    (hpaths : PathsFollow P frames messages blobs keys sessionKey side mine
      theirs box reader ops sent received)
    (hmove : ReaderMove ((keys side).id P) reader after) :
    ∃ received, PathsFollow P frames messages blobs keys sessionKey side mine
      theirs box after ops sent received := by
  cases hmove with
  | keeps htexts hpending =>
      refine ⟨received,
        { hpaths with
          mailed := ?_
          shown := ?_ }⟩
      · exact (((List.Sublist.refl _).append hpending).append
          (List.Sublist.refl _)).trans hpaths.mailed
      · rw [htexts]
        exact hpaths.shown
  | clears htexts hpending =>
      refine ⟨[],
        { hpaths with
          mailed := ?_
          heard := ?_
          unheard := ?_
          shown := htexts.symm }⟩
      · exact (((List.nil_sublist _).append hpending).append
          (List.Sublist.refl _)).trans hpaths.mailed
      · exact fun _ _ _ => List.nil_sublist _
      · exact fun _ _ => rfl
  | stores htexts hpending =>
      have hsession (number : ℕ) : via (.session number)
          (received ++ tagged .mailbox (reader.pending ((keys side).id P))) =
            via (.session number) received := by
        rw [via_append, via_tagged_of_ne (by simp), List.append_nil]
      refine ⟨received ++ tagged .mailbox (reader.pending ((keys side).id P)),
        { hpaths with
          mailed := ?_
          heard := ?_
          unheard := ?_
          shown := ?_ }⟩
      · rw [hpending, List.append_nil, via_append, via_tagged_self]
        exact hpaths.mailed
      · intro number link hlink
        rw [hsession]
        exact hpaths.heard number link hlink
      · intro number hnone
        rw [hsession]
        exact hpaths.unheard number hnone
      · rw [List.map_append, map_snd_tagged, hpaths.shown, htexts]

end Direction

/-! ## One client moves -/

section Moves

variable {count : ℕ} {state next : TwoClients}
  {messengers : Side → Messenger} {ops : Side → List ParcelOp}
  {sent received : Side → List (TextPath × String)} {side : Side}

theorem ClientKeeps.succ {client : LinkedClient} {messenger : Messenger}
    (hkeeps : ClientKeeps P messages keys publicKeyOf count side client
      messenger) :
    ClientKeeps P messages keys publicKeyOf (count + 1) side client
      messenger :=
  { hkeeps with refines := hkeeps.refines.succ }

/-- A step of one client, given what it does to both directions. -/
theorem TwoClientsInvariant.move
    (hinv : TwoClientsInvariant P frames messages blobs keys sessionKey
      publicKeyOf count state messengers ops sent received)
    {client : LinkedClient} {messenger : Messenger}
    {outOps inOps : List ParcelOp} {outSent inReceived :
      List (TextPath × String)}
    (hclients : next.clients = Function.update state.clients side client)
    (hkeeps : ClientKeeps P messages keys publicKeyOf (count + 1) side client
      messenger)
    (hout : PathsFollow P frames messages blobs keys sessionKey side client
      (state.clients side.other) (next.mailbox side.other)
      (messengers side.other) outOps outSent (received side))
    (hin : PathsFollow P frames messages blobs keys sessionKey side.other
      (state.clients side.other) client (next.mailbox side) messenger inOps
      (sent side.other) inReceived)
    (hbound : outSent.length ≤ count + 1) :
    TwoClientsInvariant P frames messages blobs keys sessionKey publicKeyOf
      (count + 1) next (Function.update messengers side messenger)
      (Function.update (Function.update ops side outOps) side.other inOps)
      (Function.update sent side outSent)
      (Function.update received side.other inReceived) where
  clients := by
    intro other
    rw [hclients]
    rcases Side.eq_or_eq_other side other with rfl | rfl
    · rw [Function.update_self, Function.update_self]
      exact hkeeps
    · rw [Function.update_of_ne (Side.other_ne side),
        Function.update_of_ne (Side.other_ne side)]
      exact (hinv.clients side.other).succ
  paths := by
    intro other
    rw [hclients]
    rcases Side.eq_or_eq_other side other with rfl | rfl
    · rw [Function.update_self, Function.update_of_ne (Side.other_ne other),
        Function.update_of_ne (Side.other_ne other),
        Function.update_of_ne (Side.other_ne other).symm,
        Function.update_self, Function.update_self,
        Function.update_of_ne (Side.other_ne other).symm]
      exact hout
    · rw [Side.other_other, Function.update_self, Function.update_self,
        Function.update_of_ne (Side.other_ne side), Function.update_self,
        Function.update_of_ne (Side.other_ne side), Function.update_self]
      exact hin
  bound := by
    intro other
    rcases Side.eq_or_eq_other side other with rfl | rfl
    · rw [Function.update_self]
      exact hbound
    · rw [Function.update_of_ne (Side.other_ne side)]
      exact (hinv.bound side.other).trans (Nat.le_succ count)

end Moves

end SechatClient
