import SechatClient.BlobDelivery
import SechatClient.StepSystem

/-!
# Tasks on one chat database

UI history reads, local sends, session event tasks and blob handlers each
open `chat.db` of a peer on their own.  A second open fails while a handle is
open, and the two inbound kinds of task consume their message whether or not
they could store it.
-/

namespace SechatClient

open ByteStrings OrderedStore StepSystem

/-- The tasks that use the database.  A blob task starts after its payload
passed the checks of `handle_blob`. -/
inductive StoreTask where
  | history
  | send (text : String) (timestamp : Int64)
  | sessionEvent (text : String) (timestamp : Int64)
  | blob (text : String) (timestamp : Int64)

def StoreTask.stores : StoreTask → Option Message
  | .history => none
  | .send text timestamp => some ⟨.you, text, timestamp⟩
  | .sessionEvent text timestamp => some ⟨.peer, text, timestamp⟩
  | .blob text timestamp => some ⟨.peer, text, timestamp⟩

def StoreTask.isInbound : StoreTask → Bool
  | .history => false
  | .send _ _ => false
  | .sessionEvent _ _ => true
  | .blob _ _ => true

/-- The outcome is kept from the insert on.  An open handle whose files were
purged goes on with the unlinked files. -/
inductive StorePhase where
  | waiting
  | opened (unlinked : Option ChatDb)
  | acted (stored : Bool)
  | released (stored : Bool)
  | concluded (stored : Bool)

def StorePhase.past : StorePhase → Bool
  | .waiting => false
  | .opened _ => false
  | .acted _ => true
  | .released _ => true
  | .concluded _ => true

/-- `purged` tells that a purge ran since the task used the database. -/
structure StoreTaskState where
  kind : StoreTask
  phase : StorePhase
  purged : Bool

inductive StoreNotice where
  | ackBlob (task : ℕ)
  | messageArrived (task : ℕ) (fromMe : Bool)
  deriving DecidableEq

structure StoreState where
  disk : Option ChatDb
  holder : Option ℕ
  tasks : ℕ → Option StoreTaskState
  notices : List StoreNotice

def StoreState.initial (disk : Option ChatDb) : StoreState :=
  ⟨disk, none, fun _ => none, []⟩

inductive StoreLabel where
  | spawn (task : ℕ) (kind : StoreTask)
  | openDb (task : ℕ)
  | act (task : ℕ) (nonce : Nonce)
  | release (task : ℕ)
  | conclude (task : ℕ)
  | purge

def StoreState.db (state : StoreState) : ChatDb :=
  state.disk.getD Tree.empty

def StoreState.setTask (state : StoreState) (task : ℕ)
    (entry : StoreTaskState) : StoreState :=
  { state with tasks := Function.update state.tasks task (some entry) }

def purgeTask (disk : ChatDb) (entry : StoreTaskState) : StoreTaskState :=
  match entry.phase with
  | .waiting => entry
  | .opened none => { entry with phase := .opened (some disk) }
  | .opened (some _) => entry
  | _ => { entry with purged := true }

/-- What a task tells the server or the UI when it is done.  A send checks
whether its message was stored, the inbound tasks do not. -/
def StoreTask.notice (kind : StoreTask) (task : ℕ) (stored : Bool) :
    List StoreNotice :=
  match kind with
  | .history => []
  | .send _ _ => if stored then [.messageArrived task true] else []
  | .sessionEvent _ _ => [.messageArrived task false]
  | .blob _ _ => [.ackBlob task]

section Steps

variable (P : Primitives) (codec : Codec Message) (storagekey : KeyType)

def StoreTask.apply (kind : StoreTask) (nonce : Nonce) (db : ChatDb) :
    ChatDb × Bool :=
  match kind.stores with
  | none => ((loadPeerChatMessages P codec storagekey db).2, true)
  | some msg =>
      match insertMessageStored P codec msg storagekey nonce db with
      | .error _ => (db, false)
      | .ok stored => (stored, true)

def storeStep (state : StoreState) : StoreLabel → Option StoreState
  | .spawn task kind =>
      match state.tasks task with
      | none => some (state.setTask task ⟨kind, .waiting, false⟩)
      | some _ => none
  | .openDb task =>
      match state.tasks task, state.holder with
      | some ⟨kind, .waiting, purged⟩, none =>
          some { state.setTask task ⟨kind, .opened none, purged⟩ with
            holder := some task
            disk := some state.db }
      | some ⟨kind, .waiting, purged⟩, some _ =>
          some (state.setTask task ⟨kind, .released false, purged⟩)
      | _, _ => none
  | .act task nonce =>
      match state.tasks task with
      | some ⟨kind, .opened none, purged⟩ =>
          let result := kind.apply P codec storagekey nonce state.db
          some { state.setTask task ⟨kind, .acted result.2, purged⟩ with
            disk := some result.1 }
      | some ⟨kind, .opened (some db), purged⟩ =>
          some (state.setTask task ⟨kind,
            .acted (kind.apply P codec storagekey nonce db).2, purged⟩)
      | _ => none
  | .release task =>
      match state.tasks task with
      | some ⟨kind, .acted stored, purged⟩ =>
          some { state.setTask task ⟨kind, .released stored, purged⟩ with
            holder := none }
      | _ => none
  | .conclude task =>
      match state.tasks task with
      | some ⟨kind, .released stored, purged⟩ =>
          some { state.setTask task ⟨kind, .concluded stored, purged⟩ with
            notices := state.notices ++ kind.notice task stored }
      | _ => none
  | .purge =>
      some { state with
        disk := none
        tasks := fun task => (state.tasks task).map (purgeTask state.db) }

end Steps

/-- The step is not one that loses a message: an inbound task opens the
database while no other handle is open, its files have not been purged when
it inserts, and the record counter has room. -/
def Undisturbed (state : StoreState) : StoreLabel → Prop
  | .openDb task =>
      ∀ entry, state.tasks task = some entry → entry.kind.isInbound = true →
        state.holder = none
  | .act task _ =>
      ∀ entry, state.tasks task = some entry →
        (entry.kind.isInbound = true → ∀ db, entry.phase ≠ .opened (some db)) ∧
          (entry.kind.stores.isSome = true → state.db.HasRoom)
  | _ => True

def StoreState.Consumed (state : StoreState) (task : ℕ) : Prop :=
  .ackBlob task ∈ state.notices ∨ .messageArrived task false ∈ state.notices

/-- Every consumed inbound message that no purge followed is in the log. -/
def StoreState.ConsumedStored (P : Primitives) (codec : Codec Message)
    (storagekey : KeyType) (state : StoreState) : Prop :=
  ∀ task, state.Consumed task →
    ∃ entry msg, state.tasks task = some entry ∧
      entry.kind.stores = some msg ∧
      (entry.purged = true ∨
        msg ∈ (loadPeerChatMessages P codec storagekey state.db).1)

/-! ## The invariant -/

theorem StoreTask.exists_stores
    {kind : StoreTask} (hinbound : kind.isInbound = true) :
    ∃ msg, kind.stores = some msg := by
  cases kind with
  | history => simp [isInbound] at hinbound
  | send text timestamp => simp [isInbound] at hinbound
  | sessionEvent text timestamp => exact ⟨_, rfl⟩
  | blob text timestamp => exact ⟨_, rfl⟩

theorem StoreTask.isInbound_of_notice
    {kind : StoreTask} {task other : ℕ} {stored : Bool}
    (hnotice : .ackBlob other ∈ kind.notice task stored ∨
      .messageArrived other false ∈ kind.notice task stored) :
    other = task ∧ kind.isInbound = true := by
  cases kind with
  | history => simp [notice] at hnotice
  | send text timestamp => cases stored <;> simp [notice] at hnotice
  | sessionEvent text timestamp =>
      exact ⟨by simpa [notice] using hnotice, rfl⟩
  | blob text timestamp => exact ⟨by simpa [notice] using hnotice, rfl⟩

section Invariant

variable {P : Primitives} {codec : Codec Message} {storagekey : KeyType}

variable (storagekey) in
theorem StoreTask.apply_log
    (haead : P.AeadCorrect) (hround : codec.RoundTrip) {db : ChatDb}
    (hkeys : db.WellKeyed) (kind : StoreTask)
    (hroom : kind.stores.isSome = true → db.HasRoom) (nonce : Nonce) :
    (kind.apply P codec storagekey nonce db).1.WellKeyed ∧
      chatLog P codec storagekey (kind.apply P codec storagekey nonce db).1 =
        chatLog P codec storagekey db ++ kind.stores.toList := by
  unfold StoreTask.apply
  cases hstores : kind.stores with
  | none =>
      refine ⟨loadPeerChatMessages_wellKeyed hkeys, ?_⟩
      simp [chatLog_loadPeerChatMessages]
  | some msg =>
      obtain ⟨stored, hinsert⟩ :=
        insertMessageStored_succeeds P storagekey hround hkeys msg nonce
      simp only [hinsert]
      exact ⟨insertMessageStored_wellKeyed hkeys hinsert,
        chatLog_insertMessageStored haead hround
          (hroom (by simp [hstores])) hinsert⟩

structure StoreInvariant (P : Primitives) (codec : Codec Message)
    (storagekey : KeyType) (state : StoreState) : Prop where
  keys : state.db.WellKeyed
  past : ∀ task entry msg, state.tasks task = some entry →
    entry.kind.isInbound = true → entry.kind.stores = some msg →
    entry.phase.past = true →
    entry.purged = true ∨ msg ∈ chatLog P codec storagekey state.db
  consumed : ∀ task, state.Consumed task →
    ∃ kind stored purged,
      state.tasks task = some ⟨kind, .concluded stored, purged⟩ ∧
        kind.isInbound = true

theorem StoreInvariant.initial
    {disk : Option ChatDb} (hkeys : ∀ db, disk = some db → db.WellKeyed) :
    StoreInvariant P codec storagekey (.initial disk) where
  keys := by
    cases disk with
    | none => exact ChatDb.wellKeyed_empty
    | some db => exact hkeys db rfl
  past := by simp [StoreState.initial]
  consumed := by simp [StoreState.Consumed, StoreState.initial]

theorem StoreInvariant.update
    {state next : StoreState} (hinv : StoreInvariant P codec storagekey state)
    {task : ℕ} {entry : StoreTaskState}
    (htasks : next.tasks = Function.update state.tasks task (some entry))
    (hkeys : next.db.WellKeyed)
    (hlog : ∀ msg ∈ chatLog P codec storagekey state.db,
      msg ∈ chatLog P codec storagekey next.db)
    (hopen : ∀ kind stored purged,
      state.tasks task ≠ some ⟨kind, .concluded stored, purged⟩)
    (hpast : ∀ msg, entry.kind.isInbound = true →
      entry.kind.stores = some msg → entry.phase.past = true →
      entry.purged = true ∨ msg ∈ chatLog P codec storagekey next.db)
    (hconsumed : ∀ other, next.Consumed other → state.Consumed other ∨
      other = task ∧ entry.kind.isInbound = true ∧
        ∃ stored, entry.phase = .concluded stored) :
    StoreInvariant P codec storagekey next where
  keys := hkeys
  past := by
    intro other entry' msg hentry hinbound hstores hphase
    rw [htasks] at hentry
    by_cases hother : other = task
    · subst hother
      rw [Function.update_self, Option.some_inj] at hentry
      subst hentry
      exact hpast msg hinbound hstores hphase
    · rw [Function.update_of_ne hother] at hentry
      rcases hinv.past other entry' msg hentry hinbound hstores hphase with
        hpurged | hmem
      · exact Or.inl hpurged
      · exact Or.inr (hlog msg hmem)
  consumed := by
    intro other hother
    rw [htasks]
    rcases hconsumed other hother with hold | ⟨rfl, hinbound, stored, hphase⟩
    · obtain ⟨kind, stored, purged, hentry, hinbound⟩ :=
        hinv.consumed other hold
      have hne : other ≠ task := by
        rintro rfl
        exact hopen kind stored purged hentry
      rw [Function.update_of_ne hne]
      exact ⟨kind, stored, purged, hentry, hinbound⟩
    · rw [Function.update_self]
      cases entry
      cases hphase
      exact ⟨_, stored, _, rfl, hinbound⟩

theorem StoreInvariant.purge
    {state : StoreState} (hinv : StoreInvariant P codec storagekey state) :
    StoreInvariant P codec storagekey
      { state with
        disk := none
        tasks := fun task =>
          (state.tasks task).map (purgeTask state.db) } where
  keys := ChatDb.wellKeyed_empty
  past := by
    intro task entry msg hentry _ _ hphase
    left
    obtain ⟨old, _, rfl⟩ := Option.map_eq_some_iff.mp hentry
    unfold purgeTask at hphase ⊢
    split <;> simp_all [StorePhase.past]
  consumed := by
    intro task htask
    obtain ⟨kind, stored, purged, hentry, hinbound⟩ :=
      hinv.consumed task htask
    refine ⟨kind, stored, true, ?_, hinbound⟩
    simp [hentry, purgeTask]

theorem StoreInvariant.step
    (haead : P.AeadCorrect) (hround : codec.RoundTrip)
    {state next : StoreState} {label : StoreLabel}
    (hinv : StoreInvariant P codec storagekey state)
    (hok : Undisturbed state label)
    (hstep : storeStep P codec storagekey state label = some next) :
    StoreInvariant P codec storagekey next := by
  cases label with
  | spawn task kind =>
      simp only [storeStep] at hstep
      split at hstep
      next hnone =>
        cases hstep
        exact hinv.update rfl hinv.keys (fun _ hmem => hmem)
          (by simp [hnone]) (by simp [StorePhase.past])
          (fun _ hother => Or.inl hother)
      next => contradiction
  | openDb task =>
      simp only [storeStep] at hstep
      split at hstep
      next kind purged hentry _ =>
        cases hstep
        exact hinv.update rfl hinv.keys (fun _ hmem => hmem)
          (by simp [hentry]) (by simp [StorePhase.past])
          (fun _ hother => Or.inl hother)
      next kind purged holder hentry hholder =>
        cases hstep
        refine hinv.update rfl hinv.keys (fun _ hmem => hmem)
          (by simp [hentry]) ?_ (fun _ hother => Or.inl hother)
        intro msg hinbound _ _
        have hfree := hok _ hentry hinbound
        rw [hholder] at hfree
        contradiction
      next => contradiction
  | act task nonce =>
      simp only [storeStep] at hstep
      split at hstep
      next kind purged hentry =>
        cases hstep
        obtain ⟨hkeys, hlog⟩ := StoreTask.apply_log storagekey
          haead hround hinv.keys kind (hok _ hentry).2 nonce
        refine hinv.update rfl hkeys ?_ (by simp [hentry]) ?_
          (fun _ hother => Or.inl hother)
        · intro msg hmem
          change msg ∈ chatLog P codec storagekey
            (kind.apply P codec storagekey nonce state.db).1
          rw [hlog]
          exact List.mem_append_left _ hmem
        · intro msg _ hstores _
          right
          change msg ∈ chatLog P codec storagekey
            (kind.apply P codec storagekey nonce state.db).1
          rw [hlog, hstores]
          simp
      next kind db purged hentry =>
        cases hstep
        refine hinv.update rfl hinv.keys (fun _ hmem => hmem)
          (by simp [hentry]) ?_ (fun _ hother => Or.inl hother)
        intro msg hinbound _ _
        exact absurd rfl ((hok _ hentry).1 hinbound db)
      next => contradiction
  | release task =>
      simp only [storeStep] at hstep
      split at hstep
      next kind stored purged hentry =>
        cases hstep
        have hpast := fun msg hinbound hstores =>
          hinv.past task _ msg hentry hinbound hstores rfl
        exact hinv.update rfl hinv.keys (fun _ hmem => hmem)
          (by simp [hentry])
          (fun msg hinbound hstores _ => hpast msg hinbound hstores)
          (fun _ hother => Or.inl hother)
      next => contradiction
  | conclude task =>
      simp only [storeStep] at hstep
      split at hstep
      next kind stored purged hentry =>
        cases hstep
        have hpast := fun msg hinbound hstores =>
          hinv.past task _ msg hentry hinbound hstores rfl
        refine hinv.update rfl hinv.keys (fun _ hmem => hmem)
          (by simp [hentry])
          (fun msg hinbound hstores _ => hpast msg hinbound hstores) ?_
        intro other hother
        simp only [StoreState.Consumed, List.mem_append] at hother
        rcases hother with (hold | hnew) | (hold | hnew)
        · exact Or.inl (Or.inl hold)
        · obtain ⟨heq, hinbound⟩ :=
            StoreTask.isInbound_of_notice (Or.inl hnew)
          exact Or.inr ⟨heq, hinbound, stored, rfl⟩
        · exact Or.inl (Or.inr hold)
        · obtain ⟨heq, hinbound⟩ :=
            StoreTask.isInbound_of_notice (Or.inr hnew)
          exact Or.inr ⟨heq, hinbound, stored, rfl⟩
      next => contradiction
  | purge =>
      cases hstep
      exact hinv.purge

theorem StoreInvariant.consumedStored
    {state : StoreState} (hinv : StoreInvariant P codec storagekey state) :
    state.ConsumedStored P codec storagekey := by
  intro task htask
  obtain ⟨kind, stored, purged, hentry, hinbound⟩ := hinv.consumed task htask
  obtain ⟨msg, hstores⟩ := StoreTask.exists_stores hinbound
  have hpast := hinv.past task _ msg hentry hinbound hstores rfl
  refine ⟨_, msg, hentry, hstores, ?_⟩
  rw [loadPeerChatMessages_messages]
  exact hpast

end Invariant

/-- In a run in which no inbound task finds the database in use, has its
files purged under it, or meets an exhausted record counter, every consumed
inbound message is stored. -/
theorem consumed_messages_stored
    (P : Primitives) (codec : Codec Message) (storagekey : KeyType)
    (haead : P.AeadCorrect) (hround : codec.RoundTrip)
    (disk : Option ChatDb) (hkeys : ∀ db, disk = some db → db.WellKeyed)
    (labels : List StoreLabel)
    (hok : AllSteps (storeStep P codec storagekey) Undisturbed
      (.initial disk) labels)
    (state : StoreState)
    (hrun : runFrom (storeStep P codec storagekey) (.initial disk) labels =
      some state) :
    state.ConsumedStored P codec storagekey := by
  have hinv : StoreInvariant P codec storagekey state :=
    runFrom_invariant_of_allSteps (StoreInvariant P codec storagekey)
      (fun state label next hinv hok hstep =>
        hinv.step haead hround hok hstep)
      (StoreInvariant.initial hkeys) hok hrun
  exact hinv.consumedStored

/-! ## A history read in the way -/

/-- A blob arrives while the UI reads the history of its sender. -/
def contendedRun : List StoreLabel :=
  [.spawn 0 .history, .openDb 0, .spawn 1 (.blob "hi" 990), .openDb 1,
    .conclude 1]

def uncontendedRun : List StoreLabel :=
  [.spawn 0 .history, .openDb 0, .act 0 (Vector.replicate 12 1), .release 0,
    .spawn 1 (.blob "hi" 990), .openDb 1, .act 1 (Vector.replicate 12 2),
    .release 1, .conclude 1]

theorem uncontended_blob_stored :
    ∃ state, runFrom (storeStep .transparent transparentMessages
        (Vector.replicate 32 1)) (.initial none) uncontendedRun = some state ∧
      state.Consumed 1 ∧
      state.ConsumedStored .transparent transparentMessages
        (Vector.replicate 32 1) := by
  refine ⟨_, rfl, Or.inl (by decide), ?_⟩
  refine consumed_messages_stored .transparent transparentMessages
    (Vector.replicate 32 1) transparent_aeadCorrect
    transparentMessages_roundTrip none (by simp) uncontendedRun ?_ _ rfl
  have hroom : ChatDb.HasRoom Tree.empty := by
    intro entry hlast
    contradiction
  refine allSteps_cons trivial rfl (allSteps_cons (fun _ _ _ => rfl) rfl
    (allSteps_cons ?_ rfl (allSteps_cons trivial rfl
      (allSteps_cons trivial rfl (allSteps_cons (fun _ _ _ => rfl) rfl
        (allSteps_cons ?_ rfl (allSteps_cons trivial rfl
          (allSteps_cons trivial rfl trivial))))))))
  · rintro entry ⟨⟩
    exact ⟨by simp, fun _ => hroom⟩
  · rintro entry ⟨⟩
    exact ⟨by simp, fun _ => hroom⟩

/-- The acknowledged blob of the contended run is not in the database. -/
theorem contended_blob_lost :
    ¬ ∀ labels state, runFrom (storeStep .transparent transparentMessages
        (Vector.replicate 32 1)) (.initial none) labels = some state →
      state.ConsumedStored .transparent transparentMessages
        (Vector.replicate 32 1) := by
  intro hall
  have hstored := hall contendedRun _ rfl
  obtain ⟨entry, msg, hentry, hstores, hpresent⟩ :=
    hstored 1 (Or.inl (by decide))
  cases hentry
  rcases hpresent with hpurged | hmem
  · contradiction
  · change msg ∈ [] at hmem
    simp at hmem

end SechatClient
