import SechatClient.ConnectTransitions
import SechatClient.SessionSafety
import SechatClient.StepSystem

/-!
# Nonces and ephemeral secrets are used once

The first part runs the two send loops of one session side by side with the
message keys and nonces which their calls of `encrypt_message_for_chat` hand
to the cipher.  The second part follows the ephemeral secrets of
a client through its connect attempts, where one secret serves the direct
handshake and, when that fails, the relay handshake.
-/

namespace SechatClient

open ByteStrings StepSystem

/-! ## Nonces of one direction -/

theorem toLeBytes_injective : Function.Injective toLeBytes := by
  intro left right heq
  rw [← ofLeBytes_toLeBytes left, heq, ofLeBytes_toLeBytes]

/-- Distinct counters give distinct nonces under one base nonce. -/
theorem nonceForMessage_injective (base : Nonce) :
    Function.Injective (nonceForMessage base) := by
  intro left right heq
  apply toLeBytes_injective
  apply List.ext_getElem
  · simp
  · intro i hleft hright
    have hi : i < 8 := by simpa using hleft
    have hbyte := congrArg (fun nonce : Nonce => nonce[i + 4]) heq
    simp only [nonceForMessage, Vector.getElem_ofFn] at hbyte
    rw [if_pos (by omega), if_pos (by omega)] at hbyte
    have hxor := (UInt8.xor_right_inj _).mp hbyte
    simpa [List.getElem?_eq_getElem hleft, List.getElem?_eq_getElem hright]
      using hxor

section Loops

variable (P : Primitives) (frames : Codec PeerMessage)

/-- The frame carries no text, or one that was sealed under one of the pairs
of key and nonce. -/
def CarriesSealed (sender : Sender) (sealedUnder : List (KeyType × Nonce))
    (bytes : Bytes) : Prop :=
  ∃ payload now,
    frame P frames payload sender.myPub sender.signing now = some bytes ∧
      ∀ counter cipher, payload = .chatMessage counter cipher →
        ∃ inputs ∈ sealedUnder, ∃ text,
          cipher = P.aeadEncrypt inputs.1 inputs.2 (utf8 text)

variable {P frames} in
theorem CarriesSealed.mono
    {sender : Sender} {sealedUnder more : List (KeyType × Nonce)}
    {bytes : Bytes} (hcarries : CarriesSealed P frames sender sealedUnder bytes)
    (hsub : sealedUnder ⊆ more) : CarriesSealed P frames sender more bytes := by
  obtain ⟨payload, now, hframe, htexts⟩ := hcarries
  refine ⟨payload, now, hframe, ?_⟩
  intro counter cipher hpayload
  obtain ⟨inputs, hinputs, text, hcipher⟩ := htexts counter cipher hpayload
  exact ⟨inputs, hsub hinputs, text, hcipher⟩

/-- The record of a send loop: the counters ran on from one, each call handed
the pair of its counter to the cipher, and nothing was handed over that was
sealed otherwise. -/
structure SealsRecorded (sender : Sender) (state : SendState) : Prop where
  numbered : state.Numbered
  sealedUnder : state.sealedUnder = state.calls.map fun call =>
    chatCipherInputs P sender.sendKey call.1.toUInt64
  sent : ∀ bytes ∈ state.sent,
    CarriesSealed P frames sender state.sealedUnder bytes

theorem SealsRecorded.initial (sender : Sender) :
    SealsRecorded P frames sender .initial where
  numbered := SendState.initial_numbered
  sealedUnder := rfl
  sent := by simp [SendState.initial]

theorem sendStep_sealsRecorded
    (sender : Sender) {state : SendState}
    (hrecorded : SealsRecorded P frames sender state)
    (input : Outgoing × SendEnv) :
    SealsRecorded P frames sender (sendStep P frames sender state input).1 where
  numbered := sendStep_numbered P frames sender hrecorded.numbered input
  sealedUnder := by
    obtain ⟨outgoing, env⟩ := input
    cases outgoing with
    | text text => simp [sendStep, hrecorded.sealedUnder]
    | closed => simpa [sendStep] using hrecorded.sealedUnder
    | heartbeat => simpa [sendStep] using hrecorded.sealedUnder
  sent := by
    intro bytes hbytes
    obtain ⟨outgoing, env⟩ := input
    cases outgoing with
    | text text =>
        simp only [sendStep, transmit_sealedUnder] at hbytes ⊢
        rcases transmit_sent P frames sender env _ _ hbytes with hold | hframe
        · exact (hrecorded.sent bytes hold).mono (List.subset_append_left _ _)
        · refine ⟨_, _, hframe, ?_⟩
          intro counter cipher hpayload
          cases hpayload
          exact ⟨_, List.mem_append_right _ (List.mem_singleton_self _), text,
            rfl⟩
    | closed =>
        simp only [sendStep, transmit_sealedUnder] at hbytes ⊢
        rcases transmit_sent P frames sender env _ _ hbytes with hold | hframe
        · exact hrecorded.sent bytes hold
        · exact ⟨_, _, hframe, by simp⟩
    | heartbeat =>
        simp only [sendStep, transmit_sealedUnder] at hbytes ⊢
        rcases transmit_sent P frames sender env _ _ hbytes with hold | hframe
        · exact hrecorded.sent bytes hold
        · exact ⟨_, _, hframe, by simp⟩

theorem SealsRecorded.nodup
    {P : Primitives} {frames : Codec PeerMessage} {sender : Sender}
    {state : SendState} (hrecorded : SealsRecorded P frames sender state)
    (hbound : state.calls.length < 2 ^ 63) : state.sealedUnder.Nodup := by
  rw [hrecorded.sealedUnder, List.Nodup, List.pairwise_map]
  refine (hrecorded.numbered.calls_pairwise hbound).imp ?_
  intro x y hlt heq
  have hnonce := nonceForMessage_injective _ (congrArg Prod.snd heq)
  have hcounter : x.1 = y.1 :=
    i64ToLeBytes_injective (congrArg toLeBytes hnonce)
  rw [hcounter] at hlt
  exact lt_irrefl _ hlt

/-! ## The two loops of a session -/

structure SendLoops where
  states : Side → SendState
  running : Side → Bool

def SendLoops.initial : SendLoops where
  states := fun _ => .initial
  running := fun _ => true

def loopsStep (senders : Side → Sender) (state : SendLoops)
    (label : Side × (Outgoing × SendEnv)) : Option SendLoops :=
  if state.running label.1 then
    let result := sendStep P frames (senders label.1) (state.states label.1)
      label.2
    some
      { states := Function.update state.states label.1 result.1
        running := Function.update state.running label.1 result.2 }
  else
    none

theorem loopsStep_sealsRecorded
    (senders : Side → Sender) {state next : SendLoops}
    {label : Side × (Outgoing × SendEnv)}
    (hrecorded : ∀ side,
      SealsRecorded P frames (senders side) (state.states side))
    (hstep : loopsStep P frames senders state label = some next) :
    ∀ side, SealsRecorded P frames (senders side) (next.states side) := by
  unfold loopsStep at hstep
  split at hstep
  next =>
    cases hstep
    intro side
    by_cases hside : side = label.1
    · subst hside
      simp only [Function.update_self]
      exact sendStep_sealsRecorded P frames _ (hrecorded label.1) label.2
    · simp only [Function.update_of_ne hside]
      exact hrecorded side
  next => contradiction

/-- HKDF gives different outputs at different ones of these inputs. -/
def HkdfSeparates (inputs : List (Bytes × Bytes)) : Prop :=
  ∀ x ∈ inputs, ∀ y ∈ inputs, x ≠ y → P.hkdf x.1 x.2 32 ≠ P.hkdf y.1 y.2 32

/-- The inputs from which a session derives its keys. -/
def sessionHkdfInputs (sessionKey : KeyType) : List (Bytes × Bytes) :=
  [(sessionKey.toList, utf8 "a2b"), (sessionKey.toList, utf8 "b2a"),
    ((deriveDirectionalKey P sessionKey (utf8 "a2b")).toList,
      utf8 "message"),
    ((deriveDirectionalKey P sessionKey (utf8 "b2a")).toList,
      utf8 "message")]

theorem messageKeys_ne
    {sessionKey : KeyType}
    (hkdf : HkdfSeparates P (sessionHkdfInputs P sessionKey)) :
    messageKey P (deriveDirectionalKey P sessionKey (utf8 "a2b")) ≠
      messageKey P (deriveDirectionalKey P sessionKey (utf8 "b2a")) := by
  have hlabels : utf8 "a2b" ≠ utf8 "b2a" := by decide
  have hdirections : deriveDirectionalKey P sessionKey (utf8 "a2b") ≠
      deriveDirectionalKey P sessionKey (utf8 "b2a") := by
    apply hkdf (sessionKey.toList, utf8 "a2b") (by simp [sessionHkdfInputs])
      (sessionKey.toList, utf8 "b2a") (by simp [sessionHkdfInputs])
    simpa using hlabels
  apply hkdf ((deriveDirectionalKey P sessionKey (utf8 "a2b")).toList,
      utf8 "message") (by simp [sessionHkdfInputs])
    ((deriveDirectionalKey P sessionKey (utf8 "b2a")).toList,
      utf8 "message") (by simp [sessionHkdfInputs])
  intro heq
  exact hdirections (Vector.toList_inj.mp (congrArg Prod.fst heq))

/-- The two sides send under different message keys. -/
theorem sessionSender_messageKey_ne
    {keys : Side → Keys} {sessionKey : KeyType}
    (hne : (keys .left).x25519Pub ≠ (keys .right).x25519Pub)
    (hkdf : HkdfSeparates P (sessionHkdfInputs P sessionKey))
    (kind : Side → TransportKind) :
    messageKey P (sessionSender P keys (kind .left) sessionKey
        .left).sendKey ≠
      messageKey P (sessionSender P keys (kind .right) sessionKey
        .right).sendKey := by
  have hkeys := messageKeys_ne P hkdf
  simp only [sessionSender, Side.other, amIFirst_swap hne]
  cases amIFirst (keys .left).x25519Pub (keys .right).x25519Pub with
  | true => exact hkeys
  | false => exact hkeys.symm

theorem loops_sealsRecorded
    {senders : Side → Sender} {labels : List (Side × (Outgoing × SendEnv))}
    {final : SendLoops}
    (hrun : runFrom (loopsStep P frames senders) .initial labels = some final)
    (side : Side) : SealsRecorded P frames (senders side) (final.states side) :=
  runFrom_invariant (fun state : SendLoops =>
      ∀ side, SealsRecorded P frames (senders side) (state.states side))
    (fun _ _ _ hstate hstep =>
      loopsStep_sealsRecorded P frames _ hstate hstep)
    (fun side => SealsRecorded.initial P frames (senders side)) hrun side

/-- In every interleaving of the two send loops no pair of key and nonce is
handed to the cipher twice. -/
theorem session_seals_nodup
    {keys : Side → Keys} {sessionKey : KeyType}
    (hne : (keys .left).x25519Pub ≠ (keys .right).x25519Pub)
    (hkdf : HkdfSeparates P (sessionHkdfInputs P sessionKey))
    (kind : Side → TransportKind)
    {labels : List (Side × (Outgoing × SendEnv))} {final : SendLoops}
    (hrun : runFrom (loopsStep P frames fun side =>
      sessionSender P keys (kind side) sessionKey side) .initial labels =
        some final)
    (hbound : ∀ side, (final.states side).calls.length < 2 ^ 63) :
    ((final.states .left).sealedUnder ++
      (final.states .right).sealedUnder).Nodup := by
  have hrecorded := loops_sealsRecorded P frames hrun
  refine List.nodup_append'.mpr
    ⟨(hrecorded .left).nodup (hbound .left),
      (hrecorded .right).nodup (hbound .right), ?_⟩
  intro pair hleft hright
  rw [(hrecorded .left).sealedUnder] at hleft
  rw [(hrecorded .right).sealedUnder] at hright
  obtain ⟨_, _, rfl⟩ := List.mem_map.mp hleft
  obtain ⟨_, _, heq⟩ := List.mem_map.mp hright
  exact sessionSender_messageKey_ne P hne hkdf kind
    (congrArg Prod.fst heq).symm

end Loops

/-! ## Ephemeral secrets of a client -/

/-- The client with the secrets drawn so far and those whose session was
started, each with its connect attempt. -/
structure EphemeralTrace where
  client : ClientState
  drawn : List (ℕ × KeyType)
  started : List (ℕ × KeyType)

def EphemeralTrace.initial : EphemeralTrace := ⟨.initial, [], []⟩

/-- `generate_x25519` is called behind a successful reservation. -/
def ephemeralDrawn (next : ClientState) : ConnectLabel → List (ℕ × KeyType)
  | .reserve task ephPriv =>
      if (next.attempts task).map Attempt.phase = some (.punching ephPriv) then
        [(task, ephPriv)]
      else
        []
  | _ => []

/-- `start_session` is called when one of the handshakes returned a key. -/
def sessionStarted (state next : ClientState) (task : ℕ) :
    List (ℕ × KeyType) :=
  match state.attempts task, next.attempts task with
  | some ⟨_, phase⟩, some ⟨_, .starting _⟩ =>
      phase.ephemeral.toList.map fun ephPriv => (task, ephPriv)
  | _, _ => []

def ephemeralStarted (state next : ClientState) :
    ConnectLabel → List (ℕ × KeyType)
  | .handshaken task _ => sessionStarted state next task
  | .relayRecv task _ => sessionStarted state next task
  | _ => []

section Ephemerals

variable (P : Primitives) (frames : Codec PeerMessage) (keys : Keys)

def tracedStep (trace : EphemeralTrace) (label : ConnectLabel) :
    Option EphemeralTrace :=
  (connectStep P frames keys trace.client label).map fun next =>
    { client := next
      drawn := trace.drawn ++ ephemeralDrawn next label
      started := trace.started ++ ephemeralStarted trace.client next label }

end Ephemerals

/-- An attempt that has not drawn its secret. -/
def ConnectPhase.undrawn : ConnectPhase → Bool
  | .checking => true
  | .reserving _ => true
  | _ => false

/-- Each attempt draws one secret and starts one session with it, at most. -/
structure EphemeralsUsedOnce (spawned : ℕ) (attempts : ℕ → Option Attempt)
    (drawn started : List (ℕ × KeyType)) : Prop where
  unspawned : ∀ task, spawned ≤ task → attempts task = none
  drawnSpawned : ∀ pair ∈ drawn, pair.1 < spawned
  undrawn : ∀ task attempt, attempts task = some attempt →
    attempt.phase.undrawn = true → task ∉ drawn.map Prod.fst
  drawnOnce : (drawn.map Prod.fst).Nodup
  held : ∀ task attempt ephPriv, attempts task = some attempt →
    attempt.phase.ephemeral = some ephPriv →
      (task, ephPriv) ∈ drawn ∧ task ∉ started.map Prod.fst
  startedDrawn : started ⊆ drawn
  startedOnce : (started.map Prod.fst).Nodup

namespace EphemeralsUsedOnce

variable {spawned : ℕ} {attempts : ℕ → Option Attempt}
  {drawn started : List (ℕ × KeyType)}

theorem initial : EphemeralsUsedOnce 0 (fun _ => none) [] [] where
  unspawned := by simp
  drawnSpawned := by simp
  undrawn := by simp
  drawnOnce := by simp
  held := by simp
  startedDrawn := by simp
  startedOnce := by simp

theorem spawn
    (hinv : EphemeralsUsedOnce spawned attempts drawn started)
    (peer : PeerPublic) :
    EphemeralsUsedOnce (spawned + 1)
      (Function.update attempts spawned (some ⟨peer, .checking⟩)) drawn
      started where
  unspawned := unspawned_spawn hinv.unspawned _
  drawnSpawned := by
    intro pair hpair
    have hlt := hinv.drawnSpawned pair hpair
    omega
  undrawn := by
    intro task attempt hattempt hundrawn hmem
    obtain ⟨pair, hpair, rfl⟩ := List.mem_map.mp hmem
    have hlt := hinv.drawnSpawned pair hpair
    rw [Function.update_of_ne (by omega)] at hattempt
    exact hinv.undrawn pair.1 attempt hattempt hundrawn hmem
  drawnOnce := hinv.drawnOnce
  held := by
    intro task attempt ephPriv hattempt heph
    rcases update_eq_some hattempt with ⟨rfl, rfl⟩ | ⟨htask, hattempt⟩
    · simp [ConnectPhase.ephemeral] at heph
    · exact hinv.held task attempt ephPriv hattempt heph
  startedDrawn := hinv.startedDrawn
  startedOnce := hinv.startedOnce

/-- A move of one attempt that neither draws a secret nor starts a session
keeps what the attempt holds. -/
theorem move
    (hinv : EphemeralsUsedOnce spawned attempts drawn started)
    {task : ℕ} {peer : PeerPublic} {before after : ConnectPhase}
    (hbefore : attempts task = some ⟨peer, before⟩)
    (hundrawn : after.undrawn = true → before.undrawn = true)
    (hheld : ∀ ephPriv, after.ephemeral = some ephPriv →
      before.ephemeral = some ephPriv) :
    EphemeralsUsedOnce spawned
      (Function.update attempts task (some ⟨peer, after⟩)) drawn
      started where
  unspawned := unspawned_move hinv.unspawned hbefore _
  drawnSpawned := hinv.drawnSpawned
  undrawn := by
    intro other attempt hattempt hphase
    rcases update_eq_some hattempt with ⟨rfl, rfl⟩ | ⟨hother, hattempt⟩
    · exact hinv.undrawn other _ hbefore (hundrawn hphase)
    · exact hinv.undrawn other attempt hattempt hphase
  drawnOnce := hinv.drawnOnce
  held := by
    intro other attempt ephPriv hattempt heph
    rcases update_eq_some hattempt with ⟨rfl, rfl⟩ | ⟨hother, hattempt⟩
    · exact hinv.held other _ ephPriv hbefore (hheld ephPriv heph)
    · exact hinv.held other attempt ephPriv hattempt heph
  startedDrawn := hinv.startedDrawn
  startedOnce := hinv.startedOnce

theorem draw
    (hinv : EphemeralsUsedOnce spawned attempts drawn started)
    {task : ℕ} {peer : PeerPublic} {before : ConnectPhase}
    (hbefore : attempts task = some ⟨peer, before⟩)
    (hundrawn : before.undrawn = true) (ephPriv : KeyType) :
    EphemeralsUsedOnce spawned
      (Function.update attempts task (some ⟨peer, .punching ephPriv⟩))
      (drawn ++ [(task, ephPriv)]) started where
  unspawned := unspawned_move hinv.unspawned hbefore _
  drawnSpawned := by
    intro pair hpair
    rcases List.mem_append.mp hpair with hold | hnew
    · exact hinv.drawnSpawned pair hold
    · rw [List.mem_singleton.mp hnew]
      exact lt_spawned_of_attempt hinv.unspawned hbefore
  undrawn := by
    intro other attempt hattempt hphase
    rcases update_eq_some hattempt with ⟨rfl, rfl⟩ | ⟨hother, hattempt⟩
    · simp [ConnectPhase.undrawn] at hphase
    · have hold := hinv.undrawn other attempt hattempt hphase
      simpa [hother] using hold
  drawnOnce := by
    have hnew := hinv.undrawn task _ hbefore hundrawn
    rw [List.map_append]
    exact hinv.drawnOnce.append (by simp) (by simpa using hnew)
  held := by
    intro other attempt eph hattempt heph
    rcases update_eq_some hattempt with ⟨rfl, rfl⟩ | ⟨hother, hattempt⟩
    · simp only [ConnectPhase.ephemeral, Option.some.injEq] at heph
      subst heph
      refine ⟨by simp, ?_⟩
      intro hstarted
      obtain ⟨pair, hpair, rfl⟩ := List.mem_map.mp hstarted
      exact hinv.undrawn pair.1 _ hbefore hundrawn
        (List.mem_map_of_mem (hinv.startedDrawn hpair))
    · obtain ⟨hdrawn, hunused⟩ := hinv.held other attempt eph hattempt heph
      exact ⟨List.mem_append_left _ hdrawn, hunused⟩
  startedDrawn := fun _ hpair =>
    List.mem_append_left _ (hinv.startedDrawn hpair)
  startedOnce := hinv.startedOnce

theorem start
    (hinv : EphemeralsUsedOnce spawned attempts drawn started)
    {task : ℕ} {peer : PeerPublic} {before : ConnectPhase}
    {ephPriv : KeyType} (hbefore : attempts task = some ⟨peer, before⟩)
    (heph : before.ephemeral = some ephPriv) (transport : SessionTransport) :
    EphemeralsUsedOnce spawned
      (Function.update attempts task (some ⟨peer, .starting transport⟩))
      drawn (started ++ [(task, ephPriv)]) where
  unspawned := unspawned_move hinv.unspawned hbefore _
  drawnSpawned := hinv.drawnSpawned
  undrawn := by
    intro other attempt hattempt hphase
    rcases update_eq_some hattempt with ⟨rfl, rfl⟩ | ⟨hother, hattempt⟩
    · simp [ConnectPhase.undrawn] at hphase
    · exact hinv.undrawn other attempt hattempt hphase
  drawnOnce := hinv.drawnOnce
  held := by
    intro other attempt eph hattempt hheld
    rcases update_eq_some hattempt with ⟨rfl, rfl⟩ | ⟨hother, hattempt⟩
    · simp [ConnectPhase.ephemeral] at hheld
    · obtain ⟨hdrawn, hunused⟩ := hinv.held other attempt eph hattempt hheld
      refine ⟨hdrawn, ?_⟩
      simpa [hother] using hunused
  startedDrawn := by
    intro pair hpair
    rcases List.mem_append.mp hpair with hold | hnew
    · exact hinv.startedDrawn hold
    · rw [List.mem_singleton.mp hnew]
      exact (hinv.held task _ ephPriv hbefore heph).1
  startedOnce := by
    have hunused := (hinv.held task _ ephPriv hbefore heph).2
    rw [List.map_append]
    exact hinv.startedOnce.append (by simp) (by simpa using hunused)

end EphemeralsUsedOnce

def EphemeralTrace.UsedOnce (trace : EphemeralTrace) : Prop :=
  EphemeralsUsedOnce trace.client.spawned trace.client.attempts trace.drawn
    trace.started

section Ephemerals

variable {P : Primitives} {frames : Codec PeerMessage} {keys : Keys}

theorem sessionStarted_of_starting
    {state next : ClientState} {task : ℕ} {peer : PeerPublic}
    {before : ConnectPhase} {ephPriv : KeyType} {transport : SessionTransport}
    (hbefore : state.attempts task = some ⟨peer, before⟩)
    (heph : before.ephemeral = some ephPriv)
    (hafter : next.attempts task = some ⟨peer, .starting transport⟩) :
    sessionStarted state next task = [(task, ephPriv)] := by
  simp [sessionStarted, hbefore, hafter, heph]

theorem sessionStarted_eq_nil
    {state next : ClientState} {task : ℕ} {attempt : Attempt}
    (hafter : next.attempts task = some attempt)
    (hphase : ∀ transport, attempt.phase ≠ .starting transport) :
    sessionStarted state next task = [] := by
  obtain ⟨peer, phase⟩ := attempt
  unfold sessionStarted
  split
  next transport _ hstarting =>
    rw [hafter] at hstarting
    cases hstarting
    exact absurd rfl (hphase _)
  next => rfl

/-- The invariant along one transition, by what it does to its attempt. -/
theorem usedOnce_of_transition
    {state next : ClientState} {label : ConnectLabel}
    {drawn started : List (ℕ × KeyType)}
    (hinv : EphemeralsUsedOnce state.spawned state.attempts drawn started)
    (htransition : ConnectTransition P keys state label next) :
    EphemeralsUsedOnce next.spawned next.attempts
      (drawn ++ ephemeralDrawn next label)
      (started ++ ephemeralStarted state next label) := by
  cases htransition with
  | spawned peer =>
      simpa [ephemeralDrawn, ephemeralStarted, spawnConnect]
        using hinv.spawn peer
  | looked hphase =>
      simp only [ephemeralDrawn, ephemeralStarted, List.append_nil]
      exact hinv.move hphase (fun _ => rfl) (by simp [ConnectPhase.ephemeral])
  | refused ephPriv hphase hbusy =>
      simp only [ephemeralDrawn, ephemeralStarted, List.append_nil]
      rw [if_neg (by simp), List.append_nil]
      exact hinv.move hphase (by simp [ConnectPhase.undrawn])
        (by simp [ConnectPhase.ephemeral])
  | reserved ephPriv hphase hfree =>
      simp only [ephemeralDrawn, ephemeralStarted, List.append_nil]
      rw [if_pos (by simp)]
      exact hinv.draw hphase rfl ephPriv
  | punched remote hphase =>
      simp only [ephemeralDrawn, ephemeralStarted, List.append_nil]
      exact hinv.move hphase (by simp [ConnectPhase.undrawn])
        (by simp [ConnectPhase.ephemeral])
  | unpunched hphase =>
      simp only [ephemeralDrawn, ephemeralStarted, List.append_nil]
      exact hinv.move hphase (by simp [ConnectPhase.undrawn])
        (by simp [ConnectPhase.ephemeral])
  | handshaken key hphase =>
      simp only [ephemeralDrawn, ephemeralStarted, List.append_nil]
      rw [sessionStarted_of_starting hphase rfl (Function.update_self _ _ _)]
      exact hinv.start hphase rfl _
  | unshaken hphase =>
      simp only [ephemeralDrawn, ephemeralStarted, List.append_nil]
      rw [sessionStarted_eq_nil (Function.update_self _ _ _) (by simp),
        List.append_nil]
      exact hinv.move hphase (by simp [ConnectPhase.undrawn])
        (by simp [ConnectPhase.ephemeral])
  | relaySkipped now rest hphase =>
      simp only [ephemeralDrawn, ephemeralStarted, List.append_nil]
      have hkept := hphase
      rw [← ClientState.setChannel_attempts state _ (some rest)] at hkept
      rw [sessionStarted_eq_nil hkept (by simp), List.append_nil]
      exact hinv
  | relayStarted now rest key hphase =>
      simp only [ephemeralDrawn, ephemeralStarted, List.append_nil]
      rw [sessionStarted_of_starting hphase rfl (Function.update_self _ _ _)]
      exact hinv.start hphase rfl _
  | relayGivenUp hphase =>
      simp only [ephemeralDrawn, ephemeralStarted, List.append_nil]
      exact hinv.move hphase (by simp [ConnectPhase.undrawn])
        (by simp [ConnectPhase.ephemeral])
  | entered hphase =>
      simp only [ephemeralDrawn, ephemeralStarted, List.append_nil]
      exact hinv.move hphase (by simp [ConnectPhase.undrawn])
        (by simp [ConnectPhase.ephemeral])
  | finished hphase =>
      simp only [ephemeralDrawn, ephemeralStarted, List.append_nil]
      rcases hphase with hphase | hphase <;>
        exact hinv.move hphase (by simp [ConnectPhase.undrawn])
          (by simp [ConnectPhase.ephemeral])
  | _ =>
      -- the attempts are left as they are
      simpa [ephemeralDrawn, ephemeralStarted, stopSession, endEventTask]
        using hinv

theorem tracedStep_usedOnce
    {trace next : EphemeralTrace} {label : ConnectLabel}
    (hinv : trace.UsedOnce)
    (hstep : tracedStep P frames keys trace label = some next) :
    next.UsedOnce := by
  obtain ⟨client, hclient, rfl⟩ := Option.map_eq_some_iff.mp hstep
  exact usedOnce_of_transition hinv (connectTransition_of_step hclient)

/-- Secrets drawn distinct are started distinct. -/
theorem EphemeralTrace.UsedOnce.started_nodup
    {trace : EphemeralTrace} (hinv : trace.UsedOnce)
    (hdrawn : (trace.drawn.map Prod.snd).Nodup) :
    (trace.started.map Prod.snd).Nodup := by
  have hstarted : trace.started.Nodup := hinv.startedOnce.of_map
  obtain ⟨middle, hperm, hsub⟩ := hstarted.subperm hinv.startedDrawn
  have hmiddle : (middle.map Prod.snd).Nodup :=
    hdrawn.sublist (hsub.map Prod.snd)
  exact (hperm.map Prod.snd).nodup_iff.mp hmiddle

end Ephemerals

/-- In a session no pair of message key and nonce is handed to the cipher
twice, by either side, every text on the wire was sealed under one of these
pairs, and over the connect attempts of a client no attempt starts two
sessions and no ephemeral secret is started twice. -/
theorem nonces_and_ephemerals_used_once
    (P : Primitives) (frames : Codec PeerMessage) (keys : Side → Keys)
    (hne : (keys .left).x25519Pub ≠ (keys .right).x25519Pub)
    (sessionKey : KeyType)
    (hkdf : HkdfSeparates P (sessionHkdfInputs P sessionKey)) :
    (∀ (kind : Side → TransportKind)
        (labels : List (Side × (Outgoing × SendEnv))) (final : SendLoops),
      runFrom (loopsStep P frames fun side =>
          sessionSender P keys (kind side) sessionKey side) .initial labels =
        some final →
      (∀ side, (final.states side).calls.length < 2 ^ 63) →
      ((final.states .left).sealedUnder ++
          (final.states .right).sealedUnder).Nodup ∧
        ∀ side, ∀ bytes ∈ (final.states side).sent,
          CarriesSealed P frames
            (sessionSender P keys (kind side) sessionKey side)
            (final.states side).sealedUnder bytes) ∧
      ∀ (side : Side) (labels : List ConnectLabel) (final : EphemeralTrace),
        runFrom (tracedStep P frames (keys side)) .initial labels =
          some final →
        final.started ⊆ final.drawn ∧
          (final.started.map Prod.fst).Nodup ∧
          ((final.drawn.map Prod.snd).Nodup →
            (final.started.map Prod.snd).Nodup) := by
  constructor
  · intro kind labels final hrun hbound
    exact ⟨session_seals_nodup P frames hne hkdf kind hrun hbound,
      fun side => (loops_sealsRecorded P frames hrun side).sent⟩
  · intro side labels final hrun
    have hinitial : EphemeralTrace.initial.UsedOnce :=
      EphemeralsUsedOnce.initial
    have hinv : final.UsedOnce := runFrom_invariant EphemeralTrace.UsedOnce
      (fun _ _ _ htrace hstep => tracedStep_usedOnce htrace hstep)
      hinitial hrun
    exact ⟨hinv.startedDrawn, hinv.startedOnce, hinv.started_nodup⟩

def sampleSends : List (Side × (Outgoing × SendEnv)) :=
  [(.left, .text "hi", ⟨1000, true⟩), (.right, .text "ho", ⟨1000, true⟩),
    (.left, .text "hi", ⟨1001, true⟩), (.right, .heartbeat, ⟨1002, true⟩)]

/-- A direct connection whose handshake fails and whose relay gives up, then
a second attempt that succeeds. -/
def sampleConnects : List ConnectLabel :=
  [.punchHole (sampleKeys 3).publicPart, .lookup 0,
    .reserve 0 (Vector.replicate 32 7),
    .punched 0 (some "203.0.113.7:4000"), .handshaken 0 none,
    .relayDeadline 0, .finish 0, .punchHole (sampleKeys 3).publicPart,
    .lookup 1, .reserve 1 (Vector.replicate 32 8),
    .punched 1 (some "203.0.113.7:4000"),
    .handshaken 1 (some (Vector.replicate 32 9))]

theorem sample_nonces_and_ephemerals :
    (∃ final, runFrom (loopsStep .transparent transparentFrames fun side =>
          sessionSender .transparent samplePair .direct
            (Vector.replicate 32 2) side) .initial sampleSends = some final ∧
        (final.states .left).sealedUnder.length = 2 ∧
        ((final.states .left).sealedUnder ++
          (final.states .right).sealedUnder).Nodup) ∧
      ∃ final, runFrom (tracedStep .transparent transparentFrames
            (sampleKeys 1)) .initial sampleConnects = some final ∧
        final.started = [(1, Vector.replicate 32 8)] ∧
        (final.started.map Prod.snd).Nodup := by
  have hkdf : HkdfSeparates .transparent (sessionHkdfInputs .transparent
      (Vector.replicate 32 2)) := by
    unfold HkdfSeparates
    decide
  obtain ⟨hnonces, hephemerals⟩ := nonces_and_ephemerals_used_once
    .transparent transparentFrames samplePair samplePair_ne
    (Vector.replicate 32 2) hkdf
  constructor
  · refine ⟨_, rfl, by decide,
      (hnonces (fun _ => .direct) sampleSends _ rfl ?_).1⟩
    intro side
    cases side <;> decide
  · refine ⟨_, rfl, rfl, ?_⟩
    exact (hephemerals .left sampleConnects _ rfl).2.2 (by decide)

end SechatClient
