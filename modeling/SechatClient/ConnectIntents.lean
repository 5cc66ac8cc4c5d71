import SechatClient.MessageHandling

/-!
# Connect-intents

The per-peer intents which the retry tick of `orchestrate` drives, with
bounded exponential backoff.  `nextRetryAction` compares instants in any unit;
`driveRetry` counts them in seconds, and is for ticks at whole seconds.
-/

namespace SechatClient

inductive AppEvent where
  | connected (observedAddress : String)
  | peerOnline (id : KeyType)
  | peerOffline (id : KeyType)
  | messageArrived (peer : KeyType) (fromMe : Bool)
  | holePunchDenied (peer : KeyType) (reason : String)
  | sessionUp (peer : KeyType) (direct : Bool)
  | sessionDown (peer : KeyType)
  | connectRetrying (peer : KeyType) (attempt delaySecs : ℕ)
  | connectGaveUp (peer : KeyType)
  | disconnected
  | error (reason : String)
  deriving DecidableEq

def maxConnectAttempts : ℕ := 5
def retryBackoffCapSecs : ℕ := 30

structure ConnectIntent where
  attempts : ℕ
  backoffSecs : ℕ
  dueAt : ℕ
  online : Bool
  deriving DecidableEq

def ConnectIntent.armed (online : Bool) (now : ℕ) : ConnectIntent :=
  ⟨0, 1, now, online⟩

def ConnectIntent.rearm (intent : ConnectIntent) (now : ℕ) : ConnectIntent :=
  { intent with attempts := 0, backoffSecs := 1, dueAt := now }

def ConnectIntent.parked (intent : ConnectIntent) : Prop :=
  maxConnectAttempts < intent.attempts

instance ConnectIntent.decidableParked (intent : ConnectIntent) : Decidable intent.parked :=
  inferInstanceAs (Decidable (maxConnectAttempts < intent.attempts))

inductive RetryAction where
  | punch
  | giveUp
  | wait
  | done
  deriving DecidableEq, Repr

def nextRetryAction (intent : ConnectIntent) (hasSession : Bool) (now : ℕ) :
    RetryAction :=
  if hasSession then .done
  else if !intent.online then .wait
  else if maxConnectAttempts < intent.attempts then .wait
  else if intent.attempts = maxConnectAttempts then .giveUp
  else if now < intent.dueAt then .wait
  else .punch

def bumpBackoff (current : ℕ) : ℕ := min (current * 2) retryBackoffCapSecs

/-- One intent in one pass of `drive_retries`.  `sent` is the outcome of
`send_punch_request`, which is called only for a punch. -/
def driveRetry (hasSession : Bool) (now : ℕ) (sent : Bool)
    (intent : ConnectIntent) : ConnectIntent :=
  match nextRetryAction intent hasSession now with
  | .done =>
      if intent.attempts ≠ 0 ∨ intent.backoffSecs ≠ 1 then intent.rearm now
      else intent
  | .punch =>
      if sent then
        { intent with
          attempts := intent.attempts + 1
          dueAt := now + intent.backoffSecs
          backoffSecs := bumpBackoff intent.backoffSecs }
      else
        { intent with
          dueAt := now + max intent.backoffSecs 1
          backoffSecs := bumpBackoff intent.backoffSecs }
  | .giveUp => { intent with attempts := maxConnectAttempts + 1 }
  | .wait => intent

theorem driveRetry_online (hasSession : Bool) (now : ℕ) (sent : Bool)
    (intent : ConnectIntent) :
    (driveRetry hasSession now sent intent).online = intent.online := by
  unfold driveRetry
  split
  next =>
    split <;> rfl
  next =>
    split <;> rfl
  next => rfl
  next => rfl

/-- What `handle_server_event` does to the intent of an event's peer. -/
def intentAfterEvent (now : ℕ) (event : ServerEvent) (peer : KeyType)
    (intent : ConnectIntent) : ConnectIntent :=
  match event with
  | .peerOnline hash _ =>
      if hash = peer then
        let online := { intent with online := true }
        if online.parked then online.rearm now else online
      else
        intent
  | .peerOffline hash =>
      if hash = peer then { intent with online := false } else intent
  | _ => intent

end SechatClient
