import Mathlib.Data.List.Basic

/-!
# Bounded queues

A first-in first-out channel with a capacity, carried by the type.  A send
into a full queue has no result: the sender waits for the receiver.
-/

structure BoundedQueue (α : Type*) (capacity : ℕ) where
  items : List α
  bounded : items.length ≤ capacity

namespace BoundedQueue

variable {α : Type*} {capacity : ℕ}

def empty : BoundedQueue α capacity := ⟨[], Nat.zero_le _⟩

/-- The queue after a send, `none` if the queue is full. -/
def trySend (queue : BoundedQueue α capacity) (item : α) :
    Option (BoundedQueue α capacity) :=
  if h : queue.items.length < capacity then
    some ⟨queue.items ++ [item], by
      rw [List.length_append]
      exact h⟩
  else
    none

def recv (queue : BoundedQueue α capacity) :
    Option (α × BoundedQueue α capacity) :=
  match queue with
  | ⟨[], _⟩ => none
  | ⟨item :: rest, hbounded⟩ =>
      some (item, ⟨rest, Nat.le_of_succ_le hbounded⟩)

@[simp] theorem items_empty :
    (empty : BoundedQueue α capacity).items = [] := rfl

theorem trySend_of_lt
    {queue : BoundedQueue α capacity} (hroom : queue.items.length < capacity)
    (item : α) :
    ∃ next, queue.trySend item = some next ∧
      next.items = queue.items ++ [item] := by
  unfold trySend
  rw [dif_pos hroom]
  exact ⟨_, rfl, rfl⟩

theorem trySend_of_not_lt
    {queue : BoundedQueue α capacity}
    (hfull : ¬ queue.items.length < capacity) (item : α) :
    queue.trySend item = none := by
  unfold trySend
  rw [dif_neg hfull]

theorem trySend_eq_some
    {queue next : BoundedQueue α capacity} {item : α}
    (hsend : queue.trySend item = some next) :
    next.items = queue.items ++ [item] := by
  by_cases hroom : queue.items.length < capacity
  · obtain ⟨other, hother, hitems⟩ := trySend_of_lt hroom item
    rw [hother] at hsend
    cases hsend
    exact hitems
  · rw [trySend_of_not_lt hroom] at hsend
    contradiction

/-- A queue without items takes one. -/
theorem trySend_of_items_eq_nil
    {queue : BoundedQueue α capacity} (hroom : 0 < capacity)
    (hitems : queue.items = []) (item : α) :
    ∃ next, queue.trySend item = some next := by
  have hlt : queue.items.length < capacity := by simpa [hitems] using hroom
  obtain ⟨next, hsend, _⟩ := trySend_of_lt hlt item
  exact ⟨next, hsend⟩

theorem recv_of_items_eq_cons
    {queue : BoundedQueue α capacity} {item : α} {rest : List α}
    (hitems : queue.items = item :: rest) :
    ∃ next, queue.recv = some (item, next) := by
  obtain ⟨items, hbounded⟩ := queue
  subst hitems
  exact ⟨_, rfl⟩

theorem recv_eq_some
    {queue rest : BoundedQueue α capacity} {item : α}
    (hrecv : queue.recv = some (item, rest)) :
    queue.items = item :: rest.items := by
  obtain ⟨items, hbounded⟩ := queue
  cases items with
  | nil => contradiction
  | cons head tail =>
      cases hrecv
      rfl

theorem recv_of_items_eq_nil
    {queue : BoundedQueue α capacity} (hitems : queue.items = []) :
    queue.recv = none := by
  cases queue with
  | mk items hbounded =>
      subst hitems
      rfl

end BoundedQueue

/-- A queue whose receiver may be gone. -/
structure Channel (α : Type*) (capacity : ℕ) where
  isOpen : Bool
  queue : BoundedQueue α capacity

namespace Channel

variable {α : Type*} {capacity : ℕ}

/-- A send fails without a receiver, and waits while the queue is full. -/
def send (channel : Channel α capacity) (item : α) :
    Option (Channel α capacity × Bool) :=
  if channel.isOpen then
    (channel.queue.trySend item).map fun queue => (⟨true, queue⟩, true)
  else
    some (channel, false)

def waits (channel : Channel α capacity) : Bool :=
  channel.isOpen && decide (capacity ≤ channel.queue.items.length)

theorem send_eq_some
    {channel next : Channel α capacity} {item : α} {accepted : Bool}
    (hsend : channel.send item = some (next, accepted)) :
    accepted = channel.isOpen ∧
      next.queue.items = channel.queue.items ++
        (if accepted then [item] else []) := by
  unfold send at hsend
  split at hsend
  next hopen =>
    by_cases hroom : channel.queue.items.length < capacity
    · obtain ⟨queue, htry, hitems⟩ :=
        BoundedQueue.trySend_of_lt hroom item
      rw [htry] at hsend
      cases hsend
      exact ⟨hopen.symm, by simp [hitems]⟩
    · rw [BoundedQueue.trySend_of_not_lt hroom] at hsend
      contradiction
  next hclosed =>
    cases hsend
    exact ⟨by simpa using hclosed, by simp⟩

end Channel
