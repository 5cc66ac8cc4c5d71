import Mathlib.Data.List.Basic

/-!
# Scripts of writes that may break off

A script is a list of actions on a store.  It may break off at any action,
which then has done a part of its work or nothing, and it leaves the store as
it is at that moment.  Breaking off stands both for an action that fails and
for a process that stops.
-/

namespace InterruptedWrites

variable {σ ε β : Type}

/-- `part n` is what is left when the action breaks off after `n` units of
its work. -/
structure Action (σ : Type) where
  run : σ → σ
  part : ℕ → σ → σ

/-- An action that is done as a whole or not at all. -/
def Action.whole (run : σ → σ) : Action σ := ⟨run, fun _ state => state⟩

/-- Writing items one after another. -/
def Action.writeAll (append : List β → σ → σ) (items : List β) : Action σ :=
  ⟨append items, fun n => append (items.take n)⟩

/-- An action without effect that may fail. -/
def Action.flush : Action σ := .whole id

/-- The action at which the script breaks off, how much of it is done, and the
error it fails with. -/
structure Fault (ε : Type) where
  step : ℕ
  part : ℕ
  error : ε

def perform : List (Action σ) → Option (Fault ε) → σ → σ × Except ε Unit
  | [], _, state => (state, .ok ())
  | action :: rest, none, state => perform rest none (action.run state)
  | action :: _, some ⟨0, part, error⟩, state =>
      (action.part part state, .error error)
  | action :: rest, some ⟨step + 1, part, error⟩, state =>
      perform rest (some ⟨step, part, error⟩) (action.run state)

variable {script : List (Action σ)} {fault : Option (Fault ε)} {state : σ}

theorem perform_invariant
    (Inv : σ → Prop)
    (hkeep : ∀ action ∈ script, ∀ state, Inv state →
      Inv (action.run state) ∧ ∀ part, Inv (action.part part state))
    (hinv : Inv state) : Inv (perform script fault state).1 := by
  induction script generalizing fault state with
  | nil => exact hinv
  | cons action rest ih =>
      have hrest : ∀ other ∈ rest, ∀ state, Inv state →
          Inv (other.run state) ∧ ∀ part, Inv (other.part part state) :=
        fun other hother => hkeep other (List.mem_cons_of_mem _ hother)
      have haction := hkeep action List.mem_cons_self state hinv
      match fault with
      | none => exact ih hrest haction.1
      | some ⟨0, part, error⟩ => exact haction.2 part
      | some ⟨step + 1, part, error⟩ => exact ih hrest haction.1

end InterruptedWrites
