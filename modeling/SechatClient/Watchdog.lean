import Mathlib.Data.List.Basic
import Mathlib.Data.List.Pairwise
import Mathlib.Data.Nat.Basic
import Mathlib.Tactic

/-!
# Loops under a watchdog

A loop takes items one after another.  Under a watchdog it gives up when it
has waited for `limit` without an item; the wait begins anew with every item.
Periodic items that may be late or lost keep such a loop alive as long as the
longest silence they leave is within the limit.  Time is counted in ticks of
any unit.
-/

namespace Watchdog

/-- An item with the time when it arrives and the time its handling takes. -/
structure Timed (α : Type*) where
  item : α
  arrived : ℕ
  busy : ℕ

/-- The same arrival of another item. -/
def Timed.map {α β : Type*} (f : α → β) (timed : Timed α) : Timed β :=
  ⟨f timed.item, timed.arrived, timed.busy⟩

/-- A run of a loop: its state, and whether an item stopped it. -/
structure LoopRun (σ : Type*) where
  state : σ
  stopped : Bool

/-- A run under a watchdog, with the time when the loop was left. -/
structure GuardedRun (σ : Type*) extends LoopRun σ where
  endedAt : ℕ

section Loops

variable {σ α : Type*} (limit : ℕ) (step : σ → α → σ × Bool)

/-- The loop on its own: it goes on while `step` says so. -/
def loop : σ → List α → LoopRun σ
  | state, [] => ⟨state, false⟩
  | state, item :: rest =>
      match step state item with
      | (next, true) => loop next rest
      | (next, false) => ⟨next, true⟩

/-- The loop which waits from `armed` on, for at most `limit` at a time.  An
item that arrives while another is handled is waited for no longer. -/
def guarded : ℕ → σ → List (Timed α) → GuardedRun σ
  | armed, state, [] => ⟨⟨state, false⟩, armed + limit⟩
  | armed, state, timed :: rest =>
      if armed + limit < timed.arrived then
        ⟨⟨state, false⟩, armed + limit⟩
      else
        match step state timed.item with
        | (next, true) =>
            guarded (max armed timed.arrived + timed.busy) next rest
        | (next, false) => ⟨⟨next, true⟩, max armed timed.arrived⟩

theorem guarded_of_late {armed : ℕ} {timed : Timed α}
    (hlate : armed + limit < timed.arrived) (state : σ)
    (rest : List (Timed α)) :
    guarded limit step armed state (timed :: rest) =
      ⟨⟨state, false⟩, armed + limit⟩ := by
  simp only [guarded, if_pos hlate]

variable {limit step}

theorem guarded_of_next {armed : ℕ} {timed : Timed α} {state next : σ}
    (hin : timed.arrived ≤ armed + limit)
    (hstep : step state timed.item = (next, true)) (rest : List (Timed α)) :
    guarded limit step armed state (timed :: rest) =
      guarded limit step (max armed timed.arrived + timed.busy) next rest := by
  simp only [guarded, if_neg (Nat.not_lt.mpr hin), hstep]

theorem guarded_singleton_state {armed : ℕ} {timed : Timed α}
    (hin : timed.arrived ≤ armed + limit) (state : σ) :
    (guarded limit step armed state [timed]).state =
      (step state timed.item).1 := by
  simp only [guarded, if_neg (Nat.not_lt.mpr hin)]
  cases hstep : step state timed.item with
  | mk next goesOn => cases goesOn <;> rfl

/-- Two loops whose turns agree on related items. -/
theorem guarded_map {β : Type*} {other : σ → β → σ × Bool} {f : α → β}
    (hstep : ∀ state item, other state (f item) = step state item)
    (armed : ℕ) (state : σ) (timed : List (Timed α)) :
    guarded limit other armed state (timed.map (Timed.map f)) =
      guarded limit step armed state timed := by
  induction timed generalizing armed state with
  | nil => rfl
  | cons first rest ih =>
      simp only [List.map_cons, guarded, Timed.map, hstep]
      split
      next => rfl
      next =>
        cases hfirst : step state first.item with
        | mk next goesOn =>
            cases goesOn with
            | true => exact ih _ _
            | false => rfl

end Loops

/-! ## Silences -/

/-- No window of length `limit` between `armed` and `horizon` is without an
arrival. -/
def FedUntil (limit armed horizon : ℕ) (times : List ℕ) : Prop :=
  ∀ time, armed ≤ time → time + limit ≤ horizon →
    ∃ arrival ∈ times, time < arrival ∧ arrival ≤ time + limit

section Fed

variable {σ α : Type*} {limit armed horizon : ℕ}
  {step : σ → α → σ × Bool}

theorem FedUntil.tail {time : ℕ} {times : List ℕ}
    (hfed : FedUntil limit armed horizon (time :: times)) {later : ℕ}
    (harmed : armed ≤ later) (htime : time ≤ later) :
    FedUntil limit later horizon times := by
  intro window hwindow hhorizon
  obtain ⟨arrival, hmem, hafter, hbefore⟩ :=
    hfed window (harmed.trans hwindow) hhorizon
  rcases List.mem_cons.mp hmem with rfl | hmem
  · omega
  · exact ⟨arrival, hmem, hafter, hbefore⟩

/-- The next arrival is in time. -/
theorem FedUntil.next_in_time {time : ℕ} {times : List ℕ}
    (hfed : FedUntil limit armed horizon (time :: times))
    (hsorted : (time :: times).Pairwise (· ≤ ·)) (htime : time ≤ horizon) :
    time ≤ armed + limit := by
  by_contra hlate
  obtain ⟨arrival, hmem, -, hbefore⟩ := hfed armed le_rfl (by omega)
  rcases List.mem_cons.mp hmem with rfl | hmem
  · omega
  · have hle := (List.pairwise_cons.mp hsorted).1 arrival hmem
    omega

/-- Where the arrivals leave no silence of `limit`, the watchdog changes
nothing, and the loop is left after `horizon` unless an item stops it. -/
theorem guarded_of_fed {timed : List (Timed α)}
    (hsorted : (timed.map Timed.arrived).Pairwise (· ≤ ·))
    (hhorizon : ∀ item ∈ timed, item.arrived ≤ horizon)
    (hfed : FedUntil limit armed horizon (timed.map Timed.arrived))
    (state : σ) :
    (guarded limit step armed state timed).toLoopRun =
        loop step state (timed.map Timed.item) ∧
      ((guarded limit step armed state timed).stopped = false →
        horizon < (guarded limit step armed state timed).endedAt) := by
  induction timed generalizing armed state with
  | nil =>
      refine ⟨rfl, fun _ => ?_⟩
      by_contra hended
      obtain ⟨arrival, hmem, -⟩ :=
        hfed armed le_rfl (by simpa [guarded] using hended)
      simp at hmem
  | cons first rest ih =>
      have hin : ¬ armed + limit < first.arrived := by
        have hnext := hfed.next_in_time hsorted
          (hhorizon first List.mem_cons_self)
        omega
      simp only [List.map_cons, guarded, if_neg hin, loop]
      cases hstep : step state first.item with
      | mk next goesOn =>
          cases goesOn with
          | true =>
              apply ih (List.pairwise_cons.mp hsorted).2
              · intro item hitem
                exact hhorizon item (List.mem_cons_of_mem _ hitem)
              · exact hfed.tail (by omega) (by omega)
          | false => exact ⟨rfl, by simp⟩

variable (limit step) in
/-- In any case the watchdog only cuts off the end of the input.  A run that
no item stopped was left `limit` after the last item it took at the earliest,
and before the next one came. -/
theorem guarded_cuts
    (timed : List (Timed α)) (armed : ℕ) (state : σ) :
    ∃ taken rest, timed = taken ++ rest ∧
      (guarded limit step armed state timed).toLoopRun =
        loop step state (taken.map Timed.item) ∧
      ((guarded limit step armed state timed).stopped = false →
        (∀ item ∈ taken, item.arrived + limit ≤
          (guarded limit step armed state timed).endedAt) ∧
        armed + limit ≤ (guarded limit step armed state timed).endedAt ∧
        ∀ next ∈ rest.head?,
          (guarded limit step armed state timed).endedAt < next.arrived) := by
  induction timed generalizing armed state with
  | nil => exact ⟨[], [], rfl, rfl, by simp [guarded]⟩
  | cons first rest ih =>
      simp only [guarded]
      split
      next hlate => exact ⟨[], first :: rest, rfl, rfl, by simpa using hlate⟩
      next =>
        cases hstep : step state first.item with
        | mk next goesOn =>
            cases goesOn with
            | true =>
                obtain ⟨taken, left, hsplit, hrun, hended⟩ :=
                  ih (max armed first.arrived + first.busy) next
                refine ⟨first :: taken, left, ?_, ?_, ?_⟩
                · rw [hsplit, List.cons_append]
                · simp only [List.map_cons, loop, hstep]
                  exact hrun
                · intro hopen
                  obtain ⟨htaken, harmed, hnext⟩ := hended hopen
                  simp only
                  refine ⟨?_, by omega, hnext⟩
                  intro item hitem
                  rcases List.mem_cons.mp hitem with rfl | hitem
                  · omega
                  · exact htaken item hitem
            | false =>
                refine ⟨[first], rest, rfl, ?_, by simp⟩
                simp [loop, hstep]

/-- Once nothing arrives any more the loop is left within `limit` and the
time it spends on what it still has. -/
theorem endedAt_le_of_silence {timed : List (Timed α)} {silent : ℕ}
    (hsilent : ∀ item ∈ timed, item.arrived ≤ silent)
    (harmed : armed ≤ silent) (state : σ) :
    (guarded limit step armed state timed).endedAt ≤
      silent + (timed.map Timed.busy).sum + limit := by
  have hgeneral (start extra : ℕ) (hstart : start ≤ silent + extra) :
      (guarded limit step start state timed).endedAt ≤
        silent + extra + (timed.map Timed.busy).sum + limit := by
    clear harmed
    induction timed generalizing start extra state with
    | nil =>
        simp only [guarded, List.map_nil, List.sum_nil]
        omega
    | cons first rest ih =>
        have hfirst := hsilent first List.mem_cons_self
        have hrest : ∀ item ∈ rest, item.arrived ≤ silent := fun item hitem =>
          hsilent item (List.mem_cons_of_mem _ hitem)
        simp only [guarded, List.map_cons, List.sum_cons]
        split
        next => 
          simp only
          omega
        next =>
          cases hstep : step state first.item with
          | mk next goesOn =>
              cases goesOn with
              | true =>
                  have hbound := ih hrest next
                    (max start first.arrived + first.busy)
                    (extra + first.busy) (by omega)
                  simp only
                  omega
              | false =>
                  simp only
                  omega
  simpa using hgeneral armed 0 (by simpa using harmed)

end Fed

/-! ## Periodic arrivals -/

/-- When a beat is sent, and when it arrives unless it is lost. -/
structure Beat where
  sent : ℕ
  arrived : Option ℕ

/-- Beats of one interval, each at most `lag` after it is due, and none
overdue at `horizon`.  A late beat does not move the later ones. -/
def Paced (period lag : ℕ) : ℕ → List Beat → ℕ → Prop
  | due, [], horizon => horizon < due + lag
  | due, beat :: rest, horizon =>
      (due ≤ beat.sent ∧ beat.sent ≤ due + lag) ∧
        Paced period lag (due + period) rest horizon

/-- Of any `losses + 1` beats in a row one arrives, within `delay`. -/
def BoundedLoss (losses delay : ℕ) (beats : List Beat) : Prop :=
  ∀ index, index + losses < beats.length →
    ∃ skipped ≤ losses, ∃ beat, beats[index + skipped]? = some beat ∧
      ∃ time, beat.arrived = some time ∧
        beat.sent ≤ time ∧ time ≤ beat.sent + delay

section Beats

variable {period lag due horizon : ℕ} {beats : List Beat}

theorem Paced.sent_bounds (hpaced : Paced period lag due beats horizon)
    {index : ℕ} {beat : Beat} (hbeat : beats[index]? = some beat) :
    due + period * index ≤ beat.sent ∧
      beat.sent ≤ due + period * index + lag := by
  induction beats generalizing due index with
  | nil => simp at hbeat
  | cons first rest ih =>
      cases index with
      | zero =>
          simp only [List.getElem?_cons_zero, Option.some.injEq] at hbeat
          subst hbeat
          simpa using hpaced.1
      | succ index =>
          rw [List.getElem?_cons_succ] at hbeat
          have hbounds := ih hpaced.2 hbeat
          rw [Nat.mul_succ]
          omega

theorem Paced.horizon_lt (hpaced : Paced period lag due beats horizon) :
    horizon < due + period * beats.length + lag := by
  induction beats generalizing due with
  | nil => simpa [Paced] using hpaced
  | cons first rest ih =>
      have hrest := ih hpaced.2
      rw [List.length_cons, Nat.mul_succ]
      omega

/-- Beats which are sent in time feed a watchdog whose limit covers the
longest silence they can leave. -/
theorem Paced.fedUntil {start losses delay limit : ℕ} {times : List ℕ}
    (hpaced : Paced period lag (start + period) beats horizon)
    (hperiod : 0 < period) (hloss : BoundedLoss losses delay beats)
    (hlimit : period * (losses + 1) + lag + delay ≤ limit)
    (harrive : ∀ beat ∈ beats, ∀ time, beat.arrived = some time →
      time ∈ times) :
    FedUntil limit start horizon times := by
  intro time hstart hhorizon
  -- the first beat that is due behind `time`
  let index := (time - start) / period
  have hindex : start + period * index ≤ time := by
    have hmul := Nat.mul_div_le (time - start) period
    change period * index ≤ time - start at hmul
    omega
  have hnext : time < start + period + period * index := by
    have hlt := Nat.lt_mul_div_succ (time - start) hperiod
    rw [Nat.mul_add, Nat.mul_one] at hlt
    change time - start < period * index + period at hlt
    omega
  rw [Nat.mul_add, Nat.mul_one] at hlimit
  have henough : index + losses < beats.length := by
    by_contra hfew
    have hlast := hpaced.horizon_lt
    have hmul : period * beats.length ≤ period * (index + losses) :=
      Nat.mul_le_mul_left period (by omega)
    rw [Nat.mul_add] at hmul
    omega
  obtain ⟨skipped, hskipped, beat, hbeat, arrival, harrival, hafter, hbefore⟩ :=
    hloss index henough
  have hbounds := hpaced.sent_bounds hbeat
  have hmul : period * skipped ≤ period * losses :=
    Nat.mul_le_mul_left period hskipped
  rw [Nat.mul_add] at hbounds
  refine ⟨arrival, ?_, by omega, by omega⟩
  exact harrive beat (List.mem_of_getElem? hbeat) arrival harrival

end Beats

end Watchdog
