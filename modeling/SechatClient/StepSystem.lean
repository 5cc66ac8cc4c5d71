import Mathlib.Data.List.Basic

/-!
# Runs of a partial step function

A system is given by a partial step function on states and labels: `none`
means that the label is not enabled.  A run is the list of labels of its
steps.  The file packages the induction over a run once, so that an
invariant is proved from its step lemma alone, and it says what it means for
every step of a run to meet a condition on the state before it.
-/

namespace StepSystem

variable {σ α : Type*}

/-- The state after a run, or `none` if some label was not enabled. -/
def runFrom (step : σ → α → Option σ) : σ → List α → Option σ
  | state, [] => some state
  | state, label :: rest =>
      match step state label with
      | none => none
      | some next => runFrom step next rest

/-- Every step taken along the labels meets `ok` in the state before it. -/
def AllSteps (step : σ → α → Option σ) (ok : σ → α → Prop) :
    σ → List α → Prop
  | _, [] => True
  | state, label :: rest =>
      ok state label ∧
        ∀ next, step state label = some next → AllSteps step ok next rest

@[simp] theorem runFrom_nil (step : σ → α → Option σ) (state : σ) :
    runFrom step state [] = some state := rfl

theorem runFrom_cons_eq_some
    {step : σ → α → Option σ} {state final : σ} {label : α} {rest : List α} :
    runFrom step state (label :: rest) = some final ↔
      ∃ next, step state label = some next ∧
        runFrom step next rest = some final := by
  cases hstep : step state label with
  | none => simp [runFrom, hstep]
  | some next => simp [runFrom, hstep]

theorem runFrom_append_eq_some
    {step : σ → α → Option σ} {state final : σ} {first second : List α} :
    runFrom step state (first ++ second) = some final ↔
      ∃ middle, runFrom step state first = some middle ∧
        runFrom step middle second = some final := by
  induction first generalizing state with
  | nil => simp
  | cons label rest ih =>
      simp only [List.cons_append, runFrom_cons_eq_some, ih]
      constructor
      · rintro ⟨next, hstep, middle, hfirst, hsecond⟩
        exact ⟨middle, ⟨next, hstep, hfirst⟩, hsecond⟩
      · rintro ⟨middle, ⟨next, hstep, hfirst⟩, hsecond⟩
        exact ⟨next, hstep, middle, hfirst, hsecond⟩

/-! ## Invariants of whole runs -/

/-- An invariant kept by every step that meets `ok` holds at the end of every
run all of whose steps meet `ok`. -/
theorem runFrom_invariant_of_allSteps
    {step : σ → α → Option σ} {ok : σ → α → Prop} (Inv : σ → Prop)
    (hkeep : ∀ state label next, Inv state → ok state label →
      step state label = some next → Inv next)
    {state final : σ} {labels : List α}
    (hinv : Inv state) (hok : AllSteps step ok state labels)
    (hrun : runFrom step state labels = some final) :
    Inv final := by
  induction labels generalizing state with
  | nil =>
      cases hrun
      exact hinv
  | cons label rest ih =>
      obtain ⟨next, hstep, hrest⟩ := runFrom_cons_eq_some.mp hrun
      exact ih (hkeep state label next hinv hok.1 hstep)
        (hok.2 next hstep) hrest

theorem allSteps_of_forall_mem
    {step : σ → α → Option σ} {ok : σ → α → Prop} {labels : List α}
    (hok : ∀ label ∈ labels, ∀ state, ok state label) (state : σ) :
    AllSteps step ok state labels := by
  induction labels generalizing state with
  | nil => trivial
  | cons label rest ih =>
      refine ⟨hok label List.mem_cons_self state, ?_⟩
      intro next _
      exact ih (fun other hother => hok other (List.mem_cons_of_mem _ hother))
        next

theorem runFrom_invariant
    {step : σ → α → Option σ} (Inv : σ → Prop)
    (hkeep : ∀ state label next, Inv state →
      step state label = some next → Inv next)
    {state final : σ} {labels : List α}
    (hinv : Inv state) (hrun : runFrom step state labels = some final) :
    Inv final := by
  have hall : AllSteps step (fun _ _ => True) state labels :=
    allSteps_of_forall_mem (fun _ _ _ => trivial) state
  exact runFrom_invariant_of_allSteps Inv
    (fun state label next hstate _ hstep =>
      hkeep state label next hstate hstep) hinv hall hrun

theorem allSteps_mono
    {step : σ → α → Option σ} {ok ok' : σ → α → Prop}
    (himp : ∀ state label, ok state label → ok' state label)
    {state : σ} {labels : List α} (hok : AllSteps step ok state labels) :
    AllSteps step ok' state labels := by
  induction labels generalizing state with
  | nil => trivial
  | cons label rest ih =>
      exact ⟨himp state label hok.1, fun next hstep => ih (hok.2 next hstep)⟩

/-- A condition on each label and on the state which the labels before it
lead to. -/
theorem allSteps_of_take
    {step : σ → α → Option σ} {ok : σ → α → Prop} {state : σ}
    {labels : List α}
    (hok : ∀ index label before, labels[index]? = some label →
      runFrom step state (labels.take index) = some before → ok before label) :
    AllSteps step ok state labels := by
  induction labels generalizing state with
  | nil => trivial
  | cons label rest ih =>
      refine ⟨hok 0 label state rfl rfl, ?_⟩
      intro next hstep
      refine ih ?_
      intro index other before hother hbefore
      refine hok (index + 1) other before hother ?_
      rw [List.take_succ_cons, runFrom_cons_eq_some]
      exact ⟨next, hstep, hbefore⟩

theorem allSteps_cons
    {step : σ → α → Option σ} {ok : σ → α → Prop} {state next : σ}
    {label : α} {rest : List α} (hok : ok state label)
    (hstep : step state label = some next)
    (hrest : AllSteps step ok next rest) :
    AllSteps step ok state (label :: rest) := by
  refine ⟨hok, ?_⟩
  intro other hother
  rw [hstep] at hother
  cases hother
  exact hrest

theorem allSteps_append
    {step : σ → α → Option σ} {ok : σ → α → Prop}
    {state middle : σ} {first second : List α}
    (hok : AllSteps step ok state (first ++ second))
    (hrun : runFrom step state first = some middle) :
    AllSteps step ok middle second := by
  induction first generalizing state with
  | nil =>
      cases hrun
      exact hok
  | cons label rest ih =>
      obtain ⟨next, hstep, hrest⟩ := runFrom_cons_eq_some.mp hrun
      exact ih (hok.2 next hstep) hrest

theorem allSteps_append_intro
    {step : σ → α → Option σ} {ok : σ → α → Prop}
    {state middle : σ} {first second : List α}
    (hfirst : AllSteps step ok state first)
    (hrun : runFrom step state first = some middle)
    (hsecond : AllSteps step ok middle second) :
    AllSteps step ok state (first ++ second) := by
  induction first generalizing state with
  | nil =>
      cases hrun
      exact hsecond
  | cons label rest ih =>
      obtain ⟨next, hstep, hrest⟩ := runFrom_cons_eq_some.mp hrun
      exact allSteps_cons hfirst.1 hstep (ih (hfirst.2 next hstep) hrest)

/-- A run can be checked step by step. -/
instance decidableAllSteps
    (step : σ → α → Option σ) (ok : σ → α → Prop)
    [∀ state label, Decidable (ok state label)] :
    (state : σ) → (labels : List α) → Decidable (AllSteps step ok state labels)
  | _, [] => .isTrue trivial
  | state, label :: rest =>
      match hstep : step state label with
      | none =>
          decidable_of_iff (ok state label) (by simp [AllSteps, hstep])
      | some next =>
          have := decidableAllSteps step ok next rest
          decidable_of_iff (ok state label ∧ AllSteps step ok next rest)
            (by simp [AllSteps, hstep])

/-- A step condition carries over to another one which it implies wherever
an invariant holds that the first condition preserves. -/
theorem allSteps_imp_of_invariant
    {step : σ → α → Option σ} (Inv : σ → Prop) {ok ok' : σ → α → Prop}
    (hkeep : ∀ state label next, Inv state → ok state label →
      step state label = some next → Inv next)
    (himp : ∀ state label, Inv state → ok state label → ok' state label)
    {state : σ} (hinv : Inv state) {labels : List α}
    (hok : AllSteps step ok state labels) :
    AllSteps step ok' state labels := by
  induction labels generalizing state with
  | nil => trivial
  | cons label rest ih =>
      refine ⟨himp state label hinv hok.1, ?_⟩
      intro next hstep
      exact ih (hkeep state label next hinv hok.1 hstep) (hok.2 next hstep)

/-- Two step conditions which agree wherever an invariant holds, which the
first condition preserves, are met by the same runs. -/
theorem allSteps_congr_of_invariant
    {step : σ → α → Option σ} (Inv : σ → Prop) {ok ok' : σ → α → Prop}
    (hkeep : ∀ state label next, Inv state → ok state label →
      step state label = some next → Inv next)
    (hiff : ∀ state label, Inv state → (ok state label ↔ ok' state label))
    {state : σ} (hinv : Inv state) (labels : List α) :
    AllSteps step ok state labels ↔ AllSteps step ok' state labels := by
  constructor
  · intro hok
    exact allSteps_imp_of_invariant Inv hkeep
      (fun state label hstate => (hiff state label hstate).mp) hinv hok
  · intro hok'
    refine allSteps_imp_of_invariant Inv ?_
      (fun state label hstate => (hiff state label hstate).mpr) hinv hok'
    intro state label next hstate hstep
    exact hkeep state label next hstate ((hiff state label hstate).mpr hstep)

/-- Where a step keeps an invariant exactly if it meets `ok`, the invariant
holds in every state of a run exactly if all its steps meet `ok`. -/
theorem invariant_along_iff_allSteps
    {step : σ → α → Option σ} {ok : σ → α → Prop} (Inv : σ → Prop)
    (henabled : ∀ state label, ∃ next, step state label = some next)
    (hiff : ∀ state label next, Inv state → step state label = some next →
      (Inv next ↔ ok state label))
    {state : σ} (hinv : Inv state) (labels : List α) :
    (∀ first final, first <+: labels →
        runFrom step state first = some final → Inv final) ↔
      AllSteps step ok state labels := by
  induction labels generalizing state with
  | nil =>
      constructor
      · intro _
        trivial
      · intro _ first final hprefix hrun
        rw [List.prefix_nil.mp hprefix] at hrun
        cases hrun
        exact hinv
  | cons label rest ih =>
      obtain ⟨next, hstep⟩ := henabled state label
      constructor
      · intro hall
        have hnext : Inv next := by
          apply hall [label] next
          · simp
          · exact runFrom_cons_eq_some.mpr ⟨next, hstep, rfl⟩
        apply allSteps_cons ((hiff state label next hinv hstep).mp hnext) hstep
        apply (ih hnext).mp
        intro first final hprefix hrun
        apply hall (label :: first) final
        · exact List.cons_prefix_cons.mpr ⟨rfl, hprefix⟩
        · exact runFrom_cons_eq_some.mpr ⟨next, hstep, hrun⟩
      · intro hok first final hprefix hrun
        have hnext := (hiff state label next hinv hstep).mpr hok.1
        cases first with
        | nil =>
            cases hrun
            exact hinv
        | cons head tail =>
            obtain ⟨rfl, htail⟩ := List.cons_prefix_cons.mp hprefix
            obtain ⟨middle, hmiddle, hrest⟩ := runFrom_cons_eq_some.mp hrun
            rw [hstep] at hmiddle
            cases hmiddle
            exact (ih hnext).mpr (hok.2 next hstep) tail final htail hrest

/-! ## Runs that end -/

/-- Where every step that meets `ok` lowers a rank, a run of such steps is no
longer than the rank at its start. -/
theorem length_le_rank_of_run
    {step : σ → α → Option σ} {ok : α → Prop} (Inv : σ → Prop) (rank : σ → ℕ)
    (hlower : ∀ state label next, Inv state → ok label →
      step state label = some next → Inv next ∧ rank next < rank state)
    {state final : σ} {labels : List α} (hinv : Inv state)
    (hok : ∀ label ∈ labels, ok label)
    (hrun : runFrom step state labels = some final) :
    Inv final ∧ labels.length + rank final ≤ rank state := by
  induction labels generalizing state with
  | nil =>
      cases hrun
      exact ⟨hinv, by simp⟩
  | cons label rest ih =>
      obtain ⟨next, hstep, hrest⟩ := runFrom_cons_eq_some.mp hrun
      obtain ⟨hnext, hlt⟩ :=
        hlower state label next hinv (hok label List.mem_cons_self) hstep
      obtain ⟨hfinal, hlength⟩ := ih hnext
        (fun other hother => hok other (List.mem_cons_of_mem _ hother)) hrest
      refine ⟨hfinal, ?_⟩
      rw [List.length_cons]
      omega

/-! ## Runs of two levels -/

/-- Where every step of a run is matched by the step which a specification
takes at the same label, the run is matched by the specification's own.  The
number of steps so far is part of the relation. -/
theorem runFrom_simulates
    {τ : Type*} {step : σ → α → Option σ} {specStep : τ → α → τ}
    {related : ℕ → σ → τ → Prop} {bound : ℕ} {labels : List α}
    (hsim : ∀ label ∈ labels, ∀ {count state spec next}, count < bound →
      related count state spec → step state label = some next →
      related (count + 1) next (specStep spec label))
    {start : ℕ} (hbound : start + labels.length ≤ bound)
    {state final : σ} {spec : τ} (hstart : related start state spec)
    (hrun : runFrom step state labels = some final) :
    related (start + labels.length) final (labels.foldl specStep spec) := by
  induction labels generalizing start state spec with
  | nil =>
      cases hrun
      exact hstart
  | cons label rest ih =>
      obtain ⟨next, hstep, hrest⟩ := runFrom_cons_eq_some.mp hrun
      rw [List.length_cons] at hbound ⊢
      have hnext := hsim label List.mem_cons_self (by omega) hstart hstep
      have hfinal := ih
        (fun other hother => hsim other (List.mem_cons_of_mem _ hother))
        (by omega) hnext hrest
      rw [show start + (rest.length + 1) = start + 1 + rest.length by omega]
      exact hfinal

/-- Where every step is matched by steps of a specification which show the same,
a run is matched by a run which does. -/
theorem runFrom_refines
    {τ β γ : Type*} {step : σ → α → Option σ} {specStep : τ → β → Option τ}
    {related : σ → τ → Prop} {seen : α → List γ} {specSeen : β → List γ}
    (hsim : ∀ {state label next spec}, related state spec →
      step state label = some next → ∃ specLabels specNext,
        runFrom specStep spec specLabels = some specNext ∧
        specLabels.flatMap specSeen = seen label ∧ related next specNext)
    {state final : σ} {spec : τ} {labels : List α}
    (hstart : related state spec) (hrun : runFrom step state labels = some final) :
    ∃ specLabels specFinal,
      runFrom specStep spec specLabels = some specFinal ∧
      specLabels.flatMap specSeen = labels.flatMap seen ∧
      related final specFinal := by
  induction labels generalizing state spec with
  | nil =>
      cases hrun
      exact ⟨[], spec, rfl, rfl, hstart⟩
  | cons label rest ih =>
      obtain ⟨next, hstep, hrest⟩ := runFrom_cons_eq_some.mp hrun
      obtain ⟨first, middle, hfirst, hseen, hnext⟩ := hsim hstart hstep
      obtain ⟨second, specFinal, hsecond, hlast, hfinal⟩ := ih hnext hrest
      refine ⟨first ++ second, specFinal,
        runFrom_append_eq_some.mpr ⟨middle, hfirst, hsecond⟩, ?_, hfinal⟩
      rw [List.flatMap_append, List.flatMap_cons, hseen, hlast]

/-! ## States made of components -/

/-- Once one component is set, a component found is that one or was found
before. -/
theorem update_eq_some
    {ι β : Type*} [DecidableEq ι] {components : ι → Option β} {index other : ι}
    {value found : β}
    (hfound : Function.update components index (some value) other =
      some found) :
    other = index ∧ found = value ∨
      other ≠ index ∧ components other = some found := by
  by_cases hother : other = index
  · subst hother
    rw [Function.update_self] at hfound
    exact Or.inl ⟨rfl, (Option.some.inj hfound).symm⟩
  · rw [Function.update_of_ne hother] at hfound
    exact Or.inr ⟨hother, hfound⟩

end StepSystem
