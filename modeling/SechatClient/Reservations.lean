import Mathlib.Data.Finset.Basic

/-!
# Keys reserved by tasks

A set of reserved keys next to the tasks which hold them: a task holds at
most one key.  The set matches its holders if it lists exactly the held keys
and no two tasks hold one key.  Taking a free key and giving a held key back
keep the match.
-/

namespace Reservations

variable {τ κ : Type*}

structure Matches (holder : τ → Option κ) (reserved : Finset κ) : Prop where
  mem_iff : ∀ key, key ∈ reserved ↔ ∃ task, holder task = some key
  unique : ∀ task other key, holder task = some key →
    holder other = some key → task = other

namespace Matches

theorem empty : Matches (fun _ : τ => (none : Option κ)) ∅ where
  mem_iff := by simp
  unique := by simp

variable [DecidableEq τ] [DecidableEq κ] {holder : τ → Option κ}
  {reserved : Finset κ} {task : τ} {key : κ}

theorem acquire (hmatch : Matches holder reserved)
    (hfree : key ∉ reserved) (hidle : holder task = none) :
    Matches (Function.update holder task (some key))
      (insert key reserved) := by
  have hunheld : ∀ other, holder other ≠ some key := by
    intro other hother
    exact hfree ((hmatch.mem_iff key).mpr ⟨other, hother⟩)
  constructor
  · intro found
    rw [Finset.mem_insert, hmatch.mem_iff]
    constructor
    · rintro (rfl | ⟨other, hother⟩)
      · exact ⟨task, Function.update_self _ _ _⟩
      · have hne : other ≠ task := by
          rintro rfl
          rw [hidle] at hother
          contradiction
        exact ⟨other, by rw [Function.update_of_ne hne, hother]⟩
    · rintro ⟨other, hother⟩
      by_cases heq : other = task
      · subst heq
        rw [Function.update_self] at hother
        exact Or.inl (Option.some.inj hother).symm
      · rw [Function.update_of_ne heq] at hother
        exact Or.inr ⟨other, hother⟩
  · intro first second found hfirst hsecond
    by_cases hfirstTask : first = task
    · subst hfirstTask
      rw [Function.update_self] at hfirst
      cases hfirst
      by_contra hne
      rw [Function.update_of_ne (Ne.symm hne)] at hsecond
      exact hunheld second hsecond
    · rw [Function.update_of_ne hfirstTask] at hfirst
      by_cases hsecondTask : second = task
      · subst hsecondTask
        rw [Function.update_self] at hsecond
        cases hsecond
        exact absurd hfirst (hunheld first)
      · rw [Function.update_of_ne hsecondTask] at hsecond
        exact hmatch.unique first second found hfirst hsecond

theorem release (hmatch : Matches holder reserved)
    (hheld : holder task = some key) :
    Matches (Function.update holder task none) (reserved.erase key) := by
  have hothers : ∀ other found,
      Function.update holder task none other = some found →
        other ≠ task ∧ holder other = some found := by
    intro other found hother
    have hne : other ≠ task := by
      rintro rfl
      rw [Function.update_self] at hother
      contradiction
    rw [Function.update_of_ne hne] at hother
    exact ⟨hne, hother⟩
  constructor
  · intro found
    rw [Finset.mem_erase, hmatch.mem_iff]
    constructor
    · rintro ⟨hne, other, hother⟩
      have htask : other ≠ task := by
        rintro rfl
        rw [hheld] at hother
        exact hne (Option.some.inj hother).symm
      exact ⟨other, by rw [Function.update_of_ne htask, hother]⟩
    · rintro ⟨other, hother⟩
      obtain ⟨htask, hholds⟩ := hothers other found hother
      refine ⟨?_, other, hholds⟩
      rintro rfl
      exact htask (hmatch.unique other task found hholds hheld)
  · intro first second found hfirst hsecond
    exact hmatch.unique first second found (hothers first found hfirst).2
      (hothers second found hsecond).2

end Matches

end Reservations
