import Mathlib.Data.List.Nodup
import Mathlib.Data.List.Perm.Basic
import Mathlib.Tactic

/-!
# Tiers of first matches

A search through a list by a sequence of predicates: the first predicate
that some item satisfies decides, and the first item satisfying it is the
answer.  The answer is independent of the order of the list exactly when the
deciding predicate singles out one item.
-/

namespace FirstMatch

variable {α κ : Type}

def firstMatch : List (α → Bool) → List α → Option α
  | [], _ => none
  | tier :: tiers, items => (items.find? tier).or (firstMatch tiers items)

/-- The first tier with a match has only one. -/
def Unambiguous : List (α → Bool) → List α → Prop
  | [], _ => True
  | tier :: tiers, items =>
      items.countP tier ≤ 1 ∧
        (items.countP tier = 0 → Unambiguous tiers items)

instance decidableUnambiguous : (tiers : List (α → Bool)) →
    (items : List α) → Decidable (Unambiguous tiers items)
  | [], _ => isTrue trivial
  | tier :: tiers, items =>
      have := decidableUnambiguous tiers items
      inferInstanceAs (Decidable (items.countP tier ≤ 1 ∧
        (items.countP tier = 0 → Unambiguous tiers items)))

variable {tier : α → Bool} {tiers : List (α → Bool)} {items other : List α}

theorem find?_eq_none_of_countP (hcount : items.countP tier = 0) :
    items.find? tier = none :=
  List.find?_eq_none.mpr (List.countP_eq_zero.mp hcount)

theorem firstMatch_of_countP_zero (hcount : items.countP tier = 0) :
    firstMatch (tier :: tiers) items = firstMatch tiers items := by
  rw [firstMatch, find?_eq_none_of_countP hcount, Option.none_or]

theorem exists_find?_of_countP (hcount : 0 < items.countP tier) :
    ∃ item, items.find? tier = some item := by
  obtain ⟨item, hitem, hmatch⟩ := List.countP_pos_iff.mp hcount
  exact Option.isSome_iff_exists.mp
    (List.find?_isSome.mpr ⟨item, hitem, hmatch⟩)

theorem firstMatch_of_countP_pos (hcount : 0 < items.countP tier) :
    firstMatch (tier :: tiers) items = items.find? tier := by
  obtain ⟨item, hitem⟩ := exists_find?_of_countP hcount
  rw [firstMatch, hitem, Option.some_or]

theorem find?_eq_of_perm
    (hcount : items.countP tier = 1) (hperm : other.Perm items) :
    other.find? tier = items.find? tier := by
  rw [List.countP_eq_length_filter] at hcount
  obtain ⟨item, hitem⟩ := List.length_eq_one_iff.mp hcount
  have hfiltered := hperm.filter tier
  rw [hitem, List.perm_singleton] at hfiltered
  rw [← List.head?_filter, ← List.head?_filter, hitem, hfiltered]

theorem firstMatch_eq_of_perm
    (hclear : Unambiguous tiers items) (hperm : other.Perm items) :
    firstMatch tiers other = firstMatch tiers items := by
  induction tiers with
  | nil => rfl
  | cons tier tiers ih =>
      obtain ⟨hone, hrest⟩ := hclear
      have hcount : other.countP tier = items.countP tier :=
        hperm.countP_eq tier
      by_cases hzero : items.countP tier = 0
      · rw [firstMatch_of_countP_zero hzero,
          firstMatch_of_countP_zero (hcount.trans hzero), ih (hrest hzero)]
      · have hpos : 0 < items.countP tier := Nat.pos_of_ne_zero hzero
        rw [firstMatch_of_countP_pos hpos,
          firstMatch_of_countP_pos (hcount ▸ hpos)]
        apply find?_eq_of_perm _ hperm
        omega

section Keys

variable {key : α → κ}

/-- Two matches of one tier answer for the list and for its reverse. -/
theorem countP_le_one_of_reverse
    (hkeys : (items.map key).Nodup)
    (hsame : (items.reverse.find? tier).map key =
      (items.find? tier).map key) :
    items.countP tier ≤ 1 := by
  have hnodup : ((items.filter tier).map key).Nodup :=
    hkeys.sublist (List.filter_sublist.map key)
  rw [← List.getLast?_filter, ← List.head?_filter] at hsame
  rw [List.countP_eq_length_filter]
  cases hmatches : items.filter tier with
  | nil => simp
  | cons first rest =>
      rw [hmatches] at hsame hnodup
      cases hrest : rest.getLast? with
      | none =>
          rw [List.getLast?_eq_none_iff.mp hrest]
          simp
      | some last =>
          -- the last match is among the later ones, with the same key
          exfalso
          have hlast : last ∈ rest := List.mem_of_getLast? hrest
          rw [List.getLast?_cons, hrest] at hsame
          have hkey : key last = key first := by simpa using hsame
          rw [List.map_cons, List.nodup_cons] at hnodup
          exact hnodup.1 (hkey ▸ List.mem_map_of_mem hlast)

theorem unambiguous_of_perm
    (hkeys : (items.map key).Nodup)
    (hsame : ∀ other : List α, other.Perm items →
      (firstMatch tiers other).map key = (firstMatch tiers items).map key) :
    Unambiguous tiers items := by
  induction tiers with
  | nil => trivial
  | cons tier tiers ih =>
      have hcount : ∀ other : List α, other.Perm items →
          other.countP tier = items.countP tier :=
        fun other hperm => hperm.countP_eq tier
      constructor
      · by_cases hzero : items.countP tier = 0
        · omega
        · have hpos : 0 < items.countP tier := Nat.pos_of_ne_zero hzero
          have hreversed := hsame items.reverse items.reverse_perm
          rw [firstMatch_of_countP_pos hpos, firstMatch_of_countP_pos
            (hcount _ items.reverse_perm ▸ hpos)] at hreversed
          exact countP_le_one_of_reverse hkeys hreversed
      · intro hzero
        apply ih
        intro other hperm
        have hother := hsame other hperm
        rwa [firstMatch_of_countP_zero hzero, firstMatch_of_countP_zero
          ((hcount other hperm).trans hzero)] at hother

theorem unambiguous_iff (hkeys : (items.map key).Nodup) :
    (∀ other : List α, other.Perm items →
      (firstMatch tiers other).map key = (firstMatch tiers items).map key) ↔
    Unambiguous tiers items := by
  constructor
  · exact unambiguous_of_perm hkeys
  · intro hclear other hperm
    rw [firstMatch_eq_of_perm hclear hperm]

end Keys

end FirstMatch
