import Mathlib.Data.List.Lex
import Mathlib.Order.Basic
import Mathlib.Tactic

/-!
# Ordered key-value stores

A finite map kept as its list of entries in increasing key order, the
contract of an embedded ordered store.  The order is carried by the type.
-/

namespace OrderedStore

variable {κ ν : Type*} [LinearOrder κ]

structure Tree (κ ν : Type*) [LinearOrder κ] where
  entries : List (κ × ν)
  sorted : entries.Pairwise fun x y => x.1 < y.1

namespace Tree

@[ext] theorem ext {left right : Tree κ ν}
    (h : left.entries = right.entries) : left = right := by
  cases left
  cases right
  simpa using h

def empty : Tree κ ν := ⟨[], List.Pairwise.nil⟩

/-- Insert a value, replacing the value of an existing equal key. -/
def insert (tree : Tree κ ν) (key : κ) (value : ν) : Tree κ ν where
  entries :=
    tree.entries.filter (fun entry => entry.1 < key) ++
      (key, value) :: tree.entries.filter (fun entry => key < entry.1)
  sorted := by
    rw [List.pairwise_append]
    refine ⟨tree.sorted.filter _, ?_, ?_⟩
    · rw [List.pairwise_cons]
      refine ⟨?_, tree.sorted.filter _⟩
      intro entry hentry
      simpa using (List.mem_filter.mp hentry).2
    · intro low hlow high hhigh
      have hlt : low.1 < key := by simpa using (List.mem_filter.mp hlow).2
      rcases List.mem_cons.mp hhigh with rfl | hgreater
      · exact hlt
      · have hgt : key < high.1 := by
          simpa using (List.mem_filter.mp hgreater).2
        exact hlt.trans hgt

def remove (tree : Tree κ ν) (key : κ) : Tree κ ν where
  entries := tree.entries.filter fun entry => entry.1 ≠ key
  sorted := tree.sorted.filter _

def last (tree : Tree κ ν) : Option (κ × ν) := tree.entries.getLast?

def values (tree : Tree κ ν) : List ν := tree.entries.map Prod.snd

@[simp] theorem entries_empty : (empty : Tree κ ν).entries = [] := rfl

theorem mem_insert
    {tree : Tree κ ν} {key : κ} {value : ν} {entry : κ × ν}
    (hentry : entry ∈ (tree.insert key value).entries) :
    entry = (key, value) ∨ entry ∈ tree.entries := by
  rcases List.mem_append.mp hentry with hlow | hhigh
  · exact Or.inr (List.mem_filter.mp hlow).1
  · rcases List.mem_cons.mp hhigh with heq | hgreater
    · exact Or.inl heq
    · exact Or.inr (List.mem_filter.mp hgreater).1

theorem eq_of_key_eq
    {tree : Tree κ ν} {left right : κ × ν} (hleft : left ∈ tree.entries)
    (hright : right ∈ tree.entries) (hkey : left.1 = right.1) :
    left = right := by
  have hnodup : (tree.entries.map Prod.fst).Nodup := by
    refine (List.pairwise_map.mpr tree.sorted).imp ?_
    intro x y hlt
    exact hlt.ne
  exact List.inj_on_of_nodup_map hnodup hleft hright hkey

theorem last_eq_none_iff (tree : Tree κ ν) :
    tree.last = none ↔ tree.entries = [] := by
  unfold last
  exact List.getLast?_eq_none_iff

theorem key_le_last
    {tree : Tree κ ν} {final entry : κ × ν}
    (hlast : tree.last = some final) (hentry : entry ∈ tree.entries) :
    entry.1 ≤ final.1 := by
  obtain ⟨front, hfront⟩ := List.getLast?_eq_some_iff.mp hlast
  have hsorted := tree.sorted
  rw [hfront] at hsorted hentry
  rcases List.mem_append.mp hentry with hmem | hmem
  · exact ((List.pairwise_append.mp hsorted).2.2 entry hmem final
      (List.mem_singleton.mpr rfl)).le
  · rw [List.mem_singleton.mp hmem]

theorem insert_entries_of_forall_lt
    {tree : Tree κ ν} {key : κ} (value : ν)
    (hlt : ∀ entry ∈ tree.entries, entry.1 < key) :
    (tree.insert key value).entries = tree.entries ++ [(key, value)] := by
  have hlow : tree.entries.filter (fun entry => entry.1 < key) =
      tree.entries := by
    apply List.filter_eq_self.mpr
    intro entry hentry
    simpa using hlt entry hentry
  have hhigh : tree.entries.filter (fun entry => key < entry.1) = [] := by
    apply List.filter_eq_nil_iff.mpr
    intro entry hentry
    simpa using (hlt entry hentry).le
  simp only [insert, hlow, hhigh]

theorem mem_insert_self (tree : Tree κ ν) (key : κ) (value : ν) :
    (key, value) ∈ (tree.insert key value).entries :=
  List.mem_append_right _ List.mem_cons_self

/-- An insert leaves the store as it is exactly when the entry is there. -/
theorem insert_eq_self_iff (tree : Tree κ ν) (key : κ) (value : ν) :
    tree.insert key value = tree ↔ (key, value) ∈ tree.entries := by
  constructor
  · intro heq
    rw [← heq]
    exact mem_insert_self tree key value
  · intro hmem
    obtain ⟨low, high, hsplit⟩ := List.append_of_mem hmem
    have hsorted := tree.sorted
    rw [hsplit, List.pairwise_append, List.pairwise_cons] at hsorted
    obtain ⟨_, ⟨hhigh, _⟩, hlow⟩ := hsorted
    have hbelow : ∀ entry ∈ low, entry.1 < key := by
      intro entry hentry
      exact hlow entry hentry (key, value) List.mem_cons_self
    have hleft : tree.entries.filter (fun entry => entry.1 < key) = low := by
      rw [hsplit, List.filter_append, List.filter_cons]
      have hnone : high.filter (fun entry => entry.1 < key) = [] := by
        simpa using fun k v hentry => (hhigh (k, v) hentry).le
      have hall : low.filter (fun entry => entry.1 < key) = low := by
        simpa using fun k v hentry => hbelow (k, v) hentry
      simp [hnone, hall]
    have hright : tree.entries.filter (fun entry => key < entry.1) = high := by
      rw [hsplit, List.filter_append, List.filter_cons]
      have hnone : low.filter (fun entry => key < entry.1) = [] := by
        simpa using fun k v hentry => (hbelow (k, v) hentry).le
      have hall : high.filter (fun entry => key < entry.1) = high := by
        simpa using fun k v hentry => hhigh (k, v) hentry
      simp [hnone, hall]
    apply Tree.ext
    rw [hsplit]
    simp only [insert, hleft, hright]

end Tree

end OrderedStore
