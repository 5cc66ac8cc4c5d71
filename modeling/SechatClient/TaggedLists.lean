import Mathlib.Data.List.Perm.Subperm

/-!
# Items that take several paths

Items travel over several paths, and each is tagged with the path it takes.
What arrives is a selection of what was sent if on every path some of the items
arrive, each once and in the order in which they were sent.  The paths may
overtake each other; even so nothing arrives more often than it was sent.
-/

namespace TaggedLists

variable {ι α : Type*}

/-- The items which all take one path. -/
def tagged (path : ι) (items : List α) : List (ι × α) :=
  items.map (Prod.mk path)

@[simp] theorem map_snd_tagged (path : ι) (items : List α) :
    (tagged path items).map Prod.snd = items := by
  induction items with
  | nil => rfl
  | cons item rest ih => exact congrArg (item :: ·) ih

variable [DecidableEq ι]

/-- The items of one path, in order. -/
def via (path : ι) (items : List (ι × α)) : List α :=
  (items.filter fun item => item.1 = path).map Prod.snd

@[simp] theorem via_append (path : ι) (first second : List (ι × α)) :
    via path (first ++ second) = via path first ++ via path second := by
  simp [via]

@[simp] theorem via_tagged_self (path : ι) (items : List α) :
    via path (tagged path items) = items := by
  have hall : (tagged path items).filter (fun item => item.1 = path) =
      tagged path items := by
    rw [List.filter_eq_self]
    simp [tagged]
  rw [via, hall, map_snd_tagged]

theorem via_tagged_of_ne {path other : ι} (hne : other ≠ path)
    (items : List α) : via path (tagged other items) = [] := by
  simp [via, tagged, hne]

theorem length_via_le (path : ι) (items : List (ι × α)) :
    (via path items).length ≤ items.length := by
  rw [via, List.length_map]
  exact List.length_filter_le _ _

theorem count_via [DecidableEq α] (path : ι) (item : α)
    (items : List (ι × α)) :
    (via path items).count item = items.count (path, item) := by
  induction items with
  | nil => rfl
  | cons head rest ih =>
      obtain ⟨other, value⟩ := head
      have hsplit : via path ((other, value) :: rest) =
          via path (tagged other [value]) ++ via path rest :=
        via_append path (tagged other [value]) rest
      rw [hsplit, List.count_append, ih, List.count_cons]
      by_cases hpath : other = path
      · subst hpath
        rw [via_tagged_self, List.count_singleton, Nat.add_comm]
        simp
      · simp [via_tagged_of_ne hpath, hpath]

/-- On every path, some of the items sent arrive, in the order sent. -/
def Selects (received sent : List (ι × α)) : Prop :=
  ∀ path, (via path received).Sublist (via path sent)

/-- Nothing arrives more often than it was sent. -/
theorem Selects.subperm [DecidableEq α] {received sent : List (ι × α)}
    (hselects : Selects received sent) :
    (received.map Prod.snd).Subperm (sent.map Prod.snd) := by
  have htagged : received.Subperm sent := by
    rw [List.subperm_ext_iff]
    intro item _
    rw [← count_via item.1 item.2, ← count_via item.1 item.2]
    exact (hselects item.1).count_le item.2
  obtain ⟨arranged, hperm, hsublist⟩ := htagged
  exact ⟨arranged.map Prod.snd, hperm.map Prod.snd,
    hsublist.map Prod.snd⟩

end TaggedLists
