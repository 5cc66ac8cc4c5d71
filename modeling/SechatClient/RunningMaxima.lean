import Mathlib.Data.List.Sort
import Mathlib.Tactic

/-!
# Running maxima

Some items of a stream carry a key from a linear order.  An item leads when
its key exceeds the key of every earlier item that carries one.  The file
relates this reading, which looks back at the whole stream, to a filter that
only remembers one bound, and shows that the leaders are a sublist of every
sorted list that contains them.
-/

namespace RunningMaxima

variable {α κ : Type*} [LinearOrder κ] (key : α → Option κ)

/-- The item carries a key above that of every item before it. -/
def leads (before : List α) (item : α) : Bool :=
  match key item with
  | none => false
  | some top =>
      before.all fun earlier =>
        match key earlier with
        | none => true
        | some low => decide (low < top)

def leadersAfter : List α → List α → List α
  | _, [] => []
  | before, item :: rest =>
      if leads key before item then
        item :: leadersAfter (before ++ [item]) rest
      else
        leadersAfter (before ++ [item]) rest

def leaders (items : List α) : List α := leadersAfter key [] items

variable {key}

theorem leads_eq_true_iff {before : List α} {item : α} :
    leads key before item = true ↔
      ∃ top, key item = some top ∧
        ∀ earlier ∈ before, ∀ low, key earlier = some low → low < top := by
  unfold leads
  cases hkey : key item with
  | none => simp
  | some top =>
      simp only [List.all_eq_true, Option.some.injEq, exists_eq_left']
      constructor
      · intro hall earlier hmem low hlow
        have h := hall earlier hmem
        simpa [hlow] using h
      · intro hall earlier hmem
        cases hlow : key earlier with
        | none => rfl
        | some low => simpa using hall earlier hmem low hlow

theorem leadersAfter_append
    (before items : List α) (item : α) :
    leadersAfter key before (items ++ [item]) =
      leadersAfter key before items ++
        (if leads key (before ++ items) item then [item] else []) := by
  induction items generalizing before with
  | nil => by_cases h : leads key before item <;> simp [leadersAfter, h]
  | cons head rest ih =>
      have hrest := ih (before ++ [head])
      rw [List.append_assoc, List.singleton_append] at hrest
      by_cases h : leads key before head
      · simp [leadersAfter, h, hrest]
      · simp [leadersAfter, h, hrest]

theorem leaders_append (items : List α) (item : α) :
    leaders key (items ++ [item]) =
      leaders key items ++ (if leads key items item then [item] else []) := by
  unfold leaders
  rw [leadersAfter_append, List.nil_append]

theorem mem_leadersAfter
    {before items : List α} {item : α}
    (hmem : item ∈ leadersAfter key before items) :
    item ∈ items ∧ ∃ top, key item = some top ∧
      ∀ earlier ∈ before, ∀ low, key earlier = some low → low < top := by
  induction items generalizing before with
  | nil => simp [leadersAfter] at hmem
  | cons head rest ih =>
      have hrest : item ∈ leadersAfter key (before ++ [head]) rest →
          item ∈ head :: rest ∧ ∃ top, key item = some top ∧
            ∀ earlier ∈ before, ∀ low, key earlier = some low → low < top := by
        intro h
        obtain ⟨hin, top, htop, hall⟩ := ih h
        exact ⟨List.mem_cons_of_mem _ hin, top, htop,
          fun earlier hearlier => hall earlier (List.mem_append_left _ hearlier)⟩
      unfold leadersAfter at hmem
      split at hmem
      next hleads =>
        rcases List.mem_cons.mp hmem with rfl | h
        · exact ⟨List.mem_cons_self, leads_eq_true_iff.mp hleads⟩
        · exact hrest h
      next => exact hrest hmem

theorem leadersAfter_pairwise (before items : List α) :
    (leadersAfter key before items).Pairwise fun x y =>
      ∃ low top, key x = some low ∧ key y = some top ∧ low < top := by
  induction items generalizing before with
  | nil => exact List.Pairwise.nil
  | cons head rest ih =>
      unfold leadersAfter
      split
      next hleads =>
        refine List.pairwise_cons.mpr ⟨?_, ih _⟩
        intro item hitem
        obtain ⟨low, hlow, _⟩ := leads_eq_true_iff.mp hleads
        obtain ⟨_, top, htop, hall⟩ := mem_leadersAfter hitem
        exact ⟨low, top, hlow, htop,
          hall head (List.mem_append_right _ List.mem_cons_self) low hlow⟩
      next => exact ih _

/-! ## One remembered bound -/

/-- `bound` is the greatest key seen so far, or the `floor` below every key. -/
structure Tracks (key : α → Option κ) (floor : κ) (before : List α)
    (bound : κ) : Prop where
  floor_le : floor ≤ bound
  le : ∀ earlier ∈ before, ∀ low, key earlier = some low → low ≤ bound
  attained : bound = floor ∨ ∃ earlier ∈ before, key earlier = some bound

theorem Tracks.nil (floor : κ) : Tracks key floor [] floor :=
  ⟨le_rfl, by simp, Or.inl rfl⟩

/-- Comparing with the bound decides whether an item above the floor leads. -/
theorem Tracks.leads_iff
    {floor bound : κ} {before : List α} (htracks : Tracks key floor before bound)
    {item : α} {top : κ} (hkey : key item = some top) (hfloor : floor < top) :
    leads key before item = true ↔ bound < top := by
  rw [leads_eq_true_iff]
  constructor
  · rintro ⟨top', htop', hall⟩
    rw [hkey] at htop'
    cases htop'
    rcases htracks.attained with rfl | ⟨earlier, hmem, hearlier⟩
    · exact hfloor
    · exact hall earlier hmem bound hearlier
  · intro hbound
    exact ⟨top, hkey, fun earlier hmem low hlow =>
      (htracks.le earlier hmem low hlow).trans_lt hbound⟩

theorem Tracks.append_leading
    {floor bound : κ} {before : List α} (htracks : Tracks key floor before bound)
    {item : α} {top : κ} (hkey : key item = some top) (hbound : bound < top) :
    Tracks key floor (before ++ [item]) top where
  floor_le := htracks.floor_le.trans hbound.le
  le := by
    intro earlier hmem low hlow
    rcases List.mem_append.mp hmem with hold | hnew
    · exact (htracks.le earlier hold low hlow).trans hbound.le
    · rw [List.mem_singleton.mp hnew, hkey] at hlow
      cases hlow
      exact le_rfl
  attained := Or.inr ⟨item, List.mem_append_right _ List.mem_cons_self, hkey⟩

theorem Tracks.append_trailing
    {floor bound : κ} {before : List α} (htracks : Tracks key floor before bound)
    {item : α} (hkey : ∀ top, key item = some top → top ≤ bound) :
    Tracks key floor (before ++ [item]) bound where
  floor_le := htracks.floor_le
  le := by
    intro earlier hmem low hlow
    rcases List.mem_append.mp hmem with hold | hnew
    · exact htracks.le earlier hold low hlow
    · rw [List.mem_singleton.mp hnew] at hlow
      exact hkey low hlow
  attained := by
    rcases htracks.attained with hfloor | ⟨earlier, hmem, hearlier⟩
    · exact Or.inl hfloor
    · exact Or.inr ⟨earlier, List.mem_append_left _ hmem, hearlier⟩

/-! ## Sublists of a sorted list -/

/-- A list strictly sorted by a rank is a sublist of every list so sorted
that contains its elements. -/
theorem sublist_of_subset_of_sorted
    {β : Type*} (rank : β → κ) {xs ys : List β}
    (hxs : xs.Pairwise fun x y => rank x < rank y)
    (hys : ys.Pairwise fun x y => rank x < rank y)
    (hsub : ∀ x ∈ xs, x ∈ ys) : xs.Sublist ys := by
  have hnodup : xs.Nodup := hxs.imp fun hlt heq => by
    subst heq
    exact lt_irrefl _ hlt
  have hsubperm : xs.Subperm ys := hnodup.subperm hsub
  have : Std.Antisymm fun x y : β => rank x < rank y :=
    ⟨fun x y hxy hyx => absurd hxy hyx.asymm⟩
  exact List.sublist_of_subperm_of_pairwise hsubperm hxs hys

end RunningMaxima
