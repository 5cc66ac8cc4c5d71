import SechatClient.GuiApp
import SechatClient.StepSystem

/-!
# The alias file

One line per alias, the identity in hexadecimal, a tab and the name, with no
escaping.  Every update reads the file into a map, changes the map and writes
all of it back, in whatever order the hash map yields its entries.  A name
that holds a line break does not survive this, and a carriage return at the
end of a name that was read from the file does not either.
-/

namespace SechatClient

open ByteStrings StepSystem

abbrev AliasMap := AList fun _ : KeyType => String

abbrev AliasEntry := Sigma fun _ : KeyType => String

/-! ## Reading -/

def parseAlias (line : List Char) : Option AliasEntry :=
  match splitOnce '\t' line with
  | none => none
  | some (hexId, name) =>
      match hexDecode hexId with
      | none => none
      | some bytes =>
          match keyTryFrom bytes with
          | .error _ => none
          | .ok id => some ⟨id, String.ofList name⟩

def insertAlias (map : AliasMap) (entry : AliasEntry) : AliasMap :=
  map.insert entry.1 entry.2

/-- A missing or unreadable file gives the empty map, a later line of an
identity replaces an earlier one. -/
def loadAliases (file : Option String) : AliasMap :=
  match file with
  | none => ∅
  | some content =>
      ((lines content.toList).filterMap parseAlias).foldl insertAlias ∅

/-! ## Writing -/

/-- The order in which a hash map yields its entries. -/
structure IterationOrder where
  arrange : List AliasEntry → List AliasEntry
  perm : ∀ entries, (arrange entries).Perm entries

def aliasLine (entry : AliasEntry) : List Char :=
  hexEncode entry.1.toList ++ '\t' :: (entry.2.toList ++ ['\n'])

def aliasContent (order : IterationOrder) (map : AliasMap) : String :=
  String.ofList ((order.arrange map.entries).flatMap aliasLine)

/-- A call with the order in which it writes; `failed` is a call that could
not write the file, and what it left of it. -/
inductive AliasCall where
  | setAlias (id : KeyType) (name : String) (order : IterationOrder)
  | removeAlias (id : KeyType) (order : IterationOrder)
  | failed (left : Option String)

/-- The length check of `set_alias`. -/
def aliasRejected (name : String) : Bool :=
  (setAlias name (.ok ())).toOption.isNone

def aliasStep (file : Option String) : AliasCall → Option String
  | .setAlias id name order =>
      if aliasRejected name then file
      else some (aliasContent order ((loadAliases file).insert id (trim name)))
  | .removeAlias id order =>
      match (loadAliases file).lookup id with
      | none => file
      | some _ => some (aliasContent order ((loadAliases file).erase id))
  | .failed left => left

/-! ## The map it should be -/

/-- The step changes the map as the call says and in nothing else. -/
def ChangesMapOnly (file : Option String) (call : AliasCall) : Prop :=
  match call with
  | .setAlias id name _ =>
      ∀ other, (loadAliases (aliasStep file call)).lookup other =
        if aliasRejected name then (loadAliases file).lookup other
        else ((loadAliases file).insert id (trim name)).lookup other
  | .removeAlias id _ =>
      ∀ other, (loadAliases (aliasStep file call)).lookup other =
        ((loadAliases file).erase id).lookup other
  | .failed _ => True

/-- No other name ends in a carriage return. -/
def OthersKept (map : AliasMap) (id : KeyType) : Prop :=
  ∀ other name, other ≠ id → map.lookup other = some name →
    name.toList.getLast? ≠ some '\r'

def WritesCleanly (file : Option String) : AliasCall → Prop
  | .setAlias id name _ =>
      aliasRejected name = true ∨
        '\n' ∉ (trim name).toList ∧ OthersKept (loadAliases file) id
  | .removeAlias id _ =>
      (loadAliases file).lookup id = none ∨ OthersKept (loadAliases file) id
  | .failed _ => True

/-! ## Reading back what was written -/

section ReadBack

variable {map : AliasMap} {id : KeyType} {name : String}
  {entries : List AliasEntry} {file : Option String}

theorem lookup_foldl_insertAlias (hkeys : entries.NodupKeys) :
    (entries.foldl insertAlias map).lookup id =
      (entries.dlookup id).or (map.lookup id) := by
  induction entries generalizing map with
  | nil => rfl
  | cons entry rest ih =>
      obtain ⟨hnew, hrest⟩ := List.nodupKeys_cons.mp hkeys
      rw [List.foldl_cons, ih hrest, insertAlias]
      by_cases hentry : id = entry.1
      · subst hentry
        rw [List.dlookup_cons_eq, List.dlookup_eq_none.mpr hnew,
          AList.lookup_insert]
        rfl
      · rw [List.dlookup_cons_ne _ _ hentry, AList.lookup_insert_ne hentry]

theorem mem_of_lookup_foldl
    (hlookup : (entries.foldl insertAlias map).lookup id = some name) :
    ⟨id, name⟩ ∈ entries ∨ map.lookup id = some name := by
  induction entries generalizing map with
  | nil => exact Or.inr hlookup
  | cons entry rest ih =>
      rcases ih hlookup with hrest | hmap
      · exact Or.inl (List.mem_cons_of_mem _ hrest)
      · by_cases hentry : id = entry.1
        · subst hentry
          rw [insertAlias, AList.lookup_insert] at hmap
          cases hmap
          exact Or.inl List.mem_cons_self
        · rw [insertAlias, AList.lookup_insert_ne hentry] at hmap
          exact Or.inr hmap

theorem mem_of_parseAlias
    {line : List Char} (hparse : parseAlias line = some ⟨id, name⟩)
    {char : Char} (hchar : char ∈ name.toList) : char ∈ line := by
  unfold parseAlias at hparse
  cases hsplit : splitOnce '\t' line with
  | none => simp [hsplit] at hparse
  | some parts =>
      obtain ⟨hexId, rest⟩ := parts
      simp only [hsplit] at hparse
      split at hparse
      next => contradiction
      next =>
        split at hparse
        next => contradiction
        next =>
          cases hparse
          rw [String.toList_ofList] at hchar
          exact mem_of_splitOnce hsplit hchar

/-- A name read from the file is part of one line. -/
theorem newline_notMem_of_loaded
    (hlookup : (loadAliases file).lookup id = some name) :
    '\n' ∉ name.toList := by
  cases file with
  | none => simp [loadAliases] at hlookup
  | some content =>
      rcases mem_of_lookup_foldl hlookup with hmem | hempty
      · obtain ⟨line, hline, hparse⟩ := List.mem_filterMap.mp hmem
        exact fun hchar => newline_notMem_of_mem_lines hline
          (mem_of_parseAlias hparse hchar)
      · simp at hempty

def stripName (name : String) : String :=
  String.ofList (stripCr name.toList)

theorem stripName_eq_self_iff :
    stripName name = name ↔ name.toList.getLast? ≠ some '\r' := by
  rw [← stripCr_eq_self_iff, stripName, ← String.toList_inj,
    String.toList_ofList]

theorem parseAlias_written (entry : AliasEntry) :
    parseAlias (stripCr (hexEncode entry.1.toList ++
        '\t' :: entry.2.toList)) =
      some ⟨entry.1, stripName entry.2⟩ := by
  have htab : '\t' ∉ hexEncode entry.1.toList :=
    notMem_hexEncode (by decide) _
  have hkey : keyTryFrom entry.1.toList = .ok entry.1 := by
    simp [keyTryFrom]
  rw [stripCr_append_cons (by decide)]
  simp only [parseAlias, splitOnce_append htab, hexDecode_hexEncode, hkey,
    stripName]

theorem lines_written
    (hnames : ∀ entry ∈ entries, '\n' ∉ entry.2.toList) :
    lines (entries.flatMap aliasLine) =
      entries.map fun entry =>
        stripCr (hexEncode entry.1.toList ++ '\t' :: entry.2.toList) := by
  induction entries with
  | nil => rfl
  | cons entry rest ih =>
      have hhex : '\n' ∉ hexEncode entry.1.toList :=
        notMem_hexEncode (by decide) _
      have hline : '\n' ∉
          hexEncode entry.1.toList ++ '\t' :: entry.2.toList := by
        simp [hhex, hnames entry List.mem_cons_self]
      have hrest : ∀ other ∈ rest, '\n' ∉ other.2.toList :=
        fun other hother => hnames other (List.mem_cons_of_mem _ hother)
      have hsplit : (entry :: rest).flatMap aliasLine =
          (hexEncode entry.1.toList ++ '\t' :: entry.2.toList) ++
            '\n' :: rest.flatMap aliasLine := by
        simp [aliasLine]
      rw [hsplit, lines_append hline, ih hrest, List.map_cons]

theorem parse_written
    (hnames : ∀ entry ∈ entries, '\n' ∉ entry.2.toList) :
    (lines (entries.flatMap aliasLine)).filterMap parseAlias =
      entries.map fun entry => ⟨entry.1, stripName entry.2⟩ := by
  rw [lines_written hnames, List.filterMap_map, ← List.filterMap_eq_map']
  apply List.filterMap_congr
  intro entry _
  exact parseAlias_written entry

theorem dlookup_stripped (entries : List AliasEntry) (id : KeyType) :
    (entries.map fun entry =>
        (⟨entry.1, stripName entry.2⟩ : AliasEntry)).dlookup id =
      (entries.dlookup id).map stripName :=
  List.dlookup_map₂ (f := fun _ => stripName) id

theorem nodupKeys_stripped (hkeys : entries.NodupKeys) :
    (entries.map fun entry =>
      (⟨entry.1, stripName entry.2⟩ : AliasEntry)).NodupKeys := by
  unfold List.NodupKeys List.keys at hkeys ⊢
  rwa [List.map_map]

/-- Written and read back, each name loses one carriage return at its end. -/
theorem lookup_aliasContent
    (order : IterationOrder)
    (hnames : ∀ id name, map.lookup id = some name → '\n' ∉ name.toList)
    (id : KeyType) :
    (loadAliases (some (aliasContent order map))).lookup id =
      (map.lookup id).map stripName := by
  have hperm := order.perm map.entries
  have hkeys : (order.arrange map.entries).NodupKeys :=
    (List.perm_nodupKeys hperm).mpr map.nodupKeys
  have hlines : ∀ entry ∈ order.arrange map.entries,
      '\n' ∉ entry.2.toList := by
    intro entry hentry
    exact hnames entry.1 entry.2
      (AList.mem_lookup_iff.mpr (hperm.mem_iff.mp hentry))
  simp only [loadAliases, aliasContent, String.toList_ofList]
  rw [parse_written hlines, lookup_foldl_insertAlias (nodupKeys_stripped hkeys),
    dlookup_stripped, List.perm_dlookup id hkeys hperm]
  simp [AList.lookup]

theorem trim_getLast (name : String) :
    (trim name).toList.getLast? ≠ some '\r' := by
  intro hlast
  rw [trim, String.toList_ofList] at hlast
  have hne : (name.toList.dropWhile isWhiteSpace).rdropWhile isWhiteSpace ≠
      [] := by
    intro hnil
    rw [hnil] at hlast
    contradiction
  have hkept := List.rdropWhile_last_not isWhiteSpace _ hne
  rw [List.getLast?_eq_some_getLast hne, Option.some.injEq] at hlast
  rw [hlast] at hkept
  exact hkept (by decide)

theorem lookup_aliasContent_eq_iff
    (order : IterationOrder)
    (hnames : ∀ id name, map.lookup id = some name → '\n' ∉ name.toList) :
    (∀ id, (loadAliases (some (aliasContent order map))).lookup id =
        map.lookup id) ↔
      ∀ id name, map.lookup id = some name →
        name.toList.getLast? ≠ some '\r' := by
  simp only [lookup_aliasContent order hnames]
  constructor
  · intro hall id name hname
    have hid := hall id
    rw [hname, Option.map_some, Option.some.injEq] at hid
    exact stripName_eq_self_iff.mp hid
  · intro hall id
    cases hname : map.lookup id with
    | none => rfl
    | some name =>
        rw [Option.map_some, stripName_eq_self_iff.mpr (hall id name hname)]

end ReadBack

/-! ## The calls -/

section Calls

variable {map : AliasMap} {file : Option String} {id other : KeyType}
  {name old : String} {order : IterationOrder}

theorem lookup_insert_cases
    (hold : (map.insert id name).lookup other = some old) :
    other = id ∧ old = name ∨ other ≠ id ∧ map.lookup other = some old := by
  by_cases hother : other = id
  · subst hother
    rw [AList.lookup_insert, Option.some.injEq] at hold
    exact Or.inl ⟨rfl, hold.symm⟩
  · rw [AList.lookup_insert_ne hother] at hold
    exact Or.inr ⟨hother, hold⟩

theorem lookup_erase_cases
    (hold : (map.erase id).lookup other = some old) :
    other ≠ id ∧ map.lookup other = some old := by
  by_cases hother : other = id
  · subst hother
    rw [AList.lookup_erase] at hold
    contradiction
  · rw [AList.lookup_erase_ne hother] at hold
    exact ⟨hother, hold⟩

theorem setAlias_changesMapOnly_iff :
    ChangesMapOnly file (.setAlias id name order) ↔
      WritesCleanly file (.setAlias id name order) := by
  simp only [ChangesMapOnly, WritesCleanly, aliasStep]
  cases hrejected : aliasRejected name with
  | true => simp
  | false =>
      simp only [Bool.false_eq_true, if_false, false_or]
      constructor
      · intro hall
        have hnames : ∀ other old, ((loadAliases file).insert id
            (trim name)).lookup other = some old → '\n' ∉ old.toList := by
          intro other old hold
          rw [← hall other] at hold
          exact newline_notMem_of_loaded hold
        refine ⟨hnames id (trim name) (AList.lookup_insert _), ?_⟩
        intro other old hother hold
        apply (lookup_aliasContent_eq_iff order hnames).mp hall other old
        rwa [AList.lookup_insert_ne hother]
      · rintro ⟨hbreak, hothers⟩
        apply (lookup_aliasContent_eq_iff order _).mpr
        · intro other old hold
          rcases lookup_insert_cases hold with ⟨_, rfl⟩ | ⟨hother, hold⟩
          · exact trim_getLast name
          · exact hothers other old hother hold
        · intro other old hold
          rcases lookup_insert_cases hold with ⟨_, rfl⟩ | ⟨_, hold⟩
          · exact hbreak
          · exact newline_notMem_of_loaded hold

theorem removeAlias_changesMapOnly_iff :
    ChangesMapOnly file (.removeAlias id order) ↔
      WritesCleanly file (.removeAlias id order) := by
  cases hid : (loadAliases file).lookup id with
  | none =>
      simp only [ChangesMapOnly, WritesCleanly, aliasStep, hid]
      refine iff_of_true ?_ (Or.inl trivial)
      intro other
      by_cases hother : other = id
      · rw [hother, hid, AList.lookup_erase]
      · rw [AList.lookup_erase_ne hother]
  | some current =>
      have hnames : ∀ other old, ((loadAliases file).erase id).lookup other =
          some old → '\n' ∉ old.toList := by
        intro other old hold
        exact newline_notMem_of_loaded (lookup_erase_cases hold).2
      simp only [ChangesMapOnly, WritesCleanly, aliasStep, hid, reduceCtorEq,
        false_or]
      rw [lookup_aliasContent_eq_iff order hnames]
      constructor
      · intro hall other old hother hold
        apply hall other old
        rwa [AList.lookup_erase_ne hother]
      · intro hothers other old hold
        obtain ⟨hother, hold⟩ := lookup_erase_cases hold
        exact hothers other old hother hold

theorem changesMapOnly_iff (file : Option String) (call : AliasCall) :
    ChangesMapOnly file call ↔ WritesCleanly file call := by
  cases call with
  | setAlias id name order => exact setAlias_changesMapOnly_iff
  | removeAlias id order => exact removeAlias_changesMapOnly_iff
  | failed left => exact Iff.rfl

end Calls

/-- Along any calls from any file, in any order of writing: every step changes
the map as its call says exactly if every accepted name has no line break and
no other name read back ends in a carriage return when the file is rewritten. -/
theorem alias_file_refines_map_iff
    (file : Option String) (calls : List AliasCall) :
    AllSteps (fun file call => some (aliasStep file call)) ChangesMapOnly
        file calls ↔
      AllSteps (fun file call => some (aliasStep file call)) WritesCleanly
        file calls := by
  constructor
  · exact allSteps_mono fun file call => (changesMapOnly_iff file call).mp
  · exact allSteps_mono fun file call => (changesMapOnly_iff file call).mpr

def listedOrder : IterationOrder where
  arrange := fun entries => entries
  perm := fun _ => .rfl

/-- A name with a line break is accepted, and only its first line is read
back. -/
theorem line_break_cuts_name :
    aliasRejected "ann\nbob" = false ∧ trim "ann\nbob" = "ann\nbob" ∧
      (loadAliases (aliasStep none (.setAlias (Vector.replicate 32 1)
        "ann\nbob" listedOrder))).lookup (Vector.replicate 32 1) =
          some "ann" := by
  decide

end SechatClient
