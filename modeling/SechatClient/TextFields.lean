import Mathlib.Data.List.TakeWhile
import SechatClient.ByteStrings

/-!
# Fields of a line

Trimming a text, and cutting a line into at most a given number of fields at
a separator, which only the last field may hold.
-/

namespace ByteStrings

/-! ## Trimmed texts -/

/-- No white space at either end. -/
structure Trimmed (chars : List Char) : Prop where
  head : ∀ char rest, chars = char :: rest → isWhiteSpace char = false
  last : ∀ front char, chars = front ++ [char] → isWhiteSpace char = false

theorem head_dropWhile_white {text rest : List Char} {char : Char}
    (hdrop : text.dropWhile isWhiteSpace = char :: rest) :
    isWhiteSpace char = false := by
  have hne : text.dropWhile isWhiteSpace ≠ [] := by simp [hdrop]
  have hhead := List.head_dropWhile_not isWhiteSpace hne
  simpa [hdrop] using hhead

theorem toList_trim (text : String) :
    (trim text).toList =
      (text.toList.dropWhile isWhiteSpace).rdropWhile isWhiteSpace := by
  simp [trim]

theorem trimmed_trim (text : String) : Trimmed (trim text).toList := by
  rw [toList_trim]
  constructor
  · intro char rest heq
    -- what is left at the front was at the front before the end was cut
    obtain ⟨back, hback⟩ := List.rdropWhile_prefix isWhiteSpace
      (text.toList.dropWhile isWhiteSpace)
    rw [heq, List.cons_append] at hback
    exact head_dropWhile_white hback.symm
  · intro front char heq
    have hne : (text.toList.dropWhile isWhiteSpace).rdropWhile isWhiteSpace ≠
        [] := by
      simp [heq]
    have hlast := List.rdropWhile_last_not isWhiteSpace _ hne
    simpa [heq] using hlast

theorem trim_eq_empty_iff {text : String} :
    trim text = "" ↔ ∀ char ∈ text.toList, isWhiteSpace char = true := by
  rw [← String.toList_eq_nil_iff, toList_trim, List.rdropWhile_eq_nil_iff]
  constructor
  · intro hall
    by_contra hnot
    simp only [not_forall] at hnot
    obtain ⟨char, hmem, hchar⟩ := hnot
    have hne : text.toList.dropWhile isWhiteSpace ≠ [] := by
      rw [Ne, List.dropWhile_eq_nil_iff]
      exact fun hwhite => hchar (hwhite char hmem)
    have hhead := List.head_dropWhile_not isWhiteSpace hne
    rw [hall _ (List.head_mem hne)] at hhead
    contradiction
  · intro hall char hmem
    exact hall char ((List.dropWhile_suffix isWhiteSpace).mem hmem)

/-! ## Fields -/

section Fields

variable {separator : Char}

theorem splitOnce_eq_some_iff {text before after : List Char} :
    splitOnce separator text = some (before, after) ↔
      text = before ++ separator :: after ∧ separator ∉ before := by
  constructor
  · intro hsplit
    have hbefore : separator ∉ text.takeWhile (· ≠ separator) := by
      intro hmem
      simpa using List.mem_takeWhile_imp hmem
    unfold splitOnce at hsplit
    split at hsplit
    next => contradiction
    next char rest hrest =>
      cases hsplit
      have hne : text.dropWhile (· ≠ separator) ≠ [] := by
        rw [hrest]
        exact List.cons_ne_nil char after
      have hchar : char = separator := by
        have hhead := List.head_dropWhile_not (· ≠ separator) hne
        simp only [hrest, List.head_cons] at hhead
        simpa using hhead
      subst hchar
      refine ⟨?_, hbefore⟩
      rw [← hrest]
      exact (List.takeWhile_append_dropWhile).symm
  · rintro ⟨rfl, hbefore⟩
    exact splitOnce_append hbefore after

theorem splitOnce_eq_none_iff {text : List Char} :
    splitOnce separator text = none ↔ separator ∉ text := by
  constructor
  · intro hnone hmem
    obtain ⟨before, after, rfl, hbefore⟩ := List.eq_append_cons_of_mem hmem
    rw [splitOnce_append hbefore] at hnone
    contradiction
  · intro hnotMem
    cases hsplit : splitOnce separator text with
    | none => rfl
    | some fields =>
        obtain ⟨before, after⟩ := fields
        obtain ⟨rfl, -⟩ := splitOnce_eq_some_iff.mp hsplit
        simp at hnotMem

theorem splitOnce_of_notMem {text : List Char} (hnotMem : separator ∉ text) :
    splitOnce separator text = none :=
  splitOnce_eq_none_iff.mpr hnotMem

/-- `splitn`: at most `count` fields, the last one holding the rest. -/
def splitn : ℕ → Char → List Char → List (List Char)
  | 0, _, _ => []
  | 1, _, text => [text]
  | count + 2, separator, text =>
      match splitOnce separator text with
      | none => [text]
      | some (before, after) => before :: splitn (count + 1) separator after

theorem splitn_of_notMem {text : List Char} (hnotMem : separator ∉ text)
    (count : ℕ) : splitn (count + 1) separator text = [text] := by
  cases count with
  | zero => rfl
  | succ count => simp [splitn, splitOnce_of_notMem hnotMem]

theorem splitn_append {before : List Char} (hbefore : separator ∉ before)
    (count : ℕ) (after : List Char) :
    splitn (count + 2) separator (before ++ separator :: after) =
      before :: splitn (count + 1) separator after := by
  simp [splitn, splitOnce_append hbefore]

end Fields

end ByteStrings
