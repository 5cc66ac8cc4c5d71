import Mathlib.Data.List.Basic
import Mathlib.Data.List.DropRight
import Mathlib.Data.List.Infix
import Mathlib.Data.List.Lex
import Mathlib.Data.Nat.Basic
import Mathlib.Tactic

/-!
# Byte strings

Byte strings, the fixed-width little- and big-endian forms of 64-bit words,
UTF-8 text and hexadecimal names.  Everything here is about the standard
library of the language, not about a particular program.
-/

namespace ByteStrings

abbrev Bytes := List UInt8

/-! ## Digits in base 256 -/

/-- The `width` low base-256 digits of a number, least significant first. -/
def leDigits : ℕ → ℕ → Bytes
  | 0, _ => []
  | width + 1, value => UInt8.ofNat value :: leDigits width (value / 256)

def leValue : Bytes → ℕ
  | [] => 0
  | digit :: rest => digit.toNat + 256 * leValue rest

@[simp] theorem leDigits_length (width value : ℕ) :
    (leDigits width value).length = width := by
  induction width generalizing value with
  | zero => rfl
  | succ width ih => simp [leDigits, ih]

theorem leValue_leDigits
    {width value : ℕ} (hvalue : value < 256 ^ width) :
    leValue (leDigits width value) = value := by
  induction width generalizing value with
  | zero =>
      simp only [pow_zero, Nat.lt_one_iff] at hvalue
      simp [leDigits, leValue, hvalue]
  | succ width ih =>
      have hquot : value / 256 < 256 ^ width := by
        rw [Nat.div_lt_iff_lt_mul (by norm_num), ← pow_succ]
        exact hvalue
      simp only [leDigits, leValue, ih hquot, UInt8.toNat_ofNat']
      omega

theorem leValue_lt (bytes : Bytes) : leValue bytes < 256 ^ bytes.length := by
  induction bytes with
  | nil => simp [leValue]
  | cons digit rest ih =>
      have hdigit : digit.toNat < 256 := digit.toNat_lt
      simp only [leValue, List.length_cons, pow_succ]
      omega

theorem leDigits_leValue (bytes : Bytes) :
    leDigits bytes.length (leValue bytes) = bytes := by
  induction bytes with
  | nil => rfl
  | cons digit rest ih =>
      have hdigit : digit.toNat < 256 := digit.toNat_lt
      have hlow : UInt8.ofNat (digit.toNat + 256 * leValue rest) = digit := by
        apply UInt8.toNat_inj.mp
        rw [UInt8.toNat_ofNat']
        omega
      have hhigh : (digit.toNat + 256 * leValue rest) / 256 = leValue rest := by
        omega
      simp only [List.length_cons, leValue, leDigits, hlow, hhigh, ih]

/-! ## Words of 64 bits -/

def toLeBytes (word : UInt64) : Bytes := leDigits 8 word.toNat

/-- `u64::from_le_bytes`, on the eight bytes it is called with. -/
def ofLeBytes (bytes : Bytes) : UInt64 := UInt64.ofNat (leValue bytes)

def toBeBytes (word : UInt64) : Bytes := (toLeBytes word).reverse

def ofBeBytes (bytes : Bytes) : UInt64 := ofLeBytes bytes.reverse

/-- `i64::to_le_bytes`: the two's complement word, byte by byte. -/
def i64ToLeBytes (value : Int64) : Bytes := toLeBytes value.toUInt64

def i64OfLeBytes (bytes : Bytes) : Int64 := (ofLeBytes bytes).toInt64

@[simp] theorem toLeBytes_length (word : UInt64) :
    (toLeBytes word).length = 8 := leDigits_length 8 word.toNat

@[simp] theorem i64ToLeBytes_length (value : Int64) :
    (i64ToLeBytes value).length = 8 := toLeBytes_length _

@[simp] theorem toBeBytes_length (word : UInt64) :
    (toBeBytes word).length = 8 := by
  simp [toBeBytes]

@[simp] theorem ofLeBytes_toLeBytes (word : UInt64) :
    ofLeBytes (toLeBytes word) = word := by
  have hword : word.toNat < 256 ^ 8 := by
    simpa using word.toNat_lt
  unfold ofLeBytes toLeBytes
  rw [leValue_leDigits hword, UInt64.ofNat_toNat]

theorem toLeBytes_ofLeBytes {bytes : Bytes} (hlength : bytes.length = 8) :
    toLeBytes (ofLeBytes bytes) = bytes := by
  have hvalue : leValue bytes < 2 ^ 64 := by
    have h := leValue_lt bytes
    rw [hlength] at h
    simpa using h
  unfold toLeBytes ofLeBytes
  rw [UInt64.toNat_ofNat', Nat.mod_eq_of_lt hvalue, ← hlength]
  exact leDigits_leValue bytes

@[simp] theorem ofBeBytes_toBeBytes (word : UInt64) :
    ofBeBytes (toBeBytes word) = word := by
  simp [ofBeBytes, toBeBytes]

theorem toBeBytes_ofBeBytes {bytes : Bytes} (hlength : bytes.length = 8) :
    toBeBytes (ofBeBytes bytes) = bytes := by
  unfold toBeBytes ofBeBytes
  rw [toLeBytes_ofLeBytes (by simpa using hlength), List.reverse_reverse]

@[simp] theorem i64OfLeBytes_i64ToLeBytes (value : Int64) :
    i64OfLeBytes (i64ToLeBytes value) = value := by
  simp [i64OfLeBytes, i64ToLeBytes]

theorem i64ToLeBytes_i64OfLeBytes
    {bytes : Bytes} (hlength : bytes.length = 8) :
    i64ToLeBytes (i64OfLeBytes bytes) = bytes := by
  unfold i64ToLeBytes i64OfLeBytes
  rw [UInt64.toUInt64_toInt64]
  exact toLeBytes_ofLeBytes hlength

theorem i64ToLeBytes_injective : Function.Injective i64ToLeBytes :=
  Function.LeftInverse.injective i64OfLeBytes_i64ToLeBytes

@[simp] theorem i64ToLeBytes_inj {x y : Int64} :
    i64ToLeBytes x = i64ToLeBytes y ↔ x = y :=
  i64ToLeBytes_injective.eq_iff

/-! ## Byte order -/

instance uint8LinearOrder : LinearOrder UInt8 where
  le_refl := UInt8.le_refl
  le_trans := fun _ _ _ => UInt8.le_trans
  le_antisymm := fun _ _ => UInt8.le_antisymm
  le_total := UInt8.le_total
  lt_iff_le_not_ge := by
    intro x y
    simp only [UInt8.lt_iff_toNat_lt, UInt8.le_iff_toNat_le]
    omega
  toDecidableLE := inferInstance

def beValue : Bytes → ℕ
  | [] => 0
  | digit :: rest => digit.toNat * 256 ^ rest.length + beValue rest

theorem beValue_lt (bytes : Bytes) : beValue bytes < 256 ^ bytes.length := by
  induction bytes with
  | nil => simp [beValue]
  | cons digit rest ih =>
      have hdigit : digit.toNat + 1 ≤ 256 := digit.toNat_lt
      have hscaled := Nat.mul_le_mul_right (256 ^ rest.length) hdigit
      simp only [beValue, List.length_cons, pow_succ]
      rw [add_mul, one_mul] at hscaled
      omega

/-- On strings of one length the lexicographic order is the order of the
big-endian values. -/
theorem lt_iff_beValue_lt
    {left right : Bytes} (hlength : left.length = right.length) :
    left < right ↔ beValue left < beValue right := by
  induction left generalizing right with
  | nil =>
      cases right with
      | nil => simp [beValue]
      | cons digit rest => simp at hlength
  | cons x left ih =>
      cases right with
      | nil => simp at hlength
      | cons y right =>
          have hrest : left.length = right.length := by simpa using hlength
          have hleft := beValue_lt left
          have hright := beValue_lt right
          rw [List.cons_lt_cons_iff, ih hrest, UInt8.lt_iff_toNat_lt,
            ← UInt8.toNat_inj]
          simp only [beValue]
          rw [hrest] at hleft ⊢
          constructor
          · rintro (hlt | ⟨heq, hlt⟩)
            · have hscaled := Nat.mul_le_mul_right (256 ^ right.length) hlt
              rw [Nat.succ_mul] at hscaled
              omega
            · rw [heq]
              omega
          · intro hlt
            rcases lt_trichotomy x.toNat y.toNat with hxy | hxy | hxy
            · exact Or.inl hxy
            · rw [hxy] at hlt
              exact Or.inr ⟨hxy, by omega⟩
            · have hscaled := Nat.mul_le_mul_right (256 ^ right.length) hxy
              rw [Nat.succ_mul] at hscaled
              omega

theorem beValue_append_singleton (bytes : Bytes) (digit : UInt8) :
    beValue (bytes ++ [digit]) = 256 * beValue bytes + digit.toNat := by
  induction bytes with
  | nil => simp [beValue]
  | cons first rest ih =>
      simp only [List.cons_append, beValue, ih, List.length_append,
        List.length_singleton, pow_succ]
      ring

theorem beValue_reverse (bytes : Bytes) :
    beValue bytes.reverse = leValue bytes := by
  induction bytes with
  | nil => rfl
  | cons digit rest ih =>
      rw [List.reverse_cons, beValue_append_singleton, ih, leValue]
      ring

theorem toBeBytes_lt_iff (x y : UInt64) :
    toBeBytes x < toBeBytes y ↔ x.toNat < y.toNat := by
  have hvalue : ∀ word : UInt64, beValue (toBeBytes word) = word.toNat := by
    intro word
    have hword : word.toNat < 256 ^ 8 := by simpa using word.toNat_lt
    unfold toBeBytes toLeBytes
    rw [beValue_reverse, leValue_leDigits hword]
  rw [lt_iff_beValue_lt (by simp), hvalue, hvalue]

theorem toNat_lt_toNat_succ {word : UInt64} (hnext : word + 1 ≠ 0) :
    word.toNat < (word + 1).toNat := by
  have hlt := word.toNat_lt
  have hsum : (word + 1).toNat = (word.toNat + 1) % 2 ^ 64 := by simp
  by_cases hmax : word.toNat + 1 = 2 ^ 64
  · exfalso
    apply hnext
    rw [← UInt64.toNat_inj, hsum, hmax]
    rfl
  · rw [hsum, Nat.mod_eq_of_lt (by omega)]
    omega

/-! ## Slices -/

/-- `bytes[start..stop]`, which panics unless the bounds are in order and
within the bytes. -/
def slice (bytes : Bytes) (start stop : ℕ) : Option Bytes :=
  if start ≤ stop ∧ stop ≤ bytes.length then
    some ((bytes.drop start).take (stop - start))
  else
    none

theorem slice_of_le
    {bytes : Bytes} {start stop : ℕ} (hstart : start ≤ stop)
    (hstop : stop ≤ bytes.length) :
    slice bytes start stop = some ((bytes.drop start).take (stop - start)) :=
  if_pos ⟨hstart, hstop⟩

theorem slice_to_end
    {bytes : Bytes} {start : ℕ} (hstart : start ≤ bytes.length) :
    slice bytes start bytes.length = some (bytes.drop start) := by
  rw [slice_of_le hstart le_rfl, List.take_of_length_le (by simp)]

/-! ## Text -/

def utf8 (text : String) : Bytes := text.toUTF8.data.toList

def fromUtf8 (bytes : Bytes) : Option String :=
  String.fromUTF8? ⟨bytes.toArray⟩

@[simp] theorem fromUtf8_utf8 (text : String) :
    fromUtf8 (utf8 text) = some text := by
  have hbytes : (⟨(utf8 text).toArray⟩ : ByteArray) = text.toUTF8 := by
    simp [utf8]
  have hvalid : text.toUTF8.IsValidUTF8 := text.isValidUTF8
  unfold fromUtf8
  rw [hbytes, String.fromUTF8?, dif_pos hvalid]
  rfl

/-- `rsplit_once`: what stands before and after the last separator. -/
def rsplitOnce (separator : Char) (text : String) : Option (String × String) :=
  let reversed := text.toList.reverse
  match reversed.dropWhile (· ≠ separator) with
  | [] => none
  | _ :: before =>
      some (String.ofList before.reverse,
        String.ofList (reversed.takeWhile (· ≠ separator)).reverse)

theorem rsplitOnce_append
    {separator : Char} {last : List Char} (hlast : separator ∉ last)
    (before : List Char) :
    rsplitOnce separator (String.ofList (before ++ separator :: last)) =
      some (String.ofList before, String.ofList last) := by
  have hall : ∀ char ∈ last.reverse, decide (char ≠ separator) = true := by
    intro char hmem
    rw [decide_eq_true_eq]
    rintro rfl
    exact hlast (List.mem_reverse.mp hmem)
  have hreversed : (String.ofList (before ++ separator :: last)).toList.reverse =
      last.reverse ++ separator :: before.reverse := by
    simp
  simp only [rsplitOnce, hreversed]
  rw [List.dropWhile_append_of_pos hall, List.takeWhile_append_of_pos hall]
  simp

/-- `split_once`: what stands before and after the first separator. -/
def splitOnce (separator : Char) (text : List Char) :
    Option (List Char × List Char) :=
  match text.dropWhile (· ≠ separator) with
  | [] => none
  | _ :: after => some (text.takeWhile (· ≠ separator), after)

theorem splitOnce_append
    {separator : Char} {before : List Char} (hbefore : separator ∉ before)
    (after : List Char) :
    splitOnce separator (before ++ separator :: after) =
      some (before, after) := by
  have hall : ∀ char ∈ before, decide (char ≠ separator) = true := by
    intro char hmem
    rw [decide_eq_true_eq]
    rintro rfl
    exact hbefore hmem
  unfold splitOnce
  rw [List.dropWhile_append_of_pos hall, List.takeWhile_append_of_pos hall]
  simp

theorem mem_of_splitOnce
    {separator : Char} {text before after : List Char}
    (hsplit : splitOnce separator text = some (before, after)) {char : Char}
    (hchar : char ∈ after) : char ∈ text := by
  unfold splitOnce at hsplit
  split at hsplit
  next => contradiction
  next head rest hrest =>
    cases hsplit
    apply (List.dropWhile_suffix (· ≠ separator)).mem
    rw [hrest]
    exact List.mem_cons_of_mem _ hchar

/-- A line that ended in `\n` loses a `\r` before it. -/
def stripCr (line : List Char) : List Char :=
  if line.getLast? = some '\r' then line.dropLast else line

def linesFrom : List Char → List Char → List (List Char)
  | line, [] => if line = [] then [] else [line]
  | line, char :: rest =>
      if char = '\n' then stripCr line :: linesFrom [] rest
      else linesFrom (line ++ [char]) rest

/-- `str::lines`. -/
def lines (text : List Char) : List (List Char) := linesFrom [] text

theorem linesFrom_append
    {line : List Char} (hline : '\n' ∉ line) (before rest : List Char) :
    linesFrom before (line ++ '\n' :: rest) =
      stripCr (before ++ line) :: lines rest := by
  induction line generalizing before with
  | nil => simp [linesFrom, lines]
  | cons char line ih =>
      rw [List.mem_cons, not_or] at hline
      rw [List.cons_append, linesFrom, if_neg (Ne.symm hline.1),
        ih hline.2]
      simp

theorem lines_append
    {line : List Char} (hline : '\n' ∉ line) (rest : List Char) :
    lines (line ++ '\n' :: rest) = stripCr line :: lines rest := by
  rw [lines, linesFrom_append hline, List.nil_append]

theorem stripCr_subset {line : List Char} {char : Char}
    (hchar : char ∈ stripCr line) : char ∈ line := by
  unfold stripCr at hchar
  split at hchar
  next => exact List.mem_of_mem_dropLast hchar
  next => exact hchar

theorem newline_notMem_of_mem_linesFrom
    {before text line : List Char} (hbefore : '\n' ∉ before)
    (hline : line ∈ linesFrom before text) : '\n' ∉ line := by
  induction text generalizing before with
  | nil =>
      rw [linesFrom] at hline
      split at hline
      next => simp at hline
      next =>
        rw [List.mem_singleton] at hline
        rwa [hline]
  | cons char rest ih =>
      rw [linesFrom] at hline
      split at hline
      next =>
        rcases List.mem_cons.mp hline with rfl | hrest
        · exact fun hmem => hbefore (stripCr_subset hmem)
        · exact ih List.not_mem_nil hrest
      next hchar =>
        apply ih _ hline
        simp [hbefore, Ne.symm hchar]

theorem newline_notMem_of_mem_lines
    {text line : List Char} (hline : line ∈ lines text) : '\n' ∉ line :=
  newline_notMem_of_mem_linesFrom List.not_mem_nil hline

theorem stripCr_append_cons
    {before name : List Char} {separator : Char} (hne : separator ≠ '\r') :
    stripCr (before ++ separator :: name) =
      before ++ separator :: stripCr name := by
  cases name with
  | nil => simp [stripCr, hne]
  | cons char rest =>
      have hlast : (before ++ separator :: char :: rest).getLast? =
          (char :: rest).getLast? := by
        simp [List.getLast?_cons]
      unfold stripCr
      rw [hlast]
      split
      next =>
        rw [List.dropLast_append_of_ne_nil (by simp)]
        simp
      next => rfl

theorem stripCr_eq_self_iff {line : List Char} :
    stripCr line = line ↔ line.getLast? ≠ some '\r' := by
  unfold stripCr
  split
  next hlast =>
    refine iff_of_false ?_ (by simpa using hlast)
    intro heq
    have hlength := congrArg List.length heq
    have hne : line ≠ [] := by
      rintro rfl
      simp at hlast
    have hpos := List.length_pos_iff.mpr hne
    rw [List.length_dropLast] at hlength
    omega
  next hlast => exact iff_of_true rfl hlast

def startsWith (text beginning : String) : Bool :=
  beginning.toList.isPrefixOf text.toList

/-- The characters with the Unicode property `White_Space`. -/
def isWhiteSpace (char : Char) : Bool :=
  let code := char.toNat
  (0x9 ≤ code && code ≤ 0xD) || (0x2000 ≤ code && code ≤ 0x200A) ||
    [0x20, 0x85, 0xA0, 0x1680, 0x2028, 0x2029, 0x202F, 0x205F,
      0x3000].contains code

def trim (text : String) : String :=
  String.ofList
    ((text.toList.dropWhile isWhiteSpace).rdropWhile isWhiteSpace)

/-! ## Hexadecimal names -/

def hexDigit (nibble : ℕ) : Char :=
  if nibble < 10 then Char.ofNat (48 + nibble) else Char.ofNat (87 + nibble)

/-- `hex::encode`, as the characters of the resulting name. -/
def hexEncode (bytes : Bytes) : List Char :=
  bytes.flatMap fun byte =>
    [hexDigit (byte.toNat / 16), hexDigit (byte.toNat % 16)]

def hexValue (char : Char) : Option ℕ :=
  if '0' ≤ char ∧ char ≤ '9' then some (char.toNat - 48)
  else if 'a' ≤ char ∧ char ≤ 'f' then some (char.toNat - 87)
  else if 'A' ≤ char ∧ char ≤ 'F' then some (char.toNat - 55)
  else none

/-- `hex::decode`, which takes digits of both cases. -/
def hexDecode : List Char → Option Bytes
  | [] => some []
  | [_] => none
  | high :: low :: rest =>
      match hexValue high, hexValue low, hexDecode rest with
      | some high, some low, some bytes =>
          some (UInt8.ofNat (16 * high + low) :: bytes)
      | _, _, _ => none

theorem hexValue_hexDigit {nibble : ℕ} (hnibble : nibble < 16) :
    hexValue (hexDigit nibble) = some nibble := by
  have hall : ∀ i : Fin 16, hexValue (hexDigit i) = some i.val := by decide
  exact hall ⟨nibble, hnibble⟩

theorem hexDecode_hexEncode (bytes : Bytes) :
    hexDecode (hexEncode bytes) = some bytes := by
  induction bytes with
  | nil => rfl
  | cons byte rest ih =>
      have hbyte : byte.toNat < 256 := byte.toNat_lt
      have hhigh : hexValue (hexDigit (byte.toNat / 16)) =
          some (byte.toNat / 16) := hexValue_hexDigit (by omega)
      have hlow : hexValue (hexDigit (byte.toNat % 16)) =
          some (byte.toNat % 16) := hexValue_hexDigit (by omega)
      have hcons : hexEncode (byte :: rest) =
          hexDigit (byte.toNat / 16) :: hexDigit (byte.toNat % 16) ::
            hexEncode rest := rfl
      have hvalue : 16 * (byte.toNat / 16) + byte.toNat % 16 = byte.toNat := by
        omega
      rw [hcons, hexDecode, hhigh, hlow, ih]
      simp [hvalue]

/-- The digits of a name are none of the characters that delimit it. -/
theorem notMem_hexEncode
    {char : Char} (hchar : hexValue char = none) (bytes : Bytes) :
    char ∉ hexEncode bytes := by
  intro hmem
  obtain ⟨byte, _, hdigit⟩ := List.mem_flatMap.mp hmem
  have hbyte : byte.toNat < 256 := byte.toNat_lt
  simp only [List.mem_cons, List.not_mem_nil, or_false] at hdigit
  rcases hdigit with rfl | rfl
  · rw [hexValue_hexDigit (by omega)] at hchar
    contradiction
  · rw [hexValue_hexDigit (by omega)] at hchar
    contradiction

theorem hexDigit_injective
    {x y : ℕ} (hx : x < 16) (hy : y < 16) (heq : hexDigit x = hexDigit y) :
    x = y := by
  have hall : ∀ i j : Fin 16, hexDigit i = hexDigit j → i = j := by decide
  exact congrArg Fin.val (hall ⟨x, hx⟩ ⟨y, hy⟩ heq)

theorem hexEncode_injective : Function.Injective hexEncode := by
  intro left
  induction left with
  | nil =>
      intro right heq
      cases right with
      | nil => rfl
      | cons byte rest => simp [hexEncode] at heq
  | cons first left ih =>
      intro right heq
      cases right with
      | nil => simp [hexEncode] at heq
      | cons second right =>
          have hfirst : first.toNat < 256 := first.toNat_lt
          have hsecond : second.toNat < 256 := second.toNat_lt
          simp only [hexEncode, List.flatMap_cons, List.cons_append,
            List.nil_append, List.cons.injEq] at heq
          obtain ⟨hhigh, hlow, hrest⟩ := heq
          have hdiv := hexDigit_injective (by omega) (by omega) hhigh
          have hmod := hexDigit_injective (by omega) (by omega) hlow
          have hbyte : first = second := by
            apply UInt8.toNat_inj.mp
            omega
          rw [hbyte, ih hrest]

end ByteStrings
