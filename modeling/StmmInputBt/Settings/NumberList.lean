import Mathlib.Data.List.Forall2
import Mathlib.Algebra.Order.Group.Nat
import StmmInputBt.Foundation.Decimal
import StmmInputBt.Foundation.Int32

/-!
# Lists of numbers in the settings

The weights and the keys of the virtual keyboard are stored as strings of numbers separated by
commas (`util.cc`). The parser drops every token that is not a number within the limits, cuts the
list at the maximal size and pads it with a default value up to the minimal one.

## Main definitions

* `vectorToString`, `tokenizer`, `strToNumber`, `stringToVector`: the code.
* `VectorLimits`: what `stringToVector` asserts about its limits.
* `Denotes`: the number that a token is.

## Main results

* `VectorLimits.parse_eq`: the result in terms of the text between the commas.
* `VectorLimits.stringToVector_robust`, `VectorLimits.parse_vectorToString`.
-/

namespace StmmInputBt

/-- `std::isspace` in the classic locale. -/
def isspace (c : Char) : Bool :=
  c.toNat = 32 || (9 ≤ c.toNat && c.toNat ≤ 13)

/-- `vectorToString`. -/
def vectorToString : List ℤ → List Char
  | [] => []
  | n :: aArr => aArr.foldl (fun sRes nNr => sRes ++ ',' :: Decimal.numeral nNr) (Decimal.numeral n)

/-- The loop of `tokenizer`, where `sToken` is what it has passed since the last separator. -/
def tokenizerLoop (cSeparator : Char) (sToken : List Char) : List Char → List (List Char)
  | [] => [sToken]
  | c :: sStr =>
    if c = cSeparator then
      -- nothing comes after a separator at the end of the string, not even an empty token
      if sStr = [] then [sToken] else sToken :: tokenizerLoop cSeparator [] sStr
    else tokenizerLoop cSeparator (sToken ++ [c]) sStr

/-- The tokens that `tokenizer` passes to its handler. -/
def tokenizer (sStr : List Char) (cSeparator : Char) : List (List Char) :=
  if sStr = [] then [] else tokenizerLoop cSeparator [] sStr

/-- `oISS >> std::skipws >> std::dec >> oNr` with an `int32_t`: the number and what is left to read,
unless the extraction fails. -/
def extractInt32 (sISS : List Char) : Option (ℤ × List Char) :=
  match Decimal.readInt (sISS.dropWhile isspace) with
  | none => none
  | some (oNr, sLeft) => if int32Min ≤ oNr ∧ oNr ≤ int32Max then some (oNr, sLeft) else none

/-- `oISS >> std::skipws >> sRest` finds a string. -/
def findsString (sISS : List Char) : Bool :=
  sISS.dropWhile isspace ≠ []

/-- `strToNumber<int32_t>`. -/
def strToNumber (sNr : List Char) (bMin : Bool) (oMin : ℤ) (bMax : Bool) (oMax : ℤ) : ℤ × Bool :=
  if sNr = [] then (oMin, false)
  else
    match extractInt32 sNr with
    | none => (oMin, false)
    | some (oNr, sLeft) =>
      -- where something is left to read, only white space may come
      if sLeft ≠ [] ∧ findsString sLeft then (oMin, false)
      else if bMin ∧ oNr < oMin then (oMin, false)
      else if bMax ∧ oNr > oMax then (oMin, false)
      else (oNr, true)

/-- The handler of `stringToVector`. -/
def addToken (nMaxSize nMinValue nMaxValue : ℤ) (aArr : List ℤ) (sToken : List Char) : List ℤ :=
  let oPair := strToNumber sToken true nMinValue true nMaxValue
  if oPair.2 ∧ aArr.length < nMaxSize then
    let nVal := oPair.1
    aArr ++ [if nVal < nMinValue then nMinValue else if nVal > nMaxValue then nMaxValue else nVal]
  else aArr

/-- `stringToVector`. -/
def stringToVector (sStr : List Char) (nMinSize nMaxSize nMinValue nMaxValue nDefaultValue : ℤ) :
    List ℤ :=
  let aArr := (tokenizer sStr ',').foldl (addToken nMaxSize nMinValue nMaxValue) []
  -- the loop that pushes the default value
  aArr ++ List.replicate (nMinSize - aArr.length).toNat nDefaultValue

/-- Limits that satisfy the asserts of `stringToVector`, with a size that is not negative and values
that are of type `int32_t`. -/
structure VectorLimits where
  nMinSize : ℤ
  nMaxSize : ℤ
  nMinValue : ℤ
  nMaxValue : ℤ
  nDefaultValue : ℤ
  nMinSize_nonneg : 0 ≤ nMinSize
  nMinSize_le : nMinSize ≤ nMaxSize
  one_le_nMaxSize : 1 ≤ nMaxSize
  nMinValue_le : nMinValue ≤ nDefaultValue
  nDefaultValue_le : nDefaultValue ≤ nMaxValue
  int32Min_le : int32Min ≤ nMinValue
  nMaxValue_le : nMaxValue ≤ int32Max

/-- White space only. -/
def Blank (s : List Char) : Prop :=
  ∀ c ∈ s, isspace c

instance (s : List Char) : Decidable (Blank s) :=
  inferInstanceAs (Decidable (∀ c ∈ s, isspace c))

/-- The token is the number, but for white space around it. -/
def Denotes (sToken : List Char) (n : ℤ) : Prop :=
  ∃ sBefore sNr sAfter, sToken = sBefore ++ sNr ++ sAfter ∧ Blank sBefore ∧ Blank sAfter ∧
    Decimal.IsNumeral sNr n

/-- Something other than white space comes after the number at the beginning of the token. -/
def TextAfterNumber (sToken : List Char) : Prop :=
  ∃ sBefore sNr sAfter n, sToken = sBefore ++ sNr ++ sAfter ∧ Blank sBefore ∧ ¬ Blank sAfter ∧
    Decimal.IsNumeral sNr n ∧ ∀ c ∈ sAfter.head?, ¬ c.isDigit

/-! ### Tokens -/

section Tokens

variable {sep : Char} {s t : List Char} {ts : List (List Char)}

theorem modifyHead_nil_append (ts : List (List Char)) : ts.modifyHead ([] ++ ·) = ts := by
  cases ts <;> rfl

theorem tokenizerLoop_cases (t s : List Char) :
    (s.splitOn sep).modifyHead (t ++ ·) = tokenizerLoop sep t s ∨
      (s.splitOn sep).modifyHead (t ++ ·) = tokenizerLoop sep t s ++ [[]] := by
  induction s generalizing t with
  | nil => exact .inl (by simp [tokenizerLoop])
  | cons c s ih =>
    rw [tokenizerLoop, List.splitOn_cons_eq_if_modifyHead]
    by_cases hc : c = sep
    · rw [if_pos (beq_iff_eq.mpr hc), if_pos hc, List.modifyHead_cons, List.append_nil]
      by_cases hs : s = []
      · rw [if_pos hs, hs]
        exact .inr rfl
      · rw [if_neg hs]
        have hrest := ih []
        rw [modifyHead_nil_append] at hrest
        rcases hrest with h | h
        · exact .inl (by rw [h])
        · exact .inr (by rw [h, List.cons_append])
    · rw [if_neg (by simpa using hc), if_neg hc, List.modifyHead_modifyHead]
      have happend : (t ++ ·) ∘ (c :: ·) = ((t ++ [c]) ++ ·) := by
        funext x
        simp
      rw [happend]
      exact ih (t ++ [c])

/-- The tokens are what stands between the separators, except that an empty text after the last
separator may not be one. -/
theorem tokenizer_cases (s : List Char) :
    s.splitOn sep = tokenizer s sep ∨ s.splitOn sep = tokenizer s sep ++ [[]] := by
  rw [tokenizer]
  split_ifs with hs
  · exact .inr (by rw [hs]; rfl)
  · have h := @tokenizerLoop_cases sep [] s
    rwa [modifyHead_nil_append] at h

theorem not_mem_of_mem_splitOn (h : t ∈ s.splitOn sep) : sep ∉ t := by
  induction s generalizing t with
  | nil =>
    rw [List.splitOn_nil, List.mem_singleton] at h
    simp [h]
  | cons c s ih =>
    rw [List.splitOn_cons_eq_if_modifyHead] at h
    split_ifs at h with hc
    · rcases List.mem_cons.mp h with rfl | h
      · simp
      · exact ih h
    · obtain ⟨head, tail, hsplit⟩ := List.exists_cons_of_ne_nil (List.splitOn_ne_nil sep s)
      rw [hsplit, List.modifyHead_cons] at h
      rw [hsplit] at ih
      rcases List.mem_cons.mp h with rfl | h
      · have hne : sep ≠ c := fun heq => hc (by simp [heq])
        rw [List.mem_cons]
        exact not_or.mpr ⟨hne, ih List.mem_cons_self⟩
      · exact ih (List.mem_cons_of_mem _ h)

theorem foldl_numerals (sRes : List Char) (ns : List ℤ) :
    ns.foldl (fun sRes nNr => sRes ++ ',' :: Decimal.numeral nNr) sRes =
      [','].intercalate (sRes :: ns.map Decimal.numeral) := by
  induction ns generalizing sRes with
  | nil => simp
  | cons n ns ih =>
    rw [List.foldl_cons, ih, List.map_cons, List.intercalate_cons_cons]
    cases ns with
    | nil => simp
    | cons m ns => simp [List.intercalate_cons_cons]

/-- The numbers, separated by commas. -/
theorem vectorToString_eq (ns : List ℤ) :
    vectorToString ns = [','].intercalate (ns.map Decimal.numeral) := by
  cases ns with
  | nil => rfl
  | cons n ns => exact foldl_numerals _ ns

end Tokens

/-! ### Numbers -/

section Numbers

variable {c : Char} {s t rest : List Char} {n m nMin nMax : ℤ}

theorem isspace_of_isDigit (hc : c.isDigit) : isspace c = false := by
  simp only [Char.isDigit, Bool.and_eq_true, decide_eq_true_eq, UInt32.le_iff_toNat_le] at hc
  have hzero : '0'.val.toNat = 48 := rfl
  have hval : c.toNat = c.val.toNat := rfl
  simp only [isspace, Bool.or_eq_false_iff, Bool.and_eq_false_iff, decide_eq_false_iff_not]
  omega

/-- No character of a numeral is white space. -/
theorem isspace_of_mem_isNumeral (h : Decimal.IsNumeral s n) (hc : c ∈ s) : isspace c = false := by
  rcases h.digit_or_sign hc with hdigit | rfl | rfl
  · exact isspace_of_isDigit hdigit
  · rfl
  · rfl

theorem findsString_eq_false : findsString s = false ↔ Blank s := by
  simp [findsString, Blank, List.dropWhile_eq_nil_iff]

theorem Blank.head_not_isDigit (h : Blank s) : ∀ c ∈ s.head?, ¬ c.isDigit := by
  intro c hc hdigit
  have hspace : isspace c := h c (List.mem_of_head? hc)
  rw [isspace_of_isDigit hdigit] at hspace
  exact Bool.false_ne_true hspace

/-- White space is skipped, then the longest numeral is read. -/
theorem readInt_dropWhile : Decimal.readInt (s.dropWhile isspace) = some (n, rest) ↔
    ∃ sBefore sNr, s = sBefore ++ sNr ++ rest ∧ Blank sBefore ∧ Decimal.IsNumeral sNr n ∧
      ∀ c ∈ rest.head?, ¬ c.isDigit := by
  constructor
  · intro h
    obtain ⟨sNr, hnumeral, hhead, hdrop⟩ := Decimal.readInt_eq_some.mp h
    refine ⟨s.takeWhile isspace, sNr, ?_, fun c hc => List.mem_takeWhile_imp hc, hnumeral, hhead⟩
    rw [List.append_assoc, ← hdrop, List.takeWhile_append_dropWhile]
  · rintro ⟨sBefore, sNr, rfl, hbefore, hnumeral, hhead⟩
    rw [List.append_assoc, List.dropWhile_append_of_pos hbefore]
    obtain ⟨c, sNr, rfl⟩ := List.exists_cons_of_ne_nil hnumeral.ne_nil
    have hc : isspace c = false := isspace_of_mem_isNumeral hnumeral List.mem_cons_self
    rw [List.cons_append, List.dropWhile_cons_of_neg (by simp [hc]), ← List.cons_append]
    exact hnumeral.readInt_append hhead

theorem extractInt32_eq_some : extractInt32 s = some (n, rest) ↔
    Decimal.readInt (s.dropWhile isspace) = some (n, rest) ∧ int32Min ≤ n ∧ n ≤ int32Max := by
  rw [extractInt32]
  split
  · next hread => simp [hread]
  · next m sLeft hread =>
    rw [hread]
    split_ifs with hrange
    · rw [Option.some.injEq, Prod.mk.injEq]
      exact ⟨fun h => ⟨h, h.1 ▸ hrange⟩, fun h => h.1⟩
    · rw [Option.some.injEq, Prod.mk.injEq]
      exact ⟨fun h => h.elim, fun h => absurd (h.1.1 ▸ h.2) hrange⟩

/-- A token is converted exactly if it is a number within the limits. -/
theorem strToNumber_eq_true : strToNumber t true nMin true nMax = (n, true) ↔
    Denotes t n ∧ (int32Min ≤ n ∧ n ≤ int32Max) ∧ nMin ≤ n ∧ n ≤ nMax := by
  constructor
  · intro h
    rw [strToNumber] at h
    split_ifs at h
    · simp at h
    split at h
    · simp at h
    · next oNr sLeft hextract =>
      split_ifs at h with hleft hlow hhigh
      · simp at h
      · simp at h
      · simp at h
      obtain ⟨rfl, -⟩ := Prod.mk.inj h
      obtain ⟨hread, hrange⟩ := extractInt32_eq_some.mp hextract
      obtain ⟨sBefore, sNr, rfl, hbefore, hnumeral, -⟩ := readInt_dropWhile.mp hread
      have hblank : Blank sLeft := by
        rw [← findsString_eq_false]
        by_cases hnil : sLeft = []
        · rw [hnil]
          rfl
        · exact Bool.eq_false_of_not_eq_true fun hfinds => hleft ⟨hnil, hfinds⟩
      simp only [true_and, not_lt] at hlow hhigh
      exact ⟨⟨sBefore, sNr, sLeft, rfl, hbefore, hblank, hnumeral⟩, hrange, hlow, hhigh⟩
  · rintro ⟨⟨sBefore, sNr, sAfter, rfl, hbefore, hafter, hnumeral⟩, hrange, hlow, hhigh⟩
    have hextract : extractInt32 (sBefore ++ sNr ++ sAfter) = some (n, sAfter) :=
      extractInt32_eq_some.mpr ⟨readInt_dropWhile.mpr
        ⟨sBefore, sNr, rfl, hbefore, hnumeral, hafter.head_not_isDigit⟩, hrange⟩
    have hne : sBefore ++ sNr ++ sAfter ≠ [] := by
      simp [hnumeral.ne_nil]
    have hfinds : findsString sAfter = false := findsString_eq_false.mpr hafter
    rw [strToNumber, if_neg hne]
    simp only [hextract]
    rw [if_neg (by simp [hfinds]), if_neg (by omega), if_neg (by omega)]

/-- A token with text after its number is no number. -/
theorem TextAfterNumber.not_denotes (h : TextAfterNumber t) : ¬ Denotes t n := by
  obtain ⟨sBefore, sNr, sAfter, m, ht, hbefore, hafter, hnumeral, hhead⟩ := h
  rintro ⟨sBefore', sNr', sAfter', ht', hbefore', hafter', hnumeral'⟩
  have hread : Decimal.readInt (t.dropWhile isspace) = some (m, sAfter) :=
    readInt_dropWhile.mpr ⟨sBefore, sNr, ht, hbefore, hnumeral, hhead⟩
  have hread' : Decimal.readInt (t.dropWhile isspace) = some (n, sAfter') :=
    readInt_dropWhile.mpr ⟨sBefore', sNr', ht', hbefore', hnumeral', hafter'.head_not_isDigit⟩
  rw [hread] at hread'
  obtain ⟨-, rfl⟩ := Prod.mk.inj (Option.some.inj hread')
  exact hafter hafter'

end Numbers

/-! ### Vectors -/

namespace VectorLimits

variable (l : VectorLimits) {s t : List Char} {ts : List (List Char)} {ns : List ℤ} {n : ℤ}

/-- `stringToVector` with the limits. -/
def parse (sStr : List Char) : List ℤ :=
  stringToVector sStr l.nMinSize l.nMaxSize l.nMinValue l.nMaxValue l.nDefaultValue

/-- The vector cut at the maximal size and padded up to the minimal one. -/
def fit (ns : List ℤ) : List ℤ :=
  let aArr := ns.take l.nMaxSize.toNat
  aArr ++ List.replicate (l.nMinSize - aArr.length).toNat l.nDefaultValue

/-- The number that a token contributes. -/
def value (sToken : List Char) : Option ℤ :=
  let oPair := strToNumber sToken true l.nMinValue true l.nMaxValue
  if oPair.2 then some oPair.1 else none

variable {l}

theorem value_eq_some : l.value t = some n ↔
    Denotes t n ∧ l.nMinValue ≤ n ∧ n ≤ l.nMaxValue := by
  have hlow := l.int32Min_le
  have hhigh := l.nMaxValue_le
  have hvalue : l.value t = some n ↔
      strToNumber t true l.nMinValue true l.nMaxValue = (n, true) := by
    rcases hpair : strToNumber t true l.nMinValue true l.nMaxValue with ⟨m, _ | _⟩ <;>
      simp [value, hpair]
  rw [hvalue, strToNumber_eq_true]
  refine and_congr_right fun _ => ⟨And.right, fun h => ⟨⟨?_, ?_⟩, h⟩⟩
  · exact hlow.trans h.1
  · exact h.2.trans hhigh

theorem value_eq_none (h : ¬ ∃ n, Denotes t n ∧ int32Min ≤ n ∧ n ≤ int32Max) :
    l.value t = none := by
  rw [Option.eq_none_iff_forall_ne_some]
  intro n hn
  obtain ⟨hdenotes, hlow, hhigh⟩ := value_eq_some.mp hn
  exact h ⟨n, hdenotes, l.int32Min_le.trans hlow, hhigh.trans l.nMaxValue_le⟩

theorem value_nil : l.value [] = none := rfl

theorem addToken_eq (ns : List ℤ) (t : List Char) :
    addToken l.nMaxSize l.nMinValue l.nMaxValue (ns.take l.nMaxSize.toNat) t =
      (ns ++ (l.value t).toList).take l.nMaxSize.toNat := by
  have hsize := l.one_le_nMaxSize
  cases hvalue : l.value t with
  | none =>
    have hpair : (strToNumber t true l.nMinValue true l.nMaxValue).2 = false := by
      by_contra hpair
      simp [value, hpair] at hvalue
    simp [addToken, hpair]
  | some n =>
    have hrange := (value_eq_some.mp hvalue).2
    have hpair : strToNumber t true l.nMinValue true l.nMaxValue = (n, true) :=
      strToNumber_eq_true.mpr ⟨(value_eq_some.mp hvalue).1,
        ⟨l.int32Min_le.trans hrange.1, hrange.2.trans l.nMaxValue_le⟩, hrange⟩
    rw [addToken, hpair, Option.toList_some]
    simp only [true_and, if_neg (not_lt.mpr hrange.1), if_neg (not_lt.mpr hrange.2)]
    by_cases hfull : ns.length < l.nMaxSize.toNat
    · rw [if_pos (by rw [List.length_take]; omega), List.take_of_length_le (by omega),
        List.take_of_length_le (by rw [List.length_append, List.length_singleton]; omega)]
    · rw [if_neg (by rw [List.length_take]; omega), List.take_append_of_le_length (by omega)]

/-- The collector keeps the numbers of the tokens up to the maximal size. -/
theorem foldl_addToken (ns : List ℤ) (ts : List (List Char)) :
    ts.foldl (addToken l.nMaxSize l.nMinValue l.nMaxValue) (ns.take l.nMaxSize.toNat) =
      (ns ++ ts.filterMap l.value).take l.nMaxSize.toNat := by
  induction ts generalizing ns with
  | nil => simp
  | cons t ts ih =>
    rw [List.foldl_cons, addToken_eq, ih, List.append_assoc, List.filterMap_cons]
    cases l.value t <;> rfl

/-- The vector consists of the numbers of the tokens, cut and padded. -/
theorem parse_eq (s : List Char) : l.parse s = l.fit ((s.splitOn ',').filterMap l.value) := by
  have htokens : (s.splitOn ',').filterMap l.value = (tokenizer s ',').filterMap l.value := by
    rcases tokenizer_cases s with h | h
    · rw [h]
    · rw [h, List.filterMap_append, List.filterMap_cons, value_nil, List.filterMap_nil,
        List.append_nil]
  have hfold := foldl_addToken (l := l) [] (tokenizer s ',')
  rw [List.take_nil, List.nil_append] at hfold
  rw [parse, stringToVector, hfold, ← htokens]
  rfl

theorem length_fit (ns : List ℤ) :
    ((l.fit ns).length : ℤ) = max l.nMinSize (min l.nMaxSize ns.length) := by
  have hmin := l.nMinSize_le
  have hsize := l.one_le_nMaxSize
  simp only [fit, List.length_append, List.length_replicate, List.length_take]
  omega

theorem mem_fit (h : n ∈ l.fit ns) : n ∈ ns ∨ n = l.nDefaultValue := by
  rcases List.mem_append.mp h with h | h
  · exact .inl (List.mem_of_mem_take h)
  · exact .inr (List.eq_of_mem_replicate h)

theorem fit_eq_take (hmin : l.nMinSize ≤ ns.length) : l.fit ns = ns.take l.nMaxSize.toNat := by
  have hsizes := l.nMinSize_le
  have hlength : l.nMinSize - (ns.take l.nMaxSize.toNat).length ≤ 0 := by
    rw [List.length_take]
    omega
  rw [fit, Int.toNat_of_nonpos hlength, List.replicate_zero, List.append_nil]

theorem parse_intercalate (hts : ∀ t ∈ ts, ',' ∉ t) :
    l.parse ([','].intercalate ts) = l.fit (ts.filterMap l.value) := by
  rw [parse_eq]
  by_cases hnil : ts = []
  · rw [hnil]
    rfl
  · rw [List.splitOn_intercalate ',' hts hnil]

/-- A token without a value may be left out. -/
theorem parse_of_value_eq_none {ts₁ ts₂ : List (List Char)} (hs : s.splitOn ',' = ts₁ ++ t :: ts₂)
    (ht : l.value t = none) : l.parse s = l.parse ([','].intercalate (ts₁ ++ ts₂)) := by
  have hmem : ∀ t' ∈ ts₁ ++ ts₂, ',' ∉ t' := by
    intro t' ht'
    refine not_mem_of_mem_splitOn (s := s) ?_
    rw [hs]
    simp only [List.mem_append, List.mem_cons] at ht' ⊢
    tauto
  rw [parse_intercalate hmem, parse_eq, hs, List.filterMap_append, List.filterMap_append,
    List.filterMap_cons_none ht]

theorem filterMap_value (h : List.Forall₂ Denotes ts ns)
    (hns : ∀ n ∈ ns, l.nMinValue ≤ n ∧ n ≤ l.nMaxValue) : ts.filterMap l.value = ns := by
  induction h with
  | nil => rfl
  | cons hdenotes _ ih =>
    have hvalue := value_eq_some.mpr ⟨hdenotes, hns _ List.mem_cons_self⟩
    rw [List.filterMap_cons_some hvalue, ih fun n hn => hns n (List.mem_cons_of_mem _ hn)]

theorem length_parse (s : List Char) :
    l.nMinSize ≤ (l.parse s).length ∧ (l.parse s).length ≤ l.nMaxSize := by
  have hlength := length_fit (l := l) ((s.splitOn ',').filterMap l.value)
  have hmin := l.nMinSize_le
  rw [← parse_eq] at hlength
  omega

theorem bounds_of_mem_parse (hn : n ∈ l.parse s) : l.nMinValue ≤ n ∧ n ≤ l.nMaxValue := by
  rw [parse_eq] at hn
  rcases mem_fit hn with hn | rfl
  · obtain ⟨t, -, ht⟩ := List.mem_filterMap.mp hn
    exact (value_eq_some.mp ht).2
  · exact ⟨l.nMinValue_le, l.nDefaultValue_le⟩

/-- `stringToVector` keeps to its limits whatever the string is, takes nothing from a token that is
no number, and returns the numbers if all tokens are numbers within the limits. The text after the
last separator is a token unless it is empty. -/
theorem stringToVector_robust (l : VectorLimits) (s : List Char) :
    (l.nMinSize ≤ (l.parse s).length ∧ (l.parse s).length ≤ l.nMaxSize) ∧
      (∀ n ∈ l.parse s, l.nMinValue ≤ n ∧ n ≤ l.nMaxValue) ∧
      (∀ ts₁ t ts₂, s.splitOn ',' = ts₁ ++ t :: ts₂ →
        (TextAfterNumber t ∨ ¬ ∃ n, Denotes t n ∧ int32Min ≤ n ∧ n ≤ int32Max) →
        l.parse s = l.parse ([','].intercalate (ts₁ ++ ts₂))) ∧
      ∀ ts ns, (s.splitOn ',' = ts ∨ s.splitOn ',' = ts ++ [[]]) → List.Forall₂ Denotes ts ns →
        (∀ n ∈ ns, l.nMinValue ≤ n ∧ n ≤ l.nMaxValue) →
        l.parse s = ns.take l.nMaxSize.toNat ++
          List.replicate (l.nMinSize - (ns.take l.nMaxSize.toNat).length).toNat
            l.nDefaultValue := by
  refine ⟨length_parse s, fun n hn => bounds_of_mem_parse hn, fun ts₁ t ts₂ hs ht => ?_,
    fun ts ns hs hdenotes hns => ?_⟩
  · refine parse_of_value_eq_none hs (value_eq_none ?_)
    rcases ht with ht | ht
    · rintro ⟨n, hn, -⟩
      exact ht.not_denotes hn
    · exact ht
  · have hvalues : (s.splitOn ',').filterMap l.value = ns := by
      rcases hs with hs | hs
      · rw [hs, filterMap_value hdenotes hns]
      · rw [hs, List.filterMap_append, filterMap_value hdenotes hns,
          List.filterMap_cons_none value_nil, List.filterMap_nil, List.append_nil]
    rw [parse_eq, hvalues, fit]

example : stringToVector " 3,5x, +12 ,99999999999,7,".toList 4 4 1 1000 10 = [3, 12, 7, 10] := by
  decide

/-- What is stored comes back, cut and padded. -/
theorem parse_vectorToString (hns : ∀ n ∈ ns, l.nMinValue ≤ n ∧ n ≤ l.nMaxValue) :
    l.parse (vectorToString ns) = l.fit ns := by
  have htokens : ∀ t ∈ ns.map Decimal.numeral, ',' ∉ t := by
    intro t ht hcomma
    obtain ⟨n, -, rfl⟩ := List.mem_map.mp ht
    rcases (Decimal.isNumeral_numeral n).digit_or_sign hcomma with h | h | h <;> revert h <;> decide
  have hdenotes : List.Forall₂ Denotes (ns.map Decimal.numeral) ns := by
    rw [List.forall₂_map_left_iff, List.forall₂_same]
    intro n _
    exact ⟨[], Decimal.numeral n, [], by simp, by simp [Blank], by simp [Blank],
      Decimal.isNumeral_numeral n⟩
  rw [vectorToString_eq, parse_intercalate htokens, filterMap_value hdenotes hns]

/-- A vector within the limits comes back as it is. -/
theorem parse_vectorToString_eq_self (hmin : l.nMinSize ≤ ns.length)
    (hmax : ns.length ≤ l.nMaxSize) (hns : ∀ n ∈ ns, l.nMinValue ≤ n ∧ n ≤ l.nMaxValue) :
    l.parse (vectorToString ns) = ns := by
  rw [parse_vectorToString hns, fit_eq_take hmin, List.take_of_length_le (by omega)]

end VectorLimits

end StmmInputBt
