import Mathlib.Data.List.Infix
import Mathlib.Tactic.Common

/-!
# Bytes that are a text

A string of bytes is a text if it is the UTF-8 encoding of characters without a NUL.

## Main definitions

* `EncodesText`: the bytes are those of a text.
* `decodeText`: the text of the bytes.

## Main results

* `EncodesText.unique`, `encodesText_append_newline`.
* `decodeText_eq_some_iff`.
-/

namespace StmmInputBt

/-- The bytes are the UTF-8 encoding of the text, which holds no NUL. -/
structure EncodesText (aByte : ByteArray) (s : List Char) : Prop where
  utf8Encode_eq : s.utf8Encode = aByte
  nul_notMem : '\x00' ∉ s

/-- The text of the bytes, if they are those of one. -/
def decodeText (aByte : ByteArray) : Option (List Char) :=
  (aByte.utf8Decode?.map Array.toList).filter fun s => !s.contains '\x00'

/-- The encoding of a newline. -/
def newlineBytes : ByteArray := "\n".toUTF8

variable {aByte : ByteArray} {s t : List Char} {c : Char}

theorem newlineBytes_eq : newlineBytes = ['\n'].utf8Encode := String.utf8Encode_toList.symm

theorem utf8EncodeChar_newline : String.utf8EncodeChar '\n' = [10] := rfl

theorem EncodesText.unique (hs : EncodesText aByte s) (ht : EncodesText aByte t) : s = t := by
  have hdecode := congrArg ByteArray.utf8Decode? (hs.utf8Encode_eq.trans ht.utf8Encode_eq.symm)
  simpa using hdecode

theorem decodeText_eq_some_iff : decodeText aByte = some s ↔ EncodesText aByte s := by
  rw [decodeText, Option.filter_eq_some_iff, Option.map_eq_some_iff]
  constructor
  · rintro ⟨⟨a, hdecode, rfl⟩, hnul⟩
    obtain ⟨t, rfl⟩ := ByteArray.isSome_utf8Decode?_iff.mp (Option.isSome_of_eq_some hdecode)
    rw [List.utf8Decode?_utf8Encode, Option.some.injEq] at hdecode
    subst hdecode
    exact ⟨rfl, by simpa using hnul⟩
  · rintro ⟨rfl, hnul⟩
    exact ⟨⟨s.toArray, List.utf8Decode?_utf8Encode, rfl⟩, by simpa using hnul⟩

/-- Only the encoding of a newline ends with the byte of a newline. -/
theorem eq_newline_of_getLast? (h : (String.utf8EncodeChar c).getLast? = some 10) : c = '\n' := by
  have hpos := c.utf8Size_pos
  rw [List.getLast?_eq_getElem?, String.length_utf8EncodeChar] at h
  -- the byte is a first one, so it is the only one
  have hfirst : c.utf8Size - 1 = 0 := by
    obtain ⟨hlt, hget⟩ := List.getElem?_eq_some_iff.mp h
    rw [← @UInt8.isUTF8FirstByte_getElem_utf8EncodeChar c _ hlt, hget]
    decide
  have hsize : c.utf8Size = 1 := by omega
  rw [String.utf8EncodeChar_eq_singleton hsize, hfirst, List.getElem?_cons_zero,
    Option.some.injEq] at h
  have hle := UInt32.le_iff_toNat_le.mp (Char.utf8Size_eq_one_iff.mp hsize)
  have hval := congrArg UInt8.toNat h
  rw [UInt32.toNat_toUInt8] at hval
  refine Char.ext (UInt32.toNat_inj.mp ?_)
  change c.val.toNat = 10
  change c.val.toNat % 2 ^ 8 = 10 at hval
  change c.val.toNat ≤ 127 at hle
  omega

theorem utf8Encode_concat_newline : (s ++ ['\n']).utf8Encode = s.utf8Encode ++ newlineBytes := by
  rw [List.utf8Encode_append, newlineBytes_eq]

theorem eq_concat_newline (h : t.utf8Encode = aByte ++ newlineBytes) :
    ∃ s, t = s ++ ['\n'] ∧ s.utf8Encode = aByte := by
  rcases List.eq_nil_or_concat t with rfl | ⟨s, c, rfl⟩
  · have hsize := congrArg ByteArray.size h
    rw [ByteArray.size_append] at hsize
    simp [newlineBytes_eq, List.utf8Encode_singleton, utf8EncodeChar_newline] at hsize
  · rw [List.concat_eq_append] at h ⊢
    have hlast := congrArg (fun a => a.data.toList.getLast?) h
    obtain rfl : c = '\n' := by
      have hsome := List.getLast?_eq_some_getLast (@String.utf8EncodeChar_ne_nil c)
      refine eq_newline_of_getLast? (hsome.trans ?_)
      simpa [newlineBytes_eq, List.utf8Encode_singleton, utf8EncodeChar_newline, hsome] using hlast
    rw [utf8Encode_concat_newline, ByteArray.append_left_inj] at h
    exact ⟨s, rfl, h⟩

/-- A string with a newline added is a text exactly if the string is. -/
theorem encodesText_append_newline :
    EncodesText (aByte ++ newlineBytes) t ↔ ∃ s, t = s ++ ['\n'] ∧ EncodesText aByte s := by
  constructor
  · rintro ⟨hencode, hnul⟩
    obtain ⟨s, rfl, hs⟩ := eq_concat_newline hencode
    exact ⟨s, rfl, hs, fun h => hnul (List.mem_append_left _ h)⟩
  · rintro ⟨s, rfl, hencode, hnul⟩
    refine ⟨by rw [utf8Encode_concat_newline, hencode], fun h => ?_⟩
    rcases List.mem_append.mp h with h | h
    · exact hnul h
    · exact absurd (List.mem_singleton.mp h) (by decide)

end StmmInputBt
