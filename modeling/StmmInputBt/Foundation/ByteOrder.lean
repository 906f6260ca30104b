import Mathlib.Tactic

/-!
# 32-bit words in memory

A 32-bit word occupies four bytes of memory, the least significant one first on a little-endian
host and last on a big-endian one. `ByteOrder.load` reads a word from four bytes and
`ByteOrder.store` writes it; `byteSwap` reverses the bytes of a word.

## Main results

* `ByteOrder.load_store`: a host reads back what it wrote.
* `ByteOrder.load_store_ne`: a host of the other order reads the word with its bytes reversed.
* `ByteOrder.ofLittle_load`: reading in host order and converting from little-endian gives the
  little-endian word on every host.
-/

/-- One byte of memory. -/
abbrev Byte := BitVec 8

/-- Four bytes at consecutive addresses. -/
structure Bytes4 where
  b0 : Byte
  b1 : Byte
  b2 : Byte
  b3 : Byte
  deriving DecidableEq

/-- The order in which a host keeps the bytes of a word. -/
inductive ByteOrder
  | little
  | big
  deriving DecidableEq

/-- The word with its four bytes reversed. -/
def byteSwap (x : BitVec 32) : BitVec 32 :=
  x.extractLsb' 0 8 ++ x.extractLsb' 8 8 ++ x.extractLsb' 16 8 ++ x.extractLsb' 24 8

namespace ByteOrder

/-- Read a word from memory. -/
def load : ByteOrder → Bytes4 → BitVec 32
  | .little, b => b.b3 ++ b.b2 ++ b.b1 ++ b.b0
  | .big, b => b.b0 ++ b.b1 ++ b.b2 ++ b.b3

/-- Write a word to memory. -/
def store : ByteOrder → BitVec 32 → Bytes4
  | .little, x => ⟨x.extractLsb' 0 8, x.extractLsb' 8 8, x.extractLsb' 16 8, x.extractLsb' 24 8⟩
  | .big, x => ⟨x.extractLsb' 24 8, x.extractLsb' 16 8, x.extractLsb' 8 8, x.extractLsb' 0 8⟩

/-- Convert a word that was read in host order from little-endian memory. -/
def ofLittle : ByteOrder → BitVec 32 → BitVec 32
  | .little, x => x
  | .big, x => byteSwap x

/-- A word is the concatenation of its four bytes. -/
theorem append_extractLsb' (x : BitVec 32) :
    x.extractLsb' 24 8 ++ x.extractLsb' 16 8 ++ x.extractLsb' 8 8 ++ x.extractLsb' 0 8 = x := by
  ext i hi
  simp only [BitVec.getElem_append, BitVec.getElem_extractLsb']
  split_ifs <;> simp <;> grind

theorem extractLsb'_append (a b c d : Byte) :
    (a ++ b ++ c ++ d).extractLsb' 0 8 = d ∧ (a ++ b ++ c ++ d).extractLsb' 8 8 = c ∧
      (a ++ b ++ c ++ d).extractLsb' 16 8 = b ∧ (a ++ b ++ c ++ d).extractLsb' 24 8 = a := by
  refine ⟨?_, ?_, ?_, ?_⟩ <;> ext i hi <;>
    simp only [BitVec.getElem_extractLsb', BitVec.getLsbD_append] <;> grind

/-- A host reads back the word it wrote. -/
theorem load_store (o : ByteOrder) (x : BitVec 32) : o.load (o.store x) = x := by
  cases o <;> exact append_extractLsb' x

/-- A host writes the bytes that it read. -/
theorem store_load (o : ByteOrder) (b : Bytes4) : o.store (o.load b) = b := by
  cases o with
  | little =>
    obtain ⟨h0, h1, h2, h3⟩ := extractLsb'_append b.b3 b.b2 b.b1 b.b0
    simp only [store, load, h0, h1, h2, h3]
  | big =>
    obtain ⟨h0, h1, h2, h3⟩ := extractLsb'_append b.b0 b.b1 b.b2 b.b3
    simp only [store, load, h0, h1, h2, h3]

/-- A host of the other byte order reads the word with its bytes reversed. -/
theorem load_store_ne {o o' : ByteOrder} (h : o ≠ o') (x : BitVec 32) :
    o.load (o'.store x) = byteSwap x := by
  cases o <;> cases o' <;> first | exact absurd rfl h | rfl

/-- Reading in host order and converting gives the little-endian word on every host. -/
theorem ofLittle_load (o : ByteOrder) (b : Bytes4) : o.ofLittle (o.load b) = little.load b := by
  cases o with
  | little => rfl
  | big =>
    obtain ⟨h0, h1, h2, h3⟩ := extractLsb'_append b.b0 b.b1 b.b2 b.b3
    simp only [ofLittle, load, byteSwap, h0, h1, h2, h3]

end ByteOrder
