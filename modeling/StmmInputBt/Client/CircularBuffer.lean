import Mathlib.Tactic

/-!
# The ring buffer of the client

The class template `CircularBuffer` of `stmm-input-btkb/src/circularbuffer.h`. The asserts of its
operations are no-ops, so `write` is defined on a full buffer too: it overwrites the oldest value
and makes the count exceed the capacity.

The buffer is meant as a bounded queue. `contents` lists what `peekValue` shows, the oldest value
first; within their contracts the operations act on it as those of a queue.

## Main definitions

* `CircularBuffer`, `CircularBuffer.read`, `CircularBuffer.write`, `CircularBuffer.clear`.
* `CircularBuffer.Wf`: the counters of a buffer fit each other.
* `CircularBuffer.contents`: the queue that a buffer stands for.

## Main results

* `CircularBuffer.contents_write`, `CircularBuffer.contents_eq_cons`,
  `CircularBuffer.contents_clear`: the operations on the queue.
-/

namespace StmmInputBt

/-- A fixed number of slots, of which `count` are taken from `readIdx` on. -/
structure CircularBuffer (T : Type*) where
  count : ℕ
  readIdx : ℕ
  writeIdx : ℕ
  aT : List T

namespace CircularBuffer

variable {T : Type*} [Inhabited T]

/-- The constructor. -/
def new (nSize : ℕ) : CircularBuffer T := ⟨0, 0, 0, List.replicate nSize default⟩

def capacity (b : CircularBuffer T) : ℕ := b.aT.length

def clear (b : CircularBuffer T) : CircularBuffer T :=
  { b with count := 0, readIdx := 0, writeIdx := 0 }

def isEmpty (b : CircularBuffer T) : Bool := b.count = 0

def isFull (b : CircularBuffer T) : Bool := b.count = b.aT.length

/-- The next index, with wrap-around. -/
def next (b : CircularBuffer T) (nIdx : ℕ) : ℕ := if nIdx + 1 = b.aT.length then 0 else nIdx + 1

/-- Remove the oldest value. -/
def read (b : CircularBuffer T) : T × CircularBuffer T :=
  (b.aT.getD b.readIdx default, { b with readIdx := b.next b.readIdx, count := b.count - 1 })

/-- Add a value. -/
def write (oT : T) (b : CircularBuffer T) : CircularBuffer T :=
  { b with
    aT := b.aT.set b.writeIdx oT
    writeIdx := b.next b.writeIdx
    count := b.count + 1 }

def size (b : CircularBuffer T) : ℕ := b.count

/-- The slot of the value with a given index, `0` being the oldest one. -/
def slot (b : CircularBuffer T) (nIdx : ℕ) : ℕ :=
  let nReadIdx := b.readIdx + nIdx
  let nCapacity := b.aT.length
  if nCapacity ≤ nReadIdx then nReadIdx - nCapacity else nReadIdx

def peekValue (b : CircularBuffer T) (nIdx : ℕ) : T := b.aT.getD (b.slot nIdx) default

/-- The values in the buffer, the oldest one first. -/
def contents (b : CircularBuffer T) : List T := (List.range b.size).map b.peekValue

/-- The indices point into the slots, the count is at most their number and the two indices lie
`count` slots apart. -/
structure Wf (b : CircularBuffer T) : Prop where
  readIdx_lt : b.readIdx < b.capacity
  count_le : b.count ≤ b.capacity
  writeIdx_eq : b.writeIdx = b.slot b.count

variable {b : CircularBuffer T}

omit [Inhabited T] in
@[simp] theorem isEmpty_iff : b.isEmpty ↔ b.count = 0 := by simp [isEmpty]

omit [Inhabited T] in
@[simp] theorem isFull_iff : b.isFull ↔ b.count = b.capacity := by simp [isFull, capacity]

@[simp] theorem length_contents : b.contents.length = b.count := by simp [contents, size]

@[simp] theorem capacity_read : b.read.2.capacity = b.capacity := rfl

omit [Inhabited T] in
@[simp] theorem capacity_write (x : T) : (b.write x).capacity = b.capacity := by
  simp [write, capacity]

omit [Inhabited T] in
@[simp] theorem count_write (x : T) : (b.write x).count = b.count + 1 := rfl

@[simp] theorem count_read : b.read.2.count = b.count - 1 := rfl

/-! ### The counters -/

theorem wf_new {nSize : ℕ} (h : 0 < nSize) : (new nSize : CircularBuffer T).Wf := by
  refine ⟨by simpa [new, capacity] using h, Nat.zero_le _, ?_⟩
  simp [new, slot, h.ne']

omit [Inhabited T] in
theorem Wf.capacity_pos (h : b.Wf) : 0 < b.capacity := h.readIdx_lt.pos

omit [Inhabited T] in
theorem Wf.slot_lt (h : b.Wf) {i : ℕ} (hi : i ≤ b.count) : b.slot i < b.capacity := by
  have hread := h.readIdx_lt
  have hcount := h.count_le
  simp only [slot, capacity] at hread hcount ⊢
  split_ifs <;> omega

omit [Inhabited T] in
theorem Wf.clear (h : b.Wf) : b.clear.Wf := by
  refine ⟨h.capacity_pos, Nat.zero_le _, ?_⟩
  simp [slot, CircularBuffer.clear]

omit [Inhabited T] in
/-- Stepping an index steps the slot. -/
theorem Wf.next_slot (h : b.Wf) {i : ℕ} (hi : i < b.capacity) :
    b.next (b.slot i) = b.slot (i + 1) := by
  have := h.readIdx_lt
  simp only [next, slot, capacity] at this hi ⊢
  split_ifs <;> omega

omit [Inhabited T] in
theorem slot_write (x : T) (i : ℕ) : (b.write x).slot i = b.slot i := by
  simp [slot, write]

theorem Wf.slot_read (h : b.Wf) {i : ℕ} (hi : i < b.capacity) :
    b.read.2.slot i = b.slot (i + 1) := by
  have := h.readIdx_lt
  simp only [slot, read, next, capacity] at this hi ⊢
  split_ifs <;> omega

omit [Inhabited T] in
theorem Wf.write (h : b.Wf) (hfull : ¬ b.isFull) (x : T) : (b.write x).Wf := by
  have hlt : b.count < b.capacity := lt_of_le_of_ne h.count_le fun e => hfull (isFull_iff.mpr e)
  refine ⟨by simpa [CircularBuffer.write, capacity] using h.readIdx_lt, by simpa using hlt, ?_⟩
  rw [slot_write, count_write, ← h.next_slot hlt, ← h.writeIdx_eq]
  rfl

theorem Wf.read (h : b.Wf) (hempty : ¬ b.isEmpty) : b.read.2.Wf := by
  have hpos : b.count ≠ 0 := fun e => hempty (isEmpty_iff.mpr e)
  have hle := h.count_le
  have hlt := h.readIdx_lt
  have hnext : b.next b.readIdx < b.capacity := by
    simp only [next, capacity] at hlt ⊢
    split_ifs <;> omega
  refine ⟨hnext, by simpa using by omega, ?_⟩
  rw [count_read, h.slot_read (by omega), Nat.sub_add_cancel (by omega)]
  exact h.writeIdx_eq

/-! ### The queue -/

@[simp] theorem contents_clear : b.clear.contents = [] := rfl

theorem contents_eq_nil : b.contents = [] ↔ b.isEmpty := by
  rw [← List.length_eq_zero_iff, length_contents, isEmpty_iff]

omit [Inhabited T] in
/-- Different indices lie in different slots. -/
theorem Wf.slot_ne (h : b.Wf) {i j : ℕ} (hij : i < j) (hj : j < b.capacity) :
    b.slot i ≠ b.slot j := by
  have hread := h.readIdx_lt
  simp only [slot, capacity] at hread hj ⊢
  split_ifs <;> omega

/-- A value written to a buffer that is not full becomes the last one. -/
theorem Wf.contents_write (h : b.Wf) (hfull : ¬ b.isFull) (x : T) :
    (b.write x).contents = b.contents ++ [x] := by
  have hlt : b.count < b.capacity := lt_of_le_of_ne h.count_le fun e => hfull (isFull_iff.mpr e)
  have hold : ∀ i ∈ List.range b.count, (b.write x).peekValue i = b.peekValue i := by
    intro i hi
    rw [peekValue, slot_write, CircularBuffer.write, peekValue]
    have hne : b.writeIdx ≠ b.slot i := by
      rw [h.writeIdx_eq]
      exact (h.slot_ne (List.mem_range.mp hi) hlt).symm
    simp [List.getD_eq_getElem?_getD, hne]
  have hnew : (b.write x).peekValue b.count = x := by
    rw [peekValue, slot_write, ← h.writeIdx_eq, CircularBuffer.write]
    have hw : b.writeIdx < b.aT.length := h.writeIdx_eq ▸ h.slot_lt le_rfl
    simp [List.getD_eq_getElem?_getD, hw]
  simp only [contents, size, count_write, List.range_succ, List.map_append, List.map_cons,
    List.map_nil, List.map_congr_left hold, hnew]

/-- Reading takes the oldest value. -/
theorem Wf.contents_eq_cons (h : b.Wf) (hempty : ¬ b.isEmpty) :
    b.contents = b.read.1 :: b.read.2.contents := by
  obtain ⟨n, hn⟩ := Nat.exists_eq_succ_of_ne_zero fun e => hempty (isEmpty_iff.mpr e)
  have hle := h.count_le
  have hpeek : ∀ i ∈ List.range n, b.read.2.peekValue i = b.peekValue (i + 1) := by
    intro i hi
    have := List.mem_range.mp hi
    rw [peekValue, h.slot_read (by omega), peekValue]
    rfl
  have hfirst : b.peekValue 0 = b.read.1 := by
    have hslot : b.slot 0 = b.readIdx := if_neg (not_le.mpr h.readIdx_lt)
    rw [peekValue, hslot]
    rfl
  simp only [contents, size, count_read, hn, Nat.succ_eq_add_one, Nat.add_sub_cancel,
    List.map_congr_left hpeek, List.range_succ_eq_map, List.map_cons, List.map_map, hfirst]
  rfl

end CircularBuffer

end StmmInputBt
