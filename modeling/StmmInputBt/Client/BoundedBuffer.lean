import StmmInputBt.Client.CircularBuffer
import StmmInputBt.Foundation.BoundedQueue
import StmmInputBt.Settings.NumberList

/-!
# The ring buffer as a bounded queue

Within the contracts of its operations a `CircularBuffer` is a bounded queue. Its counters never
leave the range of an `int32_t`, but `peekValue` adds two of them before it wraps the sum around:
with more than `2 ^ 30` slots the sum of the two can be too large.

## Main definitions

* `CircularBuffer.peekInt32`: `peekValue` with an `int32_t` sum.
* `BufferOp`, `CircularBuffer.perform`: the operations with their contracts.
* `CircularBuffer.Agrees`, `CircularBuffer.RefinesQueue`: the buffer behaves as the queue.

## Main results

* `CircularBuffer.refinesQueue_iff`.
-/

namespace StmmInputBt

/-- What is done to a buffer of values. -/
inductive BufferOp (T : Type)
  /-- `write` with a value to copy. -/
  | write (oT : T)
  /-- `write` with a value to move. -/
  | writeMove (oT : T)
  /-- `read`, with what the move leaves in the slot. -/
  | read (oLeft : T)
  | clear

/-- The same for a queue. -/
def BufferOp.toQueue {T : Type} : BufferOp T → BoundedQueue.Op T
  | .write oT => .enqueue oT
  | .writeMove oT => .enqueue oT
  | .read _ => .dequeue
  | .clear => .clear

/-- A positive size of type `int32_t`. -/
structure BufferSize where
  nSize : ℕ
  pos : 0 < nSize
  le_int32Max : nSize ≤ int32Max

namespace CircularBuffer

variable {T : Type} [Inhabited T]

/-- `write` of a value that is moved. -/
def writeMove (oT : T) (b : CircularBuffer T) : CircularBuffer T := b.write oT

/-- `read`, where the value is moved out of its slot. -/
def readMove (oLeft : T) (b : CircularBuffer T) : T × CircularBuffer T :=
  (b.read.1, { b.read.2 with aT := b.aT.set b.readIdx oLeft })

/-- `peekValue`, unless the sum of the two indices is no `int32_t`. -/
def peekInt32 (b : CircularBuffer T) (nIdx : ℕ) : Option T :=
  if (b.readIdx + nIdx : ℤ) ≤ int32Max then some (b.peekValue nIdx) else none

/-- One operation within its contract. -/
def perform (b : CircularBuffer T) : BufferOp T → Except BoundedQueue.Misuse (CircularBuffer T)
  | .write oT => if b.isFull then .error .full else .ok (b.write oT)
  | .writeMove oT => if b.isFull then .error .full else .ok (b.writeMove oT)
  | .read oLeft => if b.isEmpty then .error .empty else .ok (b.readMove oLeft).2
  | .clear => .ok b.clear

/-- The way in which `sendKeyToServer` writes. -/
def overwrite (b : CircularBuffer T) (oT : T) : CircularBuffer T :=
  (if b.isFull then b.read.2 else b).write oT

/-- The values that `peekValue` shows. -/
def peekAll (b : CircularBuffer T) : List (Option T) := (List.range b.size).map b.peekInt32

/-- The buffer shows the queue. -/
structure Agrees (n : ℕ) (b : CircularBuffer T) (q : List T) : Prop where
  peek : b.peekAll = q.map some
  read : ∀ x ∈ q.head?, ∀ oLeft, (b.readMove oLeft).1 = x
  size : b.size = q.length
  isEmpty : b.isEmpty ↔ q.length = 0
  isFull : b.isFull ↔ q.length = n
  readIdx_lt : b.readIdx < n
  writeIdx_lt : b.writeIdx < n
  writeIdx_eq : b.writeIdx = (b.readIdx + b.count) % n
  overwrite : ∀ ws : List T, (ws.foldl overwrite b).peekAll = ((q ++ ws).rtake n).map some

variable (T) in
/-- Every sequence of operations is within the contracts if it is so for the queue, and the buffer
shows the queue then. -/
def RefinesQueue (n : ℕ) : Prop :=
  ∀ ops : List (BufferOp T), Lockstep (Agrees n) (Run.exec perform (new n) ops)
    (Run.exec (BoundedQueue.step n) [] (ops.map BufferOp.toQueue))

/-- The buffer stands for the queue. -/
structure Holds (n : ℕ) (b : CircularBuffer T) (q : List T) : Prop where
  wf : b.Wf
  capacity : b.capacity = n
  contents : b.contents = q

variable {n : ℕ} {b : CircularBuffer T} {q : List T}

omit [Inhabited T] in
theorem Wf.slot_eq_mod (h : b.Wf) {i : ℕ} (hi : i ≤ b.capacity) :
    b.slot i = (b.readIdx + i) % b.capacity := by
  have hlt := h.readIdx_lt
  rw [capacity] at hlt hi ⊢
  rw [slot]
  split_ifs with hwrap
  · rw [Nat.mod_eq_sub_mod hwrap, Nat.mod_eq_of_lt (by omega)]
  · rw [Nat.mod_eq_of_lt (by omega)]

/-- A slot that no value is in may change. -/
theorem contents_set {i : ℕ} (hfree : ∀ j < b.count, b.slot j ≠ i) (x : T) :
    { b with aT := b.aT.set i x }.contents = b.contents := by
  have hslot : ∀ j, { b with aT := b.aT.set i x }.slot j = b.slot j := by
    intro j
    simp only [slot, List.length_set]
  refine List.map_congr_left fun j hj => ?_
  have hne : i ≠ b.slot j := (hfree j (List.mem_range.mp hj)).symm
  rw [peekValue, hslot, peekValue]
  simp [List.getD_eq_getElem?_getD, hne]

omit [Inhabited T] in
theorem Wf.set (h : b.Wf) (i : ℕ) (x : T) : { b with aT := b.aT.set i x }.Wf := by
  have hread := h.readIdx_lt
  have hcount := h.count_le
  have hwrite := h.writeIdx_eq
  refine ⟨?_, ?_, ?_⟩
  · simpa only [capacity, List.length_set] using hread
  · simpa only [capacity, List.length_set] using hcount
  · simpa only [slot, List.length_set] using hwrite

/-- `peekValue` shows the values as long as the sums of two indices are small enough. -/
theorem Wf.peekAll_eq (h : b.Wf) (hsmall : b.capacity ≤ 2 ^ 30) :
    b.peekAll = b.contents.map some := by
  rw [peekAll, contents, List.map_map]
  refine List.map_congr_left fun i hi => ?_
  have hi' : i < b.count := List.mem_range.mp hi
  have hread := h.readIdx_lt
  have hcount := h.count_le
  have hsum : (b.readIdx + i : ℤ) ≤ int32Max := by
    rw [int32Max]
    omega
  rw [peekInt32, if_pos hsum]
  rfl

theorem capacity_new : (new n : CircularBuffer T).capacity = n := by
  simp [capacity, new]

namespace Holds

theorem length_eq (h : Holds n b q) : q.length = b.count := by
  rw [← h.contents, length_contents]

theorem isEmpty_iff (h : Holds n b q) : b.isEmpty ↔ q.length = 0 := by
  rw [CircularBuffer.isEmpty_iff, h.length_eq]

theorem isFull_iff (h : Holds n b q) : b.isFull ↔ q.length = n := by
  rw [CircularBuffer.isFull_iff, h.length_eq, h.capacity]

theorem write (h : Holds n b q) (hfull : ¬ b.isFull) (x : T) : Holds n (b.write x) (q ++ [x]) :=
  ⟨h.wf.write hfull x, (capacity_write x).trans h.capacity, by
    rw [h.wf.contents_write hfull, h.contents]⟩

theorem read (h : Holds n b q) (hempty : ¬ b.isEmpty) : Holds n b.read.2 q.tail := by
  refine ⟨h.wf.read hempty, capacity_read.trans h.capacity, ?_⟩
  rw [← h.contents, h.wf.contents_eq_cons hempty, List.tail_cons]

theorem readMove (h : Holds n b q) (hempty : ¬ b.isEmpty) (oLeft : T) :
    Holds n (b.readMove oLeft).2 q.tail := by
  have hread := h.read hempty
  have hcount : 0 < b.count :=
    Nat.pos_of_ne_zero fun hzero => hempty (CircularBuffer.isEmpty_iff.mpr hzero)
  have hle := h.wf.count_le
  have hfree : ∀ j < b.read.2.count, b.read.2.slot j ≠ b.readIdx := by
    intro j hj
    rw [count_read] at hj
    have hfirst : b.slot 0 = b.readIdx := if_neg (not_le.mpr h.wf.readIdx_lt)
    rw [h.wf.slot_read (by omega), ← hfirst]
    exact (h.wf.slot_ne (Nat.succ_pos j) (by omega)).symm
  refine ⟨hread.wf.set _ _, ?_, (contents_set hfree oLeft).trans hread.contents⟩
  rw [← h.capacity]
  exact List.length_set

theorem overwrite (h : Holds n b q) (hn : 0 < n) (x : T) :
    Holds n (b.overwrite x) (BoundedQueue.overwrite n q x) := by
  rw [CircularBuffer.overwrite, BoundedQueue.overwrite]
  by_cases hfull : b.isFull
  · have hlength := h.isFull_iff.mp hfull
    have hempty : ¬ b.isEmpty := fun hempty => by
      have hzero := h.isEmpty_iff.mp hempty
      omega
    have hread := h.read hempty
    rw [if_pos hfull, if_pos hlength]
    refine hread.write (fun hfull' => ?_) x
    have hlength' := hread.isFull_iff.mp hfull'
    rw [List.length_tail] at hlength'
    omega
  · rw [if_neg hfull, if_neg fun hlength => hfull (h.isFull_iff.mpr hlength)]
    exact h.write hfull x

theorem foldl_overwrite (h : Holds n b q) (hn : 0 < n) (ws : List T) :
    Holds n (ws.foldl CircularBuffer.overwrite b) (ws.foldl (BoundedQueue.overwrite n) q) := by
  induction ws generalizing b q with
  | nil => exact h
  | cons w ws ih => exact ih (h.overwrite hn w)

/-- One operation is within its contract exactly if it is so for the queue. -/
theorem perform (h : Holds n b q) (op : BufferOp T) :
    Lockstep (Holds n) (b.perform op) (BoundedQueue.step n q op.toQueue) := by
  have hwrite : ∀ x : T, Lockstep (Holds n)
      (if b.isFull then .error .full else .ok (b.write x))
      (BoundedQueue.step n q (.enqueue x)) := by
    intro x
    rw [BoundedQueue.step]
    by_cases hfull : b.isFull
    · rw [if_pos hfull, if_pos (h.isFull_iff.mp hfull)]
      exact .error _
    · rw [if_neg hfull, if_neg fun hlength => hfull (h.isFull_iff.mpr hlength)]
      exact .ok (h.write hfull x)
  cases op with
  | write x => exact hwrite x
  | writeMove x => exact hwrite x
  | read oLeft =>
    rw [CircularBuffer.perform, BufferOp.toQueue, BoundedQueue.step]
    by_cases hempty : b.isEmpty
    · rw [if_pos hempty, if_pos (h.isEmpty_iff.mp hempty)]
      exact .error _
    · rw [if_neg hempty, if_neg fun hlength => hempty (h.isEmpty_iff.mpr hlength)]
      exact .ok (h.readMove hempty oLeft)
  | clear =>
    refine .ok ⟨h.wf.clear, h.capacity, contents_clear⟩

theorem new (hn : 0 < n) : Holds n (CircularBuffer.new n : CircularBuffer T) [] :=
  ⟨wf_new hn, capacity_new, rfl⟩

/-- A buffer of at most `2 ^ 30` slots shows the queue that it stands for. -/
theorem agrees (h : Holds n b q) (hn : 0 < n) (hsmall : n ≤ 2 ^ 30) : Agrees n b q := by
  have hpeek : ∀ {b : CircularBuffer T} {q : List T}, Holds n b q → b.peekAll = q.map some := by
    intro b q h
    rw [h.wf.peekAll_eq (h.capacity.le.trans hsmall), h.contents]
  have hwrite := h.wf.writeIdx_eq
  have hmod := h.wf.slot_eq_mod h.wf.count_le
  have hcapacity := h.capacity
  have hlength : q.length ≤ n := by
    rw [h.length_eq, ← hcapacity]
    exact h.wf.count_le
  refine ⟨hpeek h, fun x hx oLeft => ?_, h.length_eq.symm, h.isEmpty_iff, h.isFull_iff,
    hcapacity ▸ h.wf.readIdx_lt, ?_, ?_, fun ws => ?_⟩
  · have hempty : ¬ b.isEmpty := by
      rw [h.isEmpty_iff, List.length_eq_zero_iff]
      rintro rfl
      cases hx
    rw [← h.contents, h.wf.contents_eq_cons hempty] at hx
    exact Option.some.inj hx
  · rw [hwrite, ← hcapacity]
    exact h.wf.slot_lt le_rfl
  · rw [hwrite, hmod, hcapacity]
  · rw [hpeek (h.foldl_overwrite hn ws), BoundedQueue.foldl_overwrite hlength hn]

theorem exec_write (h : Holds n b q) (xs : List T) (hroom : q.length + xs.length ≤ n) :
    ∃ b', Run.exec CircularBuffer.perform b (xs.map .write) = .ok b' ∧ Holds n b' (q ++ xs) ∧
      b'.readIdx = b.readIdx := by
  induction xs generalizing b q with
  | nil => exact ⟨b, rfl, by rwa [List.append_nil], rfl⟩
  | cons x xs ih =>
    rw [List.length_cons] at hroom
    have hfull : ¬ b.isFull := fun hfull => by
      have hlength := h.isFull_iff.mp hfull
      omega
    have hstep : b.perform (.write x) = .ok (b.write x) := if_neg hfull
    obtain ⟨b', hexec, hholds, hread⟩ := ih (h.write hfull x) (by
      rw [List.length_append, List.length_singleton]
      omega)
    rw [List.append_assoc, List.singleton_append] at hholds
    exact ⟨b', (Run.exec_cons_of_ok hstep).trans hexec, hholds, hread⟩

theorem exec_read (h : Holds n b q) {k : ℕ} (hk : k ≤ q.length) (hwrap : b.readIdx + k < n) :
    ∃ b', Run.exec CircularBuffer.perform b (List.replicate k (.read default)) = .ok b' ∧
      Holds n b' (q.drop k) ∧ b'.readIdx = b.readIdx + k := by
  induction k generalizing b q with
  | zero => exact ⟨b, rfl, h, rfl⟩
  | succ k ih =>
    have hempty : ¬ b.isEmpty := fun hempty => by
      have hlength := h.isEmpty_iff.mp hempty
      omega
    have hstep : b.perform (.read default) = .ok (b.readMove default).2 := if_neg hempty
    have hnext : (b.readMove default).2.readIdx = b.readIdx + 1 := by
      have hcapacity := h.capacity
      rw [CircularBuffer.capacity] at hcapacity
      exact if_neg (by omega)
    obtain ⟨b', hexec, hholds, hread⟩ := ih (h.readMove hempty default)
      (by rw [List.length_tail]; omega) (by omega)
    rw [← List.drop_one, List.drop_drop, Nat.add_comm] at hholds
    exact ⟨b', (Run.exec_cons_of_ok hstep).trans hexec, hholds, by omega⟩

end Holds

/-- The newest value is not shown if its sum of indices is too large. -/
theorem Agrees.sum_le (h : Agrees n b q) (hpos : 0 < b.count) :
    (b.readIdx + (b.count - 1 : ℕ) : ℤ) ≤ int32Max := by
  by_contra hlarge
  have hsize : b.count - 1 < b.size := Nat.sub_lt hpos Nat.one_pos
  have hnone : b.peekAll[b.count - 1]? = some none := by
    rw [peekAll, List.getElem?_map, List.getElem?_range hsize, Option.map_some, peekInt32,
      if_neg hlarge]
  rw [h.peek, List.getElem?_map] at hnone
  cases hget : q[b.count - 1]? <;> simp [hget] at hnone

variable (T) in
/-- The buffer is filled, read but for one value, and filled again. -/
def fillReadFill (n : ℕ) : List (BufferOp T) :=
  (List.replicate n default).map .write ++ List.replicate (n - 1) (.read default) ++
    (List.replicate (n - 1) default).map .write

/-- In a buffer of more than `2 ^ 30` slots the last value can be out of reach. -/
theorem not_refinesQueue_of_lt (hlarge : 2 ^ 30 < n) : ¬ RefinesQueue T n := by
  intro hrefines
  have hpos : 0 < n := hlarge.pos
  obtain ⟨b₁, hexec₁, hholds₁, hread₁⟩ :=
    (Holds.new hpos : Holds n (new n : CircularBuffer T) []).exec_write
      (List.replicate n default) (by simp)
  obtain ⟨b₂, hexec₂, hholds₂, hread₂⟩ := hholds₁.exec_read (k := n - 1) (by simp)
    (by rw [hread₁]; simp [CircularBuffer.new, hpos])
  obtain ⟨b₃, hexec₃, hholds₃, hread₃⟩ := hholds₂.exec_write
    (List.replicate (n - 1) default) (by simp)
  have hexec : Run.exec perform (new n) (fillReadFill T n) = .ok b₃ := by
    rw [fillReadFill, List.append_assoc, Run.exec_append_of_ok hexec₁,
      Run.exec_append_of_ok hexec₂, hexec₃]
  obtain ⟨q, -, hagrees⟩ := (hrefines (fillReadFill T n)).exists_ok hexec
  have hcount : b₃.count = n := by
    rw [← hholds₃.length_eq, List.length_append, List.length_drop, List.length_append]
    simp only [List.length_replicate, List.length_nil]
    omega
  have hread : b₃.readIdx = n - 1 := by
    rw [hread₃, hread₂, hread₁, CircularBuffer.new, Nat.zero_add]
  have hsum := hagrees.sum_le (by omega)
  rw [int32Max] at hsum
  omega

/-- **The ring buffer is a bounded queue**, for every sequence of operations within their
contracts, exactly if it has at most `2 ^ 30` slots. -/
theorem refinesQueue_iff (n : BufferSize) : RefinesQueue T n.nSize ↔ n.nSize ≤ 2 ^ 30 := by
  constructor
  · intro hrefines
    by_contra hlarge
    exact not_refinesQueue_of_lt (not_le.mp hlarge) hrefines
  · intro hsmall ops
    exact (Lockstep.exec (fun b q op h => h.perform op) (Holds.new n.pos) ops).mono
      fun b q h => h.agrees n.pos hsmall

/-- One slot more. -/
def largeSize : BufferSize := ⟨2 ^ 30 + 1, by norm_num, by norm_num [int32Max]⟩

/-- With one slot more a buffer that is filled, read but for one value, and filled again does not
show its newest value. -/
theorem not_refinesQueue_largeSize : ¬ ∀ n : BufferSize, RefinesQueue UInt8 n.nSize :=
  fun h => not_refinesQueue_of_lt (Nat.lt_succ_self _) (h largeSize)

end CircularBuffer

end StmmInputBt
