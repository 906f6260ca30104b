import Mathlib.Data.List.DropRight
import StmmInputBt.Foundation.Lockstep
import StmmInputBt.Foundation.Run

/-!
# Bounded queues

A queue with room for a given number of elements, as a list with the oldest element first.

## Main definitions

* `BoundedQueue.step`: the operations, which fault on a full or an empty queue.
* `BoundedQueue.overwrite`: enqueue, where a full queue loses its oldest element.

## Main results

* `Lockstep.exec`: two machines in lockstep stay so along a run.
* `BoundedQueue.foldl_overwrite`: overwriting keeps the newest elements.
-/

namespace StmmInputBt

/-- Two machines whose steps are in lockstep run in lockstep. -/
theorem Lockstep.exec {σ τ ι κ ε : Type} {R : σ → τ → Prop} {step : σ → ι → Except ε σ}
    {step' : τ → κ → Except ε τ} {f : ι → κ}
    (hstep : ∀ s t i, R s t → Lockstep R (step s i) (step' t (f i))) {s : σ} {t : τ} (h : R s t)
    (is : List ι) : Lockstep R (Run.exec step s is) (Run.exec step' t (is.map f)) := by
  induction is generalizing s t with
  | nil => exact .ok h
  | cons i is ih => exact (hstep s t i h).bind fun s' t' h' => ih h'

namespace BoundedQueue

variable {T : Type}

/-- What is done to a queue. -/
inductive Op (T : Type)
  | enqueue (x : T)
  | dequeue
  | clear

/-- What a queue refuses. -/
inductive Misuse
  | full
  | empty

/-- One operation on a queue with room for `n` elements. -/
def step (n : ℕ) (q : List T) : Op T → Except Misuse (List T)
  | .enqueue x => if q.length = n then .error .full else .ok (q ++ [x])
  | .dequeue => if q.length = 0 then .error .empty else .ok q.tail
  | .clear => .ok []

/-- Enqueue an element; if the queue is full, its oldest one is dropped. -/
def overwrite (n : ℕ) (q : List T) (x : T) : List T :=
  (if q.length = n then q.tail else q) ++ [x]

variable {n : ℕ} {q q' : List T}

theorem rtake_rtake_append (n : ℕ) (q q' : List T) :
    (q.rtake n ++ q').rtake n = (q ++ q').rtake n := by
  simp only [List.rtake, List.length_append, List.length_drop]
  rw [← List.drop_append_of_le_length (Nat.sub_le _ _), List.drop_drop]
  congr 1
  omega

theorem overwrite_eq_rtake (hq : q.length ≤ n) (hn : 0 < n) (x : T) :
    overwrite n q x = (q ++ [x]).rtake n := by
  rw [overwrite, List.rtake, List.length_append, List.length_singleton]
  split_ifs with hfull
  · have hdrop : q.length + 1 - n = 1 := by omega
    rw [hdrop, List.drop_append_of_le_length (by omega), List.drop_one]
  · have hdrop : q.length + 1 - n = 0 := by omega
    rw [hdrop, List.drop_zero]

/-- Overwriting keeps the newest elements. -/
theorem foldl_overwrite (hq : q.length ≤ n) (hn : 0 < n) (xs : List T) :
    xs.foldl (overwrite n) q = (q ++ xs).rtake n := by
  induction xs generalizing q with
  | nil =>
    rw [List.foldl_nil, List.append_nil, List.rtake, Nat.sub_eq_zero_of_le hq, List.drop_zero]
  | cons x xs ih =>
    rw [List.foldl_cons, overwrite_eq_rtake hq hn, ih ?_, rtake_rtake_append, List.append_assoc,
      List.singleton_append]
    rw [List.rtake, List.length_drop]
    omega

end BoundedQueue

end StmmInputBt
