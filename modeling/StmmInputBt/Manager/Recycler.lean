import Mathlib.Data.Finset.Card
import Mathlib.Data.List.Infix
import Mathlib.Data.List.ReduceOption
import StmmInputBt.Manager.KeysDevice

/-!
# Recycling objects

The class template `Recycler` of `recycler.h` keeps a pointer to every object that it has made.
`create` gives an object to the caller again when the count of its pointers shows that nobody else
holds it, and makes a new one only when all are held.

The pointers of the callers are numbered, and each one remembers the call of `create` that its
object comes from; the code knows nothing of this.

## Main definitions

* `Recyclable`: a class whose `reInit` sets all that its constructor sets.
* `Recycler`, `Recycler.create`, `Recycler.perform`: the pool with the pointers of the callers.
* `Recycler.Safe`: what the callers can rely on.

## Main results

* `Recycler.safe_run`.
-/

namespace StmmInputBt

/-- A class of objects with parameters. -/
structure Recyclable (P T : Type) where
  construct : P → T
  reInit : P → T → T
  reInit_eq : ∀ oParam oT, reInit oParam oT = construct oParam

/-- `ReKeyEvent`. -/
structure ReKeyEvent extends KeyEvent where
  timeUsec : ℤ

/-- The parameters of the constructor and of `reInit`. -/
structure KeyEventParams where
  timeUsec : ℤ
  accessor : Window
  keyCapability : DeviceId
  type : KeyInputType
  key : HardwareKey

/-- The key events of a device. -/
def ReKeyEvent.recyclable : Recyclable KeyEventParams ReKeyEvent where
  construct p :=
    { timeUsec := p.timeUsec, accessor := p.accessor, device := p.keyCapability, type := p.type
      key := p.key }
  reInit p oEvent :=
    { oEvent with
      timeUsec := p.timeUsec, accessor := p.accessor, device := p.keyCapability, type := p.type
      key := p.key }
  reInit_eq _ _ := rfl

/-- An object with the number of the pointers to it. -/
structure Shared (T : Type) where
  useCount : ℕ
  object : T

/-- What a pointer of a caller points to, and the call that it comes from with its parameters. -/
structure Handle (P : Type) where
  object : ℕ
  call : ℕ
  param : P

/-- The pool, and the pointers of the callers, which can be empty. -/
structure Recycler (P T : Type) where
  all : List (Shared T)
  handles : List (Option (Handle P))
  calls : ℕ

/-- What the callers do. -/
inductive RecyclerOp (P : Type)
  /-- Call `create` with an empty pointer. -/
  | create (oParam : P)
  /-- Copy a pointer. -/
  | copy (n : ℕ)
  /-- Let a pointer go. -/
  | drop (n : ℕ)

namespace Recycler

variable {P T : Type}

def new : Recycler P T := ⟨[], [], 0⟩

/-- The object that `create` takes from the pool. -/
def findUnused (s : Recycler P T) : Option ℕ :=
  s.all.findIdx? fun refB => refB.useCount = 1

def create (R : Recyclable P T) (oParam : P) (s : Recycler P T) : Recycler P T :=
  match s.findUnused with
  | some n =>
    { all := s.all.modify n fun refB => ⟨refB.useCount + 1, R.reInit oParam refB.object⟩
      handles := s.handles ++ [some ⟨n, s.calls, oParam⟩]
      calls := s.calls + 1 }
  | none =>
    -- the pointer of the pool and the one of the caller
    { all := s.all ++ [⟨2, R.construct oParam⟩]
      handles := s.handles ++ [some ⟨s.all.length, s.calls, oParam⟩]
      calls := s.calls + 1 }

def copy (n : ℕ) (s : Recycler P T) : Recycler P T :=
  match s.handles[n]? with
  | some (some h) =>
    { s with
      all := s.all.modify h.object fun refB => { refB with useCount := refB.useCount + 1 }
      handles := s.handles ++ [some h] }
  | _ => { s with handles := s.handles ++ [none] }

def drop (n : ℕ) (s : Recycler P T) : Recycler P T :=
  match s.handles[n]? with
  | some (some h) =>
    { s with
      all := s.all.modify h.object fun refB => { refB with useCount := refB.useCount - 1 }
      handles := s.handles.set n none }
  | _ => s

def perform (R : Recyclable P T) (s : Recycler P T) : RecyclerOp P → Recycler P T
  | .create oParam => s.create R oParam
  | .copy n => s.copy n
  | .drop n => s.drop n

/-- The pool after a sequence of operations. -/
def run (R : Recyclable P T) (ops : List (RecyclerOp P)) : Recycler P T :=
  ops.foldl (perform R) new

/-- The pointers of the callers that are not empty. -/
def live (s : Recycler P T) : List (Handle P) := s.handles.reduceOption

/-- The objects that callers hold. -/
def held (s : Recycler P T) : Finset ℕ := (s.live.map Handle.object).toFinset

/-- The largest number of objects that callers have held at the same time. -/
def peak (R : Recyclable P T) (ops : List (RecyclerOp P)) : ℕ :=
  (ops.inits.map fun ops' => (run R ops').held.card).foldl max 0

/-- How many pointers of callers point to an object. -/
def refs (s : Recycler P T) (n : ℕ) : ℕ := s.live.countP fun h => h.object = n

/-- A pointer of a caller points to an object with the parameters of its call. -/
def Carries (R : Recyclable P T) (s : Recycler P T) (h : Handle P) : Prop :=
  ∃ refB, s.all[h.object]? = some refB ∧ refB.object = R.construct h.param

/-- What the callers can rely on. -/
structure Safe (R : Recyclable P T) (s : Recycler P T) : Prop where
  unheld : ∀ n ∈ s.findUnused, ∀ h ∈ s.live, h.object ≠ n
  created : ∀ oParam, ∃ n, (s.create R oParam).handles.getLast? = some (some ⟨n, s.calls, oParam⟩) ∧
    (s.create R oParam).Carries R ⟨n, s.calls, oParam⟩
  carries : ∀ h ∈ s.live, s.Carries R h
  distinct : ∀ h ∈ s.live, ∀ h' ∈ s.live, h.call ≠ h'.call → h.object ≠ h'.object
  counts : ∀ n refB, s.all[n]? = some refB → refB.useCount = s.refs n + 1

variable {R : Recyclable P T} {s : Recycler P T} {h h' : Handle P} {n : ℕ} {refB : Shared T}

theorem refs_eq_zero : s.refs n = 0 ↔ ∀ h ∈ s.live, h.object ≠ n := by
  simp [refs, List.countP_eq_zero]

theorem refs_of_live_eq {t : Recycler P T} (ht : t.live = s.live ++ [h]) (n : ℕ) :
    t.refs n = s.refs n + if h.object = n then 1 else 0 := by
  rw [refs, refs, ht, List.countP_append, List.countP_singleton]
  simp

/-- What holds in every state of the pool. -/
structure Sound (R : Recyclable P T) (s : Recycler P T) : Prop where
  counts : ∀ n refB, s.all[n]? = some refB → refB.useCount = s.refs n + 1
  carries : ∀ h ∈ s.live, s.Carries R h
  sameCall : ∀ h ∈ s.live, ∀ h' ∈ s.live, h.object = h'.object → h.call = h'.call

/-! ### The operations -/

/-- A pointer of a caller is copied. -/
theorem live_copy : (∃ h, s.handles[n]? = some (some h) ∧ (s.copy n).live = s.live ++ [h] ∧
      (s.copy n).all =
        s.all.modify h.object fun refB => { refB with useCount := refB.useCount + 1 }) ∨
    (s.copy n).live = s.live ∧ (s.copy n).all = s.all := by
  rw [copy]
  split
  · next h hn =>
    refine .inl ⟨h, hn, ?_, rfl⟩
    rw [live, live, List.reduceOption_append]
    rfl
  · refine .inr ⟨?_, rfl⟩
    rw [live, live, List.reduceOption_append]
    exact List.append_nil _

/-- A pointer of a caller is let go. -/
theorem live_drop : (∃ h before after, s.live = before ++ h :: after ∧
      (s.drop n).live = before ++ after ∧ (s.drop n).all =
        s.all.modify h.object fun refB => { refB with useCount := refB.useCount - 1 }) ∨
    s.drop n = s := by
  rw [drop]
  split
  · next h hn =>
    obtain ⟨hlt, hget⟩ := List.getElem?_eq_some_iff.mp hn
    refine .inl ⟨h, (s.handles.take n).reduceOption, (s.handles.drop (n + 1)).reduceOption, ?_, ?_,
      rfl⟩
    · rw [live, ← List.reduceOption_cons_of_some, ← List.reduceOption_append, ← hget,
        List.getElem_cons_drop, List.take_append_drop]
    · rw [live, List.set_eq_take_append_cons_drop, if_pos hlt, List.reduceOption_append,
        List.reduceOption_cons_of_none]
  · exact .inr rfl

/-- The object that `create` gives to the caller: one of the pool that nobody else holds, or a new
one. -/
inductive Given (R : Recyclable P T) (oParam : P) (s t : Recycler P T) : ℕ → Prop
  | recycled {n : ℕ} (hn : s.findUnused = some n)
      (hall : t.all =
        s.all.modify n fun refB => ⟨refB.useCount + 1, R.reInit oParam refB.object⟩) :
      Given R oParam s t n
  | constructed (hnone : s.findUnused = none) (hall : t.all = s.all ++ [⟨2, R.construct oParam⟩]) :
      Given R oParam s t s.all.length

theorem live_create (oParam : P) : ∃ n, Given R oParam s (s.create R oParam) n ∧
    (s.create R oParam).handles.getLast? = some (some ⟨n, s.calls, oParam⟩) ∧
    (s.create R oParam).live = s.live ++ [⟨n, s.calls, oParam⟩] := by
  rw [create]
  split
  · next n hn =>
    refine ⟨n, .recycled hn rfl, List.getLast?_concat, ?_⟩
    rw [live, live, List.reduceOption_append]
    rfl
  · next hnone =>
    refine ⟨s.all.length, .constructed hnone rfl, List.getLast?_concat, ?_⟩
    rw [live, live, List.reduceOption_append]
    rfl

namespace Given

variable {oParam : P} {t : Recycler P T} (hgiven : Given R oParam s t n)
include hgiven

/-- The object has the parameters, and two pointers to it. -/
theorem object : ∃ refB, t.all[n]? = some refB ∧ refB.useCount = 2 ∧
    refB.object = R.construct oParam := by
  cases hgiven with
  | recycled hn hall =>
    obtain ⟨hlt, hcount, -⟩ := List.findIdx?_eq_some_iff_getElem.mp hn
    rw [decide_eq_true_eq] at hcount
    refine ⟨⟨s.all[n].useCount + 1, R.reInit oParam s.all[n].object⟩, ?_, ?_,
      R.reInit_eq oParam s.all[n].object⟩
    · rw [hall, List.getElem?_modify_eq, List.getElem?_eq_getElem hlt]
      rfl
    · dsimp only
      rw [hcount]
  | constructed hnone hall =>
    exact ⟨_, by rw [hall, List.getElem?_concat_length], rfl, rfl⟩

/-- The other objects are left alone. -/
theorem other {m : ℕ} (hm : m ≠ n) : t.all[m]? = s.all[m]? := by
  cases hgiven with
  | recycled hn hall => rw [hall, List.getElem?_modify_ne _ _ (Ne.symm hm)]
  | constructed hnone hall =>
    rw [hall]
    rcases lt_or_gt_of_ne hm with hlt | hgt
    · rw [List.getElem?_append_left hlt]
    · rw [List.getElem?_eq_none (by rw [List.length_append, List.length_singleton]; omega),
        List.getElem?_eq_none hgt.le]

end Given

/-! ### One step -/

namespace Sound

variable (hs : s.Sound R)
include hs

theorem object_lt (hh : h ∈ s.live) : h.object < s.all.length := by
  obtain ⟨refB, hrefB, -⟩ := hs.carries h hh
  exact (List.getElem?_eq_some_iff.mp hrefB).1

/-- The object that `create` takes is held by nobody else. -/
theorem unheld (hn : s.findUnused = some n) : ∀ h ∈ s.live, h.object ≠ n := by
  obtain ⟨hlt, hcount, -⟩ := List.findIdx?_eq_some_iff_getElem.mp hn
  have hrefs := hs.counts n _ (List.getElem?_eq_getElem hlt)
  rw [decide_eq_true_eq] at hcount
  exact refs_eq_zero.mp (by omega)

/-- If `create` finds no object, all are held. -/
theorem exists_of_findUnused_eq_none (hnone : s.findUnused = none) (hn : n < s.all.length) :
    ∃ h ∈ s.live, h.object = n := by
  by_contra hno
  have hunheld : ∀ h ∈ s.live, h.object ≠ n := fun h hh hobject => hno ⟨h, hh, hobject⟩
  have hrefs := hs.counts n _ (List.getElem?_eq_getElem hn)
  rw [refs_eq_zero.mpr hunheld] at hrefs
  have hused := List.findIdx?_eq_none_iff.mp hnone _ (List.getElem_mem hn)
  simp [hrefs] at hused

/-- Changes to the count of an object, and the same pointers or one more to the same object. -/
theorem counted {t : Recycler P T} {f : ℕ → ℕ} (hsub : ∀ h ∈ t.live, h ∈ s.live)
    (hall : t.all = s.all.modify n fun refB => { refB with useCount := f refB.useCount })
    (hself : t.refs n + 1 = f (s.refs n + 1)) (hother : ∀ m, m ≠ n → t.refs m = s.refs m) :
    t.Sound R := by
  have hget : ∀ m refB, t.all[m]? = some refB → ∃ refB', s.all[m]? = some refB' ∧
      refB.object = refB'.object ∧
      refB.useCount = if n = m then f refB'.useCount else refB'.useCount := by
    intro m refB hrefB
    rw [hall, List.getElem?_modify] at hrefB
    obtain ⟨refB', hrefB', rfl⟩ := Option.map_eq_some_iff.mp hrefB
    refine ⟨refB', hrefB', ?_, ?_⟩
    · split_ifs <;> rfl
    · split_ifs <;> rfl
  refine ⟨fun m refB hrefB => ?_, fun h hh => ?_, fun h hh h' hh' =>
    hs.sameCall h (hsub h hh) h' (hsub h' hh')⟩
  · obtain ⟨refB', hrefB', -, hcount⟩ := hget m refB hrefB
    have hcount' := hs.counts m refB' hrefB'
    rw [hcount, hcount']
    split_ifs with hnm
    · rw [← hnm, hself]
    · rw [hother m (Ne.symm hnm)]
  · obtain ⟨refB, hrefB, hobject⟩ := hs.carries h (hsub h hh)
    refine ⟨if n = h.object then { refB with useCount := f refB.useCount } else refB, ?_, ?_⟩
    · rw [hall, List.getElem?_modify, hrefB]
      rfl
    · split_ifs
      · exact hobject
      · exact hobject

theorem of_eq {t : Recycler P T} (hlive : t.live = s.live) (hall : t.all = s.all) :
    t.Sound R := by
  refine ⟨fun n refB hrefB => ?_, fun h hh => ?_, ?_⟩
  · rw [refs, hlive]
    exact hs.counts n refB (hall ▸ hrefB)
  · rw [Carries, hall]
    exact hs.carries h (hlive ▸ hh)
  · rw [hlive]
    exact hs.sameCall

theorem copy (n : ℕ) : (s.copy n).Sound R := by
  rcases s.live_copy (n := n) with ⟨h, hn, hlive, hall⟩ | ⟨hlive, hall⟩
  · have hh : h ∈ s.live := List.reduceOption_mem_iff.mpr (List.mem_of_getElem? hn)
    refine hs.counted (n := h.object) (f := (· + 1)) (fun h' hh' => ?_) hall ?_ fun m hm => ?_
    · rw [hlive, List.mem_append, List.mem_singleton] at hh'
      rcases hh' with hh' | rfl
      · exact hh'
      · exact hh
    · rw [refs_of_live_eq hlive, if_pos rfl]
    · rw [refs_of_live_eq hlive, if_neg (Ne.symm hm), Nat.add_zero]
  · exact hs.of_eq hlive hall

theorem drop (n : ℕ) : (s.drop n).Sound R := by
  rcases s.live_drop (n := n) with ⟨h, before, after, hlive, hlive', hall⟩ | hidle
  · have hrefs : ∀ m, s.refs m = (s.drop n).refs m + if h.object = m then 1 else 0 := by
      intro m
      rw [refs, refs, hlive, hlive', List.countP_append, List.countP_append, List.countP_cons]
      simp [Nat.add_assoc]
    refine hs.counted (n := h.object) (f := (· - 1)) (fun h' hh' => ?_) hall ?_ fun m hm => ?_
    · rw [hlive', List.mem_append] at hh'
      rw [hlive, List.mem_append, List.mem_cons]
      tauto
    · rw [hrefs h.object, if_pos rfl, Nat.add_sub_cancel]
    · rw [hrefs m, if_neg (Ne.symm hm), Nat.add_zero]
  · rwa [hidle]

theorem create (oParam : P) : (s.create R oParam).Sound R ∧
    ∃ n, (s.create R oParam).handles.getLast? = some (some ⟨n, s.calls, oParam⟩) ∧
      (s.create R oParam).Carries R ⟨n, s.calls, oParam⟩ := by
  obtain ⟨n, hgiven, hlast, hlive⟩ := s.live_create (R := R) oParam
  -- the object is held by nobody, whether it is new or not
  have hunheld : ∀ h ∈ s.live, h.object ≠ n := by
    cases hgiven with
    | recycled hn hall => exact hs.unheld hn
    | constructed hnone hall => exact fun h hh => (hs.object_lt hh).ne
  obtain ⟨refB, hrefB, hcount, hobject⟩ := hgiven.object
  refine ⟨⟨fun m refB' hrefB' => ?_, fun h hh => ?_, fun h hh h' hh' heq => ?_⟩, n, hlast, refB,
    hrefB, hobject⟩
  · rw [refs_of_live_eq hlive]
    split_ifs with hm
    · cases hm
      rw [hrefB] at hrefB'
      rw [← Option.some.inj hrefB', hcount, refs_eq_zero.mpr hunheld]
    · rw [hgiven.other (Ne.symm hm)] at hrefB'
      exact hs.counts m refB' hrefB'
  · rw [hlive, List.mem_append, List.mem_singleton] at hh
    rcases hh with hh | rfl
    · obtain ⟨refB', hrefB', hobject'⟩ := hs.carries h hh
      exact ⟨refB', (hgiven.other (hunheld h hh)).trans hrefB', hobject'⟩
    · exact ⟨refB, hrefB, hobject⟩
  · rw [hlive, List.mem_append, List.mem_singleton] at hh hh'
    rcases hh with hh | rfl
    · rcases hh' with hh' | rfl
      · exact hs.sameCall h hh h' hh' heq
      · exact absurd heq (hunheld h hh)
    · rcases hh' with hh' | rfl
      · exact absurd heq.symm (hunheld h' hh')
      · rfl

theorem perform (op : RecyclerOp P) : (s.perform R op).Sound R := by
  cases op with
  | create oParam => exact (hs.create oParam).1
  | copy n => exact hs.copy n
  | drop n => exact hs.drop n

theorem safe : s.Safe R where
  unheld _ hn := hs.unheld hn
  created oParam := (hs.create oParam).2
  carries := hs.carries
  distinct h hh h' hh' hcall heq := hcall (hs.sameCall h hh h' hh' heq)
  counts := hs.counts

theorem held_subset : s.held ⊆ Finset.range s.all.length := by
  intro n hn
  obtain ⟨h, hh, rfl⟩ := List.mem_map.mp (List.mem_toFinset.mp hn)
  exact Finset.mem_range.mpr (hs.object_lt hh)

theorem card_held_le : s.held.card ≤ s.all.length := by
  simpa using Finset.card_le_card hs.held_subset

/-- The pool grows only when all of its objects are held, the new one included. -/
theorem length_perform (op : RecyclerOp P) :
    (s.perform R op).all.length = max s.all.length (s.perform R op).held.card := by
  have hle := (hs.perform op).card_held_le
  have hsame : (s.perform R op).all.length = s.all.length →
      (s.perform R op).all.length = max s.all.length (s.perform R op).held.card := by
    intro heq
    rw [max_eq_left (heq ▸ hle), heq]
  cases op with
  | copy n =>
    rcases s.live_copy (n := n) with ⟨h, -, -, hall⟩ | ⟨-, hall⟩
    · exact hsame (by rw [Recycler.perform, hall, List.length_modify])
    · exact hsame (by rw [Recycler.perform, hall])
  | drop n =>
    rcases s.live_drop (n := n) with ⟨h, before, after, -, -, hall⟩ | hidle
    · exact hsame (by rw [Recycler.perform, hall, List.length_modify])
    · exact hsame (by rw [Recycler.perform, hidle])
  | create oParam =>
    obtain ⟨n, hgiven, -, hlive⟩ := s.live_create (R := R) oParam
    cases hgiven with
    | recycled hn hall => exact hsame (by rw [Recycler.perform, hall, List.length_modify])
    | constructed hnone hall =>
      have hheld : (s.create R oParam).held = Finset.range (s.all.length + 1) := by
        refine Finset.Subset.antisymm ?_ fun m hm => ?_
        · have hsub := (hs.create oParam).1.held_subset
          rwa [hall, List.length_append, List.length_singleton] at hsub
        · rw [held, hlive, List.mem_toFinset, List.map_append, List.mem_append]
          rcases Nat.lt_succ_iff_lt_or_eq.mp (Finset.mem_range.mp hm) with hlt | rfl
          · obtain ⟨h, hh, rfl⟩ := hs.exists_of_findUnused_eq_none hnone hlt
            exact .inl (List.mem_map_of_mem hh)
          · exact .inr (List.mem_singleton_self _)
      rw [Recycler.perform, hheld, hall, Finset.card_range, List.length_append,
        List.length_singleton]
      omega

end Sound

/-! ### Runs -/

theorem sound_new : (new : Recycler P T).Sound R :=
  ⟨fun _ refB h => by simp [new] at h, fun h hh => by simp [new, live] at hh,
    fun h hh => by simp [new, live] at hh⟩

theorem run_concat (ops : List (RecyclerOp P)) (op : RecyclerOp P) :
    run R (ops ++ [op]) = (run R ops).perform R op := by
  rw [run, List.foldl_append]
  rfl

theorem peak_concat (ops : List (RecyclerOp P)) (op : RecyclerOp P) :
    peak R (ops ++ [op]) = max (peak R ops) (run R (ops ++ [op])).held.card := by
  rw [peak, List.inits_append, List.map_append, List.foldl_append]
  rfl

theorem sound_run (ops : List (RecyclerOp P)) : (run R ops).Sound R := by
  induction ops using List.reverseRecOn with
  | nil => exact sound_new
  | append_singleton ops op ih =>
    rw [run_concat]
    exact ih.perform op

theorem length_all_run (ops : List (RecyclerOp P)) : (run R ops).all.length = peak R ops := by
  induction ops using List.reverseRecOn with
  | nil => rfl
  | append_singleton ops op ih =>
    rw [peak_concat, run_concat, (sound_run ops).length_perform, ih]

/-- **The pool never hands out an object in use**: along every run of the callers, `create` leaves
alone what is held, every pointer keeps the object of its own call, and the pool has as many
objects as were held at once. -/
theorem safe_run (R : Recyclable P T) (ops : List (RecyclerOp P)) :
    (run R ops).Safe R ∧ (run R ops).all.length = peak R ops :=
  ⟨(sound_run ops).safe, length_all_run ops⟩

/-- A key event that a listener keeps stays as it was sent. -/
theorem keyEvent_of_live {ops : List (RecyclerOp KeyEventParams)} {h : Handle KeyEventParams}
    (hh : h ∈ (run ReKeyEvent.recyclable ops).live) :
    ∃ refB, (run ReKeyEvent.recyclable ops).all[h.object]? = some refB ∧
      refB.object.timeUsec = h.param.timeUsec ∧ refB.object.toKeyEvent =
        ⟨h.param.accessor, h.param.keyCapability, h.param.type, h.param.key⟩ := by
  obtain ⟨refB, hget, hobject⟩ := (sound_run ops).carries h hh
  refine ⟨refB, hget, ?_, ?_⟩
  · rw [hobject]
    rfl
  · rw [hobject]
    rfl

end Recycler

end StmmInputBt
