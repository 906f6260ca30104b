import Mathlib.Data.List.Infix
import Mathlib.Tactic.Common

/-!
# Lines of a text

A line ends with a newline, a carriage return, a carriage return followed by a newline, or a
paragraph separator.

## Main definitions

* `TextLines.lineCount`: the number of complete lines.
* `TextLines.afterFirstLine`: the text from its second line on.
* `TextLines.SingleLine`: a text that makes one line when a newline is added.

## Main results

* `TextLines.lineCount_append`, `TextLines.lineCount_afterFirstLine`.
* `TextLines.lineCount_concat_newline_eq_one`.
-/

namespace StmmInputBt.TextLines

/-- The character ends a line; a carriage return leaves this to the newline after it. -/
def endsLine (c : Char) (next : Option Char) : Bool :=
  c = '\n' || c = '\u2029' || (c = '\r' && next ≠ some '\n')

/-- The number of complete lines. -/
def lineCount : List Char → ℕ
  | [] => 0
  | c :: s => (if endsLine c s.head? then 1 else 0) + lineCount s

/-- The text without its first line, or no text if no line is complete. -/
def afterFirstLine : List Char → List Char
  | [] => []
  | c :: s => if endsLine c s.head? then s else afterFirstLine s

/-- The text is empty or ends with a newline. -/
def Terminated (s : List Char) : Prop := ∀ c ∈ s.getLast?, c = '\n'

/-- No line ends inside of the text; it may end with a carriage return. -/
def SingleLine (s : List Char) : Prop := '\n' ∉ s ∧ '\u2029' ∉ s ∧ '\r' ∉ s.dropLast

instance (s : List Char) : Decidable (SingleLine s) :=
  inferInstanceAs (Decidable (_ ∧ _ ∧ _))

variable {s t : List Char} {c : Char}

@[simp] theorem lineCount_nil : lineCount [] = 0 := rfl

theorem lineCount_cons (c : Char) (s : List Char) :
    lineCount (c :: s) = (if endsLine c s.head? then 1 else 0) + lineCount s := rfl

theorem not_endsLine {next : Option Char} : ¬ endsLine c next ↔
    c ≠ '\n' ∧ c ≠ '\u2029' ∧ (c = '\r' → next = some '\n') := by
  simp only [endsLine, Bool.or_eq_true, Bool.and_eq_true, decide_eq_true_eq]
  tauto

theorem endsLine_newline (next : Option Char) : endsLine '\n' next := rfl

@[simp] theorem terminated_nil : Terminated [] := by
  simp [Terminated]

theorem terminated_concat_newline (s : List Char) : Terminated (s ++ ['\n']) := by
  simp [Terminated]

theorem Terminated.suffix (h : Terminated s) (hsuffix : t <:+ s) : Terminated t := by
  intro c hc
  obtain ⟨u, rfl⟩ := hsuffix
  refine h c ?_
  rw [List.getLast?_append]
  simp [Option.mem_def.mp hc]

theorem afterFirstLine_suffix (s : List Char) : afterFirstLine s <:+ s := by
  induction s with
  | nil => exact List.suffix_rfl
  | cons c s ih =>
    rw [afterFirstLine]
    split_ifs
    · exact List.suffix_cons c s
    · exact ih.trans (List.suffix_cons c s)

/-- Removing the first line leaves one line less. -/
theorem lineCount_afterFirstLine (h : 0 < lineCount s) :
    lineCount (afterFirstLine s) + 1 = lineCount s := by
  induction s with
  | nil => exact absurd h (lt_irrefl 0)
  | cons c s ih =>
    rw [lineCount_cons] at h ⊢
    rw [afterFirstLine]
    split_ifs at h ⊢ with hends
    · exact Nat.add_comm _ _
    · rw [Nat.zero_add] at h ⊢
      exact ih h

/-- After a newline the count starts afresh. -/
theorem lineCount_append_newline (s t : List Char) :
    lineCount (s ++ '\n' :: t) = lineCount (s ++ ['\n']) + lineCount t := by
  induction s with
  | nil =>
    simp [lineCount_cons, endsLine_newline]
  | cons c s ih =>
    have hhead : (s ++ '\n' :: t).head? = (s ++ ['\n']).head? := by
      cases s <;> rfl
    rw [List.cons_append, List.cons_append, lineCount_cons, lineCount_cons, hhead, ih,
      Nat.add_assoc]

theorem lineCount_append (hs : Terminated s) (t : List Char) :
    lineCount (s ++ t) = lineCount s + lineCount t := by
  rcases List.eq_nil_or_concat s with rfl | ⟨u, c, rfl⟩
  · simp
  · have hc : c = '\n' := hs c (by simp)
    rw [hc, List.concat_eq_append, List.append_assoc, List.singleton_append,
      lineCount_append_newline]

theorem lineCount_concat_newline_pos (s : List Char) : 0 < lineCount (s ++ ['\n']) := by
  induction s with
  | nil => exact Nat.one_pos
  | cons c s ih => exact Nat.add_pos_right _ ih

/-- With a newline added, a text makes one line exactly if no line ends inside of it. -/
theorem lineCount_concat_newline_eq_one : lineCount (s ++ ['\n']) = 1 ↔ SingleLine s := by
  induction s with
  | nil => simp [lineCount, endsLine, SingleLine]
  | cons c s ih =>
    have hpos := lineCount_concat_newline_pos s
    have hcons : lineCount (c :: s ++ ['\n']) = 1 ↔
        ¬ endsLine c (s ++ ['\n']).head? ∧ lineCount (s ++ ['\n']) = 1 := by
      rw [List.cons_append, lineCount_cons]
      split_ifs with hends
      · exact iff_of_false (by omega) fun h => h.1 hends
      · rw [Nat.zero_add]
        exact ⟨fun h => ⟨hends, h⟩, And.right⟩
    rw [hcons, ih, not_endsLine]
    cases s with
    | nil =>
      simp only [SingleLine, List.nil_append, List.head?_cons, List.mem_singleton,
        List.not_mem_nil, List.dropLast_nil, List.dropLast_singleton]
      tauto
    | cons d s =>
      have hd : d = '\n' → '\n' ∈ d :: s := fun hd => hd ▸ List.mem_cons_self
      simp only [SingleLine, List.cons_append, List.head?_cons, Option.some.injEq,
        List.mem_cons (b := c), List.dropLast_cons_cons, not_or]
      tauto

end StmmInputBt.TextLines
