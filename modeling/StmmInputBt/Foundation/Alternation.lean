import Mathlib.Tactic
import Mathlib.Data.List.Chain

/-!
# Alternating histories

A history in which two kinds of events alternate, an opening one first. `Alternates` also says
whether the history is open, that is whether its last event is an opening one.

## Main results

* `Alternates.opened`, `Alternates.closed`: a history that is closed can be opened, and one that
  is open can be closed.
-/

variable {α : Type*} {opens closes : α → Prop} {es : List α} {e : α}

/-- Opening and closing events alternate in the history, which starts with an opening event and is
open or not. -/
structure Alternates (opens closes : α → Prop) (es : List α) (bOpen : Prop) : Prop where
  starts : ∀ e ∈ es.head?, opens e
  chain : es.IsChain fun e e' => opens e ∧ closes e' ∨ closes e ∧ opens e'
  kinds : ∀ e ∈ es, opens e ∨ closes e
  ends : (∃ e ∈ es.getLast?, opens e) ↔ bOpen

namespace Alternates

variable {bOpen : Prop}

theorem nil : Alternates opens closes [] False :=
  ⟨by simp, .nil, by simp, by simp⟩

theorem of_iff {bOpen' : Prop} (h : Alternates opens closes es bOpen) (hiff : bOpen ↔ bOpen') :
    Alternates opens closes es bOpen' :=
  ⟨h.starts, h.chain, h.kinds, h.ends.trans hiff⟩

/-- The last event of a history that is not open is a closing one. -/
theorem closes_last (h : Alternates opens closes es False) (he : e ∈ es.getLast?) : closes e := by
  have hnot : ¬ opens e := fun hopens => h.ends.mp ⟨e, he, hopens⟩
  exact (h.kinds e (List.mem_of_getLast? he)).resolve_left hnot

theorem opened (h : Alternates opens closes es False) (he : opens e) :
    Alternates opens closes (es ++ [e]) True := by
  refine ⟨?_, ?_, ?_, ?_⟩
  · cases es with
    | nil => simpa using he
    | cons e' es => simpa using h.starts
  · refine h.chain.append (.singleton e) fun e' hlast e'' hhead => ?_
    rw [List.head?_cons, Option.mem_some_iff] at hhead
    exact .inr ⟨h.closes_last hlast, hhead ▸ he⟩
  · intro e' hmem
    rw [List.mem_append, List.mem_singleton] at hmem
    rcases hmem with hmem | rfl
    · exact h.kinds e' hmem
    · exact .inl he
  · simpa using he

theorem closed (hdisjoint : ∀ e, opens e → ¬ closes e) (h : Alternates opens closes es True)
    (he : closes e) : Alternates opens closes (es ++ [e]) False := by
  have hopen : ∃ e ∈ es.getLast?, opens e := h.ends.mpr trivial
  refine ⟨?_, ?_, ?_, ?_⟩
  · cases es with
    | nil => simp at hopen
    | cons e' es => simpa using h.starts
  · refine h.chain.append (.singleton e) fun e' hlast e'' hhead => ?_
    obtain ⟨e₀, hlast₀, hopens⟩ := hopen
    rw [List.head?_cons, Option.mem_some_iff] at hhead
    cases hlast.symm.trans hlast₀
    exact .inl ⟨hopens, hhead ▸ he⟩
  · intro e' hmem
    rw [List.mem_append, List.mem_singleton] at hmem
    rcases hmem with hmem | rfl
    · exact h.kinds e' hmem
    · exact .inr he
  · simpa using fun hopens => hdisjoint e hopens he

end Alternates
