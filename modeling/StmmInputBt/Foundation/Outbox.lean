import Mathlib.Logic.Relation
import Mathlib.Data.List.Basic
import Mathlib.Algebra.Order.Group.Multiset
import Mathlib.Tactic.Abel

/-!
# An outbox

Items are given to an outbox one after the other. It queues them or refuses them, moves what is
queued into a batch, and delivers the batch as a whole. Items may be lost on the way: the oldest
one in the queue, the whole queue or the batch. What the outbox never does is to deliver an item
again or out of order.

## Main results

* `Outbox.Ordered.of_reflTransGen`: what has been delivered, the batch and the queue together
  stay a subsequence of what was given.
* `Outbox.Accounts.loses`: every item that was given is delivered, still there or one of those that
  were lost.
-/

/-- The items given so far, those queued, those in the batch and those delivered, the earliest
first. -/
structure Outbox (α : Type*) where
  given : List α
  queue : List α
  batch : List α
  delivered : List α

namespace Outbox

variable {α : Type*} {o o' : Outbox α}

/-- One thing happens in the outbox. -/
inductive Step : Outbox α → Outbox α → Prop
  | refuse (o : Outbox α) (x : α) : Step o { o with given := o.given ++ [x] }
  | accept (o : Outbox α) (x : α) :
      Step o { o with given := o.given ++ [x], queue := o.queue ++ [x] }
  | drop (o : Outbox α) {x : α} {q : List α} (h : o.queue = x :: q) : Step o { o with queue := q }
  | clear (o : Outbox α) : Step o { o with queue := [] }
  | stage (o : Outbox α) : Step o { o with batch := o.queue, queue := [] }
  | forget (o : Outbox α) : Step o { o with batch := [] }
  | deliver (o : Outbox α) : Step o { o with delivered := o.delivered ++ o.batch, batch := [] }

/-- Several things happen one after the other. -/
abbrev Steps : Outbox α → Outbox α → Prop := Relation.ReflTransGen Step

/-- What has been delivered, the batch and the queue follow each other in what was given. -/
def Ordered (o : Outbox α) : Prop := (o.delivered ++ (o.batch ++ o.queue)).Sublist o.given

theorem Ordered.delivered (h : o.Ordered) : o.delivered.Sublist o.given :=
  (List.sublist_append_left _ _).trans h

theorem Ordered.step (h : o.Ordered) (hstep : Step o o') : o'.Ordered := by
  cases hstep with
  | refuse x => exact h.trans (List.sublist_append_left _ _)
  | accept x =>
    have hadd := h.append (List.Sublist.refl [x])
    simpa only [Ordered, List.append_assoc] using hadd
  | drop hq =>
    refine List.Sublist.trans ?_ h
    rw [hq]
    exact (List.Sublist.refl _).append ((List.Sublist.refl _).append (List.sublist_cons_self _ _))
  | clear =>
    exact List.Sublist.trans
      ((List.Sublist.refl _).append ((List.Sublist.refl _).append (List.nil_sublist _))) h
  | stage =>
    refine List.Sublist.trans ((List.Sublist.refl _).append ?_) h
    rw [List.append_nil]
    exact List.sublist_append_right _ _
  | forget =>
    exact List.Sublist.trans ((List.Sublist.refl _).append (List.sublist_append_right _ _)) h
  | deliver => simpa only [Ordered, List.nil_append, List.append_assoc] using h

/-- The order is kept whatever happens. -/
theorem Ordered.of_reflTransGen (h : o.Ordered) (hsteps : Steps o o') : o'.Ordered := by
  induction hsteps with
  | refl => exact h
  | tail _ hstep ih => exact ih.step hstep

/-! ### What is lost -/

/-- Several things happen one after the other, in the course of which some items are lost. -/
inductive Loses : Outbox α → List α → Outbox α → Prop
  | refl (o : Outbox α) : Loses o [] o
  | refuse (o : Outbox α) (x : α) : Loses o [x] { o with given := o.given ++ [x] }
  | accept (o : Outbox α) (x : α) :
      Loses o [] { o with given := o.given ++ [x], queue := o.queue ++ [x] }
  | drop (o : Outbox α) {x : α} {q : List α} (h : o.queue = x :: q) :
      Loses o [x] { o with queue := q }
  | clear (o : Outbox α) : Loses o o.queue { o with queue := [] }
  | stage (o : Outbox α) : Loses o o.batch { o with batch := o.queue, queue := [] }
  | forget (o : Outbox α) : Loses o o.batch { o with batch := [] }
  | deliver (o : Outbox α) : Loses o [] { o with delivered := o.delivered ++ o.batch, batch := [] }
  | trans {o o' o'' : Outbox α} {lost lost' : List α} (h : Loses o lost o')
      (h' : Loses o' lost' o'') : Loses o (lost ++ lost') o''

/-- Every item that was given has been delivered, is in the batch or the queue, or is lost. -/
def Accounts (o : Outbox α) (lost : List α) : Prop :=
  (o.given : Multiset α) = o.delivered + o.batch + o.queue + lost

theorem Accounts.loses {lost lost' : List α} (h : o.Accounts lost) (hloses : Loses o lost' o') :
    o'.Accounts (lost ++ lost') := by
  induction hloses generalizing lost with
  | refl => simpa using h
  | trans _ _ ih ih' =>
    rw [← List.append_assoc]
    exact ih' (ih h)
  | drop o hq =>
    simp only [Accounts, hq, ← Multiset.coe_add, ← Multiset.cons_coe, ← Multiset.singleton_add,
      Multiset.coe_nil, add_zero] at h ⊢
    rw [h]
    abel
  | refuse | accept | clear | stage | forget =>
    simp only [Accounts, ← Multiset.coe_add, Multiset.coe_nil, add_zero] at h ⊢
    rw [h]
    abel
  | deliver =>
    simp only [Accounts, ← Multiset.coe_add, Multiset.coe_nil, add_zero] at h ⊢
    exact h

/-- Nothing that was given is missing exactly if nothing is lost. -/
theorem Accounts.eq_given_iff {lost : List α} (h : o.Accounts lost) (hordered : o.Ordered) :
    o.delivered ++ (o.batch ++ o.queue) = o.given ↔ lost = [] := by
  have hlength := congrArg Multiset.card h
  simp only [Multiset.card_add, Multiset.coe_card] at hlength
  rw [← List.length_eq_zero_iff]
  constructor
  · intro heq
    rw [← heq] at hlength
    simp only [List.length_append] at hlength
    omega
  · intro hlost
    refine hordered.eq_of_length ?_
    simp only [List.length_append]
    omega

end Outbox
