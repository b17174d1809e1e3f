import Mathlib.Data.Set.Insert

/-!
# Handing on a duty by messages that expire

At least one of several parties has to hold on to something at all times. A party lets go
of it when it hears a message that outranks its own standing, and a message was sent by a
party that held on with at least the rank of the message. By the time the message is heard
its sender may itself have let go, on the word of a third party, and so on.

A message is heard for at most `life` ticks after it was sent, and a party whose standing
falls is guarded: for some time it does not listen. Each party in the chain outranks the one
before it, so a guard that lasts longer than the chain can be keeps one of them holding on.
-/
namespace Nets

variable {ι : Type}

/-- A message in flight. -/
structure Parcel where
  rank : Nat
  age : Nat

/-- What matters of the parties and the messages between them: who holds on and how
strongly, for how many ticks a party does not listen, what is in flight. -/
structure View (ι : Type) where
  holds : ι → Prop
  standing : ι → Nat
  guard : ι → Nat
  flying : Set Parcel

namespace View

/-- Nothing but one party changes. -/
def OnlyAt (v w : View ι) (i : ι) : Prop :=
  ∀ j, j ≠ i → w.holds j = v.holds j ∧ w.standing j = v.standing j ∧ w.guard j = v.guard j

/-- The parties stay as they are. -/
structure Same (v w : View ι) : Prop where
  holds : w.holds = v.holds
  standing : w.standing = v.standing
  guard : w.guard = v.guard

/-- A party goes on holding on, with no less standing and as long a guard, or with a guard
that outlasts every chain of messages. -/
structure HoldsOn (top life : Nat) (v w : View ι) (i : ι) : Prop where
  holds : w.holds i
  steady : (v.standing i ≤ w.standing i ∧ v.guard i ≤ w.guard i) ∨ (top + 1) * life < w.guard i

/-- One move, with messages of rank at most `top` that are heard for `life` ticks. -/
inductive Moves (top life : Nat) (v w : View ι) : Prop where
  | stay (same : v.Same w) (flying : w.flying ⊆ v.flying)
  | wait (ticks : Nat) (holds : w.holds = v.holds) (standing : w.standing = v.standing)
      (guard : ∀ i, v.guard i ≤ w.guard i + ticks)
      (flying : ∀ p ∈ w.flying, ∃ q ∈ v.flying, p = ⟨q.rank, q.age + ticks⟩)
  | send (i : ι) (rank : Nat) (same : v.Same w) (holds : v.holds i)
      (ranked : rank ≤ v.standing i) (bounded : rank ≤ top)
      (flying : w.flying ⊆ insert ⟨rank, 0⟩ v.flying)
  | act (i : ι) (others : v.OnlyAt w i) (keeps : v.holds i → v.HoldsOn top life w i)
      (flying : w.flying ⊆ v.flying)
  | yield (i : ι) (p : Parcel) (others : v.OnlyAt w i) (heard : p ∈ v.flying)
      (fresh : p.age ≤ life) (listens : v.guard i = 0) (outranks : v.standing i < p.rank)
      (flying : w.flying ⊆ v.flying)

/-- The party answers for a message: it holds on with the rank of the message, or is guarded
for as long as it takes to hear it and all the messages it can follow on. -/
structure Answers (life : Nat) (v : View ι) (p : Parcel) (i : ι) : Prop where
  holds : v.holds i
  strong : p.rank ≤ v.standing i ∨ (p.rank + 1) * life < v.guard i + p.age

/-- Some party holds on, and for every message that can still be heard one answers. -/
structure Secured (top life : Nat) (v : View ι) : Prop where
  held : ∃ i, v.holds i
  bounded : ∀ p ∈ v.flying, p.rank ≤ top
  answered : ∀ p ∈ v.flying, p.age ≤ life → ∃ i, v.Answers life p i

variable {top life : Nat} {v w : View ι} {p q : Parcel} {i : ι}

theorem Answers.same (h : v.Answers life p i) (same : v.Same w) : w.Answers life p i := by
  obtain ⟨holds, standing, guard⟩ := same
  exact ⟨holds ▸ h.holds, by rw [standing, guard]; exact h.strong⟩

theorem Answers.other {j : ι} (h : v.Answers life p j) (others : v.OnlyAt w i) (other : j ≠ i) :
    w.Answers life p j := by
  obtain ⟨holds, standing, guard⟩ := others j other
  exact ⟨holds ▸ h.holds, by rw [standing, guard]; exact h.strong⟩

/-- Who holds on goes on answering. -/
theorem Answers.holdsOn (h : v.Answers life p i) (bounded : p.rank ≤ top)
    (on : v.HoldsOn top life w i) : w.Answers life p i := by
  refine ⟨on.holds, ?_⟩
  rcases on.steady with ⟨standing, guard⟩ | guarded
  · rcases h.strong with ranked | guarded
    · exact .inl (ranked.trans standing)
    · exact .inr (guarded.trans_le (Nat.add_le_add_right guard p.age))
  · have longest : (p.rank + 1) * life ≤ (top + 1) * life := Nat.mul_le_mul_right _ (by omega)
    exact .inr (by omega)

/-- Time takes from the guard what it adds to the age. -/
theorem Answers.wait {ticks : Nat} (h : v.Answers life q i) (holds : w.holds = v.holds)
    (standing : w.standing = v.standing) (guard : v.guard i ≤ w.guard i + ticks) :
    w.Answers life ⟨q.rank, q.age + ticks⟩ i := by
  refine ⟨holds ▸ h.holds, ?_⟩
  rcases h.strong with ranked | guarded
  · exact .inl (standing ▸ ranked)
  · have kept : v.guard i + q.age ≤ w.guard i + (q.age + ticks) := by omega
    exact .inr (guarded.trans_le kept)

/-- Who answers for a message is not let go by it. -/
theorem Answers.not_outranked (h : v.Answers life p i) (fresh : p.age ≤ life)
    (listens : v.guard i = 0) : p.rank ≤ v.standing i := by
  rcases h.strong with ranked | guarded
  · exact ranked
  · have once : life ≤ (p.rank + 1) * life := Nat.le_mul_of_pos_left _ (Nat.succ_pos _)
    omega

/-- Who answers for a message answers for all that rank below it. -/
theorem Answers.lower (h : v.Answers life p i) (fresh : p.age ≤ life) (below : q.rank < p.rank) :
    v.Answers life q i := by
  refine ⟨h.holds, ?_⟩
  rcases h.strong with ranked | guarded
  · exact .inl (below.le.trans ranked)
  · -- one life more for the higher rank makes up for the age of the message
    have longer : (q.rank + 1) * life + life ≤ (p.rank + 1) * life := by
      rw [← Nat.succ_mul]
      exact Nat.mul_le_mul_right _ (by omega)
    exact .inr (by omega)

theorem Secured.stay (h : v.Secured top life) (same : v.Same w) (flying : w.flying ⊆ v.flying) :
    w.Secured top life := by
  refine ⟨same.holds ▸ h.held, fun p member => h.bounded p (flying member), fun p member fresh => ?_⟩
  obtain ⟨i, answers⟩ := h.answered p (flying member) fresh
  exact ⟨i, answers.same same⟩

theorem Secured.send {rank : Nat} (h : v.Secured top life) (same : v.Same w) (holds : v.holds i)
    (ranked : rank ≤ v.standing i) (bounded : rank ≤ top)
    (flying : w.flying ⊆ insert ⟨rank, 0⟩ v.flying) : w.Secured top life := by
  refine ⟨same.holds ▸ h.held, fun p member => ?_, fun p member fresh => ?_⟩
  · rcases flying member with rfl | old
    · exact bounded
    · exact h.bounded p old
  · rcases flying member with rfl | old
    · exact ⟨i, Answers.same ⟨holds, .inl ranked⟩ same⟩
    · obtain ⟨j, answers⟩ := h.answered p old fresh
      exact ⟨j, answers.same same⟩

theorem Secured.act (h : v.Secured top life) (others : v.OnlyAt w i)
    (keeps : v.holds i → v.HoldsOn top life w i) (flying : w.flying ⊆ v.flying) :
    w.Secured top life := by
  refine ⟨?_, fun p member => h.bounded p (flying member), fun p member fresh => ?_⟩
  · obtain ⟨j, holds⟩ := h.held
    refine ⟨j, ?_⟩
    by_cases here : j = i
    · subst here
      exact (keeps holds).holds
    · exact (others j here).1 ▸ holds
  · obtain ⟨j, answers⟩ := h.answered p (flying member) fresh
    refine ⟨j, ?_⟩
    by_cases here : j = i
    · subst here
      exact answers.holdsOn (h.bounded p (flying member)) (keeps answers.holds)
    · exact answers.other others here

/-- Who answers for the message that lets a party go takes its place. -/
theorem Secured.yield (h : v.Secured top life) (others : v.OnlyAt w i) (heard : p ∈ v.flying)
    (fresh : p.age ≤ life) (listens : v.guard i = 0) (outranks : v.standing i < p.rank)
    (flying : w.flying ⊆ v.flying) : w.Secured top life := by
  obtain ⟨j, answers⟩ := h.answered p heard fresh
  have other : j ≠ i := by
    rintro rfl
    exact absurd (answers.not_outranked fresh listens) (Nat.not_le.mpr outranks)
  refine ⟨⟨j, (answers.other others other).holds⟩, fun q member => h.bounded q (flying member), ?_⟩
  intro q member fresh'
  obtain ⟨k, answers'⟩ := h.answered q (flying member) fresh'
  by_cases here : k = i
  · subst here
    have below : q.rank < p.rank := (answers'.not_outranked fresh' listens).trans_lt outranks
    exact ⟨j, (answers.lower fresh below).other others other⟩
  · exact ⟨k, answers'.other others here⟩

/-- Every move keeps the duty in somebody's hands. -/
theorem Secured.moves (h : v.Secured top life) (moves : v.Moves top life w) :
    w.Secured top life := by
  cases moves with
  | stay same flying => exact h.stay same flying
  | send i rank same holds ranked bounded flying => exact h.send same holds ranked bounded flying
  | act i others keeps flying => exact h.act others keeps flying
  | yield i p others heard fresh listens outranks flying =>
    exact h.yield others heard fresh listens outranks flying
  | wait ticks holds standing guard flying =>
    refine ⟨holds ▸ h.held, fun p member => ?_, fun p member fresh => ?_⟩
    · obtain ⟨q, old, rfl⟩ := flying p member
      exact h.bounded q old
    · obtain ⟨q, old, rfl⟩ := flying p member
      obtain ⟨i, answers⟩ := h.answered q old (by simp at fresh; omega)
      exact ⟨i, answers.wait holds standing (guard i)⟩

end View

end Nets
