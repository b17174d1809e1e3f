import Mathlib.Data.Nat.Find
import Mathlib.Logic.Function.Iterate
import Mathlib.Logic.Relation

/-!
# Rings with cut links

A ring is a type with a successor from which every element is reached from every other. The
link from an element to its successor is open or cut. Something that is passed on over open
links comes round exactly if no link is cut, and reaches everything if at most one is.
-/
namespace Nets

variable {ι : Type} {next : ι → ι} {cut : ι → Prop} {i j : ι}

/-- Every element is reached from every other. -/
def IsRing (next : ι → ι) : Prop := ∀ i j, ∃ k, next^[k] i = j

/-- Over the open link to the next. -/
def Onward (next : ι → ι) (cut : ι → Prop) (i j : ι) : Prop := ¬cut i ∧ j = next i

/-- Something passed on in one direction over open links comes round. -/
def Circuit (next : ι → ι) (cut : ι → Prop) (i : ι) : Prop := Relation.TransGen (Onward next cut) i i

/-- Something passed on in both directions over open links gets from one to the other. -/
def Linked (next : ι → ι) (cut : ι → Prop) : ι → ι → Prop :=
  Relation.ReflTransGen fun i j => Onward next cut i j ∨ Onward next cut j i

theorem onward_iterate {k : Nat} (opened : ∀ l < k, ¬cut (next^[l] i)) :
    Relation.ReflTransGen (Onward next cut) i (next^[k] i) := by
  induction k with
  | zero => exact .refl
  | succ k ih =>
    rw [Function.iterate_succ_apply']
    exact (ih fun l less => opened l (by omega)).tail ⟨opened k (by omega), rfl⟩

/-- What is passed on passes the elements in between. -/
theorem iterate_of_onward (path : Relation.TransGen (Onward next cut) i j) :
    ∃ k, next^[k + 1] i = j ∧ ∀ l ≤ k, ¬cut (next^[l] i) := by
  induction path with
  | single step =>
    refine ⟨0, step.2.symm, fun l less => ?_⟩
    obtain rfl : l = 0 := by omega
    exact step.1
  | tail path step ih =>
    obtain ⟨k, reached, opened⟩ := ih
    refine ⟨k + 1, ?_, fun l less => ?_⟩
    · rw [Function.iterate_succ_apply', reached]
      exact step.2.symm
    · rcases Nat.lt_or_eq_of_le less with before | rfl
      · exact opened l (by omega)
      · rw [reached]
        exact step.1

/-- After coming round once nothing new is reached. -/
theorem iterate_mod {k : Nat} (round : next^[k + 1] i = i) (m : Nat) :
    next^[m] i = next^[m % (k + 1)] i := by
  induction m using Nat.strongRecOn with
  | _ m ih =>
    by_cases less : m < k + 1
    · rw [Nat.mod_eq_of_lt less]
    · have again : m = (m - (k + 1)) + (k + 1) := by omega
      have earlier := ih (m - (k + 1)) (by omega)
      rw [again, Function.iterate_add_apply, round, earlier, Nat.add_mod_right]

/-- Something comes round exactly if no link is cut. -/
theorem circuit_iff (ring : IsRing next) : Circuit next cut i ↔ ∀ j, ¬cut j := by
  constructor
  · intro path j
    obtain ⟨k, round, opened⟩ := iterate_of_onward path
    obtain ⟨m, rfl⟩ := ring i j
    rw [iterate_mod round]
    exact opened _ (Nat.le_of_lt_succ (Nat.mod_lt _ k.succ_pos))
  · intro opened
    obtain ⟨k, back⟩ := ring (next i) i
    have rest := onward_iterate (i := next i) (k := k) fun l _ => opened (next^[l] (next i))
    rw [back] at rest
    exact .head' ⟨opened i, rfl⟩ rest

/-- From behind the only cut everything is reached. -/
theorem linked_after (ring : IsRing next) (only : ∀ k, cut k → k = i) (j : ι) :
    Relation.ReflTransGen (Onward next cut) (next i) j := by
  classical
  have reached := ring (next i) j
  have first := Nat.find_spec reached
  have opened : ∀ l < Nat.find reached, ¬cut (next^[l] (next i)) := by
    intro l less blocked
    -- the cut comes last, and what lies behind it has been reached before
    have here : next^[l] (next i) = i := only _ blocked
    have round : next^[l + 1] (next i) = next i := by rw [Function.iterate_succ_apply', here]
    have sooner := iterate_mod round (Nat.find reached)
    rw [first] at sooner
    have least := Nat.find_min' reached sooner.symm
    have short : Nat.find reached % (l + 1) < l + 1 := Nat.mod_lt _ l.succ_pos
    omega
  have path := onward_iterate opened
  rwa [first] at path

/-- With at most one link cut everything is linked to everything. -/
theorem linked_of_cut (ring : IsRing next) (only : ∀ k l, cut k → cut l → k = l) (i j : ι) :
    Linked next cut i j := by
  have behind : ∃ c, ∀ k, cut k → k = c := by
    by_cases any : ∃ c, cut c
    · obtain ⟨c, here⟩ := any
      exact ⟨c, fun k there => only k c there here⟩
    · exact ⟨i, fun k there => absurd ⟨k, there⟩ any⟩
  obtain ⟨c, only'⟩ := behind
  have forth : Linked next cut (next c) j :=
    Relation.ReflTransGen.mono (fun _ _ step => .inl step) _ _ (linked_after ring only' j)
  have back : Linked next cut i (next c) :=
    Relation.ReflTransGen.mono (fun _ _ step => .inr step) _ _ (linked_after ring only' i).swap
  exact back.trans forth

/-! ### The cyclic order of `Fin n` -/

def after {n : Nat} (i : Fin n) : Fin n := ⟨(i.val + 1) % n, Nat.mod_lt _ (Nat.zero_lt_of_lt i.isLt)⟩

theorem after_iterate {n : Nat} (k : Nat) (i : Fin n) : (after^[k] i).val = (i.val + k) % n := by
  induction k with
  | zero => exact (Nat.mod_eq_of_lt i.isLt).symm
  | succ k ih =>
    have one : (after (after^[k] i)).val = ((after^[k] i).val + 1) % n := rfl
    rw [Function.iterate_succ_apply', one, ih, Nat.mod_add_mod, Nat.add_assoc]

theorem isRing_after (n : Nat) : IsRing (after (n := n)) := by
  intro i j
  refine ⟨n - i.val + j.val, Fin.ext ?_⟩
  have around : i.val + (n - i.val + j.val) = j.val + n := by omega
  rw [after_iterate, around, Nat.add_mod_right, Nat.mod_eq_of_lt j.isLt]

end Nets
