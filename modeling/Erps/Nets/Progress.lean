import Mathlib.Data.List.Count
import Erps.Runs

/-!
# Progress by counted steps

Some steps of a run bring a party further and no step takes it back. How far each party has
come is then known from the number of those steps that the run has taken.
-/
namespace Runs

variable {σ ι κ : Type} {step : σ → ι → σ} {s : σ} {xs : List ι}

section
open Classical

/-- How many steps of the run meet `A` in the state they are taken in. -/
noncomputable def stepCount (A : σ → ι → Prop) (step : σ → ι → σ) (s : σ) (xs : List ι) : Nat :=
  (history step s xs).countP fun p => A p.1 p.2

theorem stepCount_concat_of {A : σ → ι → Prop} {x : ι} (here : A (run step s xs) x) :
    stepCount A step s (xs ++ [x]) = stepCount A step s xs + 1 := by
  simp [stepCount, history_concat, List.countP_append, here]

theorem stepCount_concat_of_not {A : σ → ι → Prop} {x : ι} (other : ¬A (run step s xs) x) :
    stepCount A step s (xs ++ [x]) = stepCount A step s xs := by
  simp [stepCount, history_concat, List.countP_append, other]

end

/-- Where no step takes a party back and each step that meets `A` takes it further, it is as far
as there have been such steps. -/
theorem eachState_of_progress {A : κ → σ → ι → Prop} {C : σ → ι → Prop} {I : (κ → Nat) → σ → Prop}
    (start : I (fun _ => 0) s) (steps : EachStep step s xs fun _ t x => C t x)
    (next : ∀ k l t x, I k t → C t x → (∀ i, A i t x → l i = k i + 1) → (∀ i, ¬A i t x → l i = k i) →
      I l (step t x)) :
    EachState step s xs fun pre t => I (fun i => stepCount (A i) step s pre) t := by
  refine eachState_of_eachStep start steps ?_
  rintro pre t x rfl taken before
  exact next _ _ _ x before taken (fun i here => stepCount_concat_of here)
    fun i other => stepCount_concat_of_not other

end Runs
