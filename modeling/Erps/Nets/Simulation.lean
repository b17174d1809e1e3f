import Mathlib.Data.List.Forall2
import Mathlib.Data.List.TakeDrop
import Erps.Runs

/-!
# Forward simulation

Where every step of one system is matched by a step of another, related states leading to
related states, every run of the first is matched by a run of the second, step by step. So
what holds in every state of every run of the second is known of the first.
-/
namespace Runs

variable {σ τ ι κ : Type} {step : σ → ι → σ} {step' : τ → κ → τ} {s : σ} {t : τ}
  {xs : List ι} {x : ι} {R : σ → τ → Prop} {M : ι → κ → Prop} {C : σ → ι → Prop}
  {D : τ → κ → Prop}

theorem EachStep.head (h : EachStep step s (x :: xs) fun _ u y => C u y) : C s x :=
  h [] x (List.prefix_append [x] xs)

theorem EachStep.tail (h : EachStep step s (x :: xs) fun _ u y => C u y) :
    EachStep step (step s x) xs fun _ u y => C u y :=
  fun pre y member => h (x :: pre) y (List.cons_prefix_cons.mpr ⟨rfl, member⟩)

/-- Each step that meets `C` is matched by one that meets `D`; `M` says which step is which. -/
def Simulates (step : σ → ι → σ) (step' : τ → κ → τ) (R : σ → τ → Prop) (M : ι → κ → Prop)
    (C : σ → ι → Prop) (D : τ → κ → Prop) : Prop :=
  ∀ s t x, R s t → C s x → ∃ y, M x y ∧ D t y ∧ R (step s x) (step' t y)

/-- A run is matched step by step. -/
theorem Simulates.run (sim : Simulates step step' R M C D) (related : R s t)
    (steps : EachStep step s xs fun _ u x => C u x) :
    ∃ ys, List.Forall₂ M xs ys ∧ (EachStep step' t ys fun _ v y => D v y) ∧
      ∀ k, R (run step s (xs.take k)) (run step' t (ys.take k)) := by
  induction xs generalizing s t with
  | nil => exact ⟨[], .nil, eachStep_nil, fun k => by simpa [Runs.run] using related⟩
  | cons x xs ih =>
    obtain ⟨y, matched, taken, next⟩ := sim s t x related steps.head
    obtain ⟨ys, matched', rest, along⟩ := ih next steps.tail
    refine ⟨y :: ys, .cons matched matched', eachStep_cons taken rest, fun k => ?_⟩
    cases k with
    | zero => simpa [Runs.run] using related
    | succ k => exact along k

/-- What holds along all runs of the one holds of what the states of the other are related
to. -/
theorem Simulates.related {P : τ → Prop} (sim : Simulates step step' R M C D) (start : R s t)
    (steps : EachStep step s xs fun _ u x => C u x)
    (along : ∀ ys, (EachStep step' t ys fun _ v y => D v y) → EachState step' t ys fun _ v => P v) :
    EachState step s xs fun _ u => ∃ v, R u v ∧ P v := by
  obtain ⟨ys, -, steps', related⟩ := sim.run start steps
  intro pre member
  have front : xs.take pre.length = pre := (List.prefix_iff_eq_take.mp member).symm
  have here := related pre.length
  rw [front] at here
  exact ⟨_, here, along ys steps' _ (List.take_prefix _ _)⟩

end Runs
