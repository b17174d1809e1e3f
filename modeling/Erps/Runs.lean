import Mathlib.Data.List.Infix

/-!
# Runs of a step function

A step function and a start state turn every list of inputs into a run. Two
ways to speak about all of a run: `EachState` about the state after every prefix
of the inputs, with that prefix as the history, and `EachStep` about every step,
with the history and the state before it. Invariants are proved for a whole run
by `eachState_of_eachStep`; `eachState_iff_eachStep` says when a property that
is not an invariant holds along a run. `Since` and `latestSince` speak about the past:
something happened, and nothing has ended it after that.
-/
namespace Runs

variable {σ ι : Type}

def run (step : σ → ι → σ) (s : σ) (xs : List ι) : σ := xs.foldl step s

@[simp] theorem run_concat (step : σ → ι → σ) (s : σ) (xs : List ι) (x : ι) :
    run step s (xs ++ [x]) = step (run step s xs) x := by
  simp [run]

theorem run_append (step : σ → ι → σ) (s : σ) (xs ys : List ι) :
    run step s (xs ++ ys) = run step (run step s xs) ys := List.foldl_append

/-- Every state of the run satisfies `P`, given the inputs that led to it. -/
def EachState (step : σ → ι → σ) (s : σ) (xs : List ι) (P : List ι → σ → Prop) : Prop :=
  ∀ pre, pre <+: xs → P pre (run step s pre)

/-- Every step of the run satisfies `C`, given the inputs and the state before it. -/
def EachStep (step : σ → ι → σ) (s : σ) (xs : List ι) (C : List ι → σ → ι → Prop) : Prop :=
  ∀ pre x, pre ++ [x] <+: xs → C pre (run step s pre) x

variable {step : σ → ι → σ} {s : σ} {xs : List ι}

theorem EachState.last {P : List ι → σ → Prop} (h : EachState step s xs P) :
    P xs (run step s xs) :=
  h xs List.prefix_rfl

theorem EachState.start {P : List ι → σ → Prop} (h : EachState step s xs P) : P [] s :=
  h [] List.nil_prefix

theorem EachState.mono {P Q : List ι → σ → Prop} (h : EachState step s xs P)
    (weaker : ∀ pre t, P pre t → Q pre t) : EachState step s xs Q :=
  fun pre member => weaker pre _ (h pre member)

theorem EachStep.mono {C D : List ι → σ → ι → Prop} (h : EachStep step s xs C)
    (weaker : ∀ pre t x, C pre t x → D pre t x) : EachStep step s xs D :=
  fun pre x member => weaker pre _ x (h pre x member)

theorem EachStep.and {C D : List ι → σ → ι → Prop} (h : EachStep step s xs C) (h' : EachStep step s xs D) :
    EachStep step s xs fun pre t x => C pre t x ∧ D pre t x :=
  fun pre x member => ⟨h pre x member, h' pre x member⟩

/-- The later part of a run is a run from where the earlier part ends. -/
theorem EachState.later {P : List ι → σ → Prop} {ys : List ι} (h : EachState step s (xs ++ ys) P) :
    EachState step (run step s xs) ys fun pre => P (xs ++ pre) := by
  intro pre member
  rw [← run_append]
  exact h (xs ++ pre) ((List.prefix_append_right_inj xs).mpr member)

theorem EachStep.later {C : List ι → σ → ι → Prop} {ys : List ι} (h : EachStep step s (xs ++ ys) C) :
    EachStep step (run step s xs) ys fun pre => C (xs ++ pre) := by
  intro pre x member
  rw [← run_append]
  refine h (xs ++ pre) x ?_
  rw [List.append_assoc]
  exact (List.prefix_append_right_inj xs).mpr member

/-- A condition on the inputs alone is met at each step. -/
theorem eachStep_of_forall {Ok : ι → Prop} (h : ∀ x ∈ xs, Ok x) :
    EachStep step s xs (fun _ _ x => Ok x) :=
  fun _ x member => h x (member.subset (by simp))

theorem eachStep_nil {C : List ι → σ → ι → Prop} : EachStep step s [] C := by
  intro pre x member
  have none : pre ++ [x] = [] := List.prefix_nil.mp member
  simp at none

theorem eachStep_cons {x : ι} {C : List ι → σ → ι → Prop} (first : C [] s x)
    (rest : EachStep step (step s x) xs fun pre => C (x :: pre)) : EachStep step s (x :: xs) C := by
  rintro (_ | ⟨y, pre⟩) z member
  · have same : z = x := by simpa using member
    rwa [same]
  · obtain ⟨rfl, later⟩ := List.cons_prefix_cons.mp member
    exact rest pre z later

/-- The induction behind every invariant: `P` holds at the start and each step
that is taken keeps it. -/
theorem eachState_of_eachStep {P : List ι → σ → Prop} {C : List ι → σ → ι → Prop}
    (start : P [] s) (steps : EachStep step s xs C)
    (next : ∀ pre t x, t = run step s pre → C pre t x → P pre t → P (pre ++ [x]) (step t x)) :
    EachState step s xs P := by
  intro pre
  induction pre using List.reverseRecOn with
  | nil => exact fun _ => start
  | append_singleton pre x ih =>
    intro member
    have before : P pre (run step s pre) := ih ((List.prefix_append pre [x]).trans member)
    rw [run_concat]
    exact next pre _ x rfl (steps pre x member) before

/-- Where `I` holds along the run and a step from a state with `P` leads to one
with `P` exactly if it meets `C`, the whole run has `P` exactly if each step
meets `C`. -/
theorem eachState_iff_eachStep {I P : List ι → σ → Prop} {C : List ι → σ → ι → Prop}
    (inv : EachState step s xs I) (start : P [] s)
    (next : ∀ pre t x, t = run step s pre → pre ++ [x] <+: xs → I pre t → P pre t →
      (P (pre ++ [x]) (step t x) ↔ C pre t x)) :
    EachState step s xs P ↔ EachStep step s xs C := by
  constructor
  · intro all pre x member
    have shorter : pre <+: xs := (List.prefix_append pre [x]).trans member
    have after := all (pre ++ [x]) member
    rw [run_concat] at after
    exact (next pre _ x rfl member (inv pre shorter) (all pre shorter)).mp after
  · intro steps pre
    induction pre using List.reverseRecOn with
    | nil => exact fun _ => start
    | append_singleton pre x ih =>
      intro member
      have shorter : pre <+: xs := (List.prefix_append pre [x]).trans member
      rw [run_concat]
      exact (next pre _ x rfl member (inv pre shorter) (ih shorter)).mpr (steps pre x member)

/-! ### The past -/

/-- The inputs of a run, each with the state it was given to. -/
def history (step : σ → ι → σ) (s : σ) : List ι → List (σ × ι)
  | [] => []
  | x :: xs => (s, x) :: history step (step s x) xs

theorem history_concat (step : σ → ι → σ) (s : σ) (xs : List ι) (x : ι) :
    history step s (xs ++ [x]) = history step s xs ++ [(run step s xs, x)] := by
  induction xs generalizing s with
  | nil => rfl
  | cons y ys ih => simp [history, run, ih]

section
variable {α : Type} {starts ends : α → Prop} {xs : List α}

/-- An element that `starts` is in the list, and none after it `ends`. -/
def Since (starts ends : α → Prop) (xs : List α) : Prop :=
  ∃ pre x post, xs = pre ++ x :: post ∧ starts x ∧ ∀ y ∈ post, ¬ends y

theorem not_since_nil : ¬Since starts ends [] := by
  rintro ⟨pre, x, post, same, -⟩
  simp at same

theorem since_concat (y : α) :
    Since starts ends (xs ++ [y]) ↔ starts y ∨ (Since starts ends xs ∧ ¬ends y) := by
  constructor
  · rintro ⟨pre, x, post, same, started, standing⟩
    rcases List.eq_nil_or_concat post with rfl | ⟨front, last, rfl⟩
    · have last : y = x := by
        have := congrArg List.getLast? same
        simpa using this
      exact .inl (last ▸ started)
    · have split : xs ++ [y] = (pre ++ x :: front) ++ [last] := by simpa using same
      obtain ⟨rfl, lasts⟩ := List.append_inj' split rfl
      cases lasts
      refine .inr ⟨⟨pre, x, front, rfl, started, ?_⟩, standing y (by simp)⟩
      exact fun z member => standing z (by simp [member])
  · rintro (started | ⟨⟨pre, x, post, rfl, started, standing⟩, kept⟩)
    · exact ⟨xs, y, [], by simp, started, by simp⟩
    · refine ⟨pre, x, post ++ [y], by simp, started, ?_⟩
      intro z member
      rcases List.mem_append.mp member with old | new
      · exact standing z old
      · rw [List.mem_singleton.mp new]
        exact kept

end

section
variable {α β : Type}

/-- The latest value after the latest element that `ends`. -/
def latestSince (ends : α → Bool) (value : α → Option β) (xs : List α) : Option β :=
  (xs.reverse.takeWhile fun x => !ends x).findSome? value

theorem latestSince_concat {ends : α → Bool} {value : α → Option β} (xs : List α) (x : α) :
    latestSince ends value (xs ++ [x]) =
      if ends x then none else (value x).or (latestSince ends value xs) := by
  unfold latestSince
  rw [List.reverse_concat, List.takeWhile_cons]
  cases ended : ends x with
  | true => rfl
  | false => cases shown : value x <;> simp [shown]

end

end Runs
