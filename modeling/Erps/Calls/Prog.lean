import Mathlib.Data.List.Basic

/-!
# Programs over calls that may fail

A program reads and writes a state `σ` and makes calls, of a type `κ`, to code
that is not part of it. Whoever runs the program supplies the answers: the
answer to a call depends on the call and on how many calls came before it, so
two equal calls may be answered differently. Every state a write leaves behind
is kept, latest first, so that a property can be asked of all the points a run
passes through and not only of its end.

`wp good always m Q s` says that `m`, started in `s`, ends in a result and a
state that satisfy `Q` and passes only through states that satisfy `always`,
whatever the answers are, as long as each one is a `good` answer to its call.
-/
namespace Calls

variable {κ σ α β : Type}

/-- A run of a program: its state, the number of calls made so far and the
states written so far. -/
structure Run (σ : Type) where
  now : σ
  calls : Nat
  past : List σ

/-- What the calls answer, by position and by call. -/
abbrev Answers (κ : Type) := Nat → κ → Int

def Prog (κ σ α : Type) : Type := Answers κ → Run σ → α × Run σ

instance : Monad (Prog κ σ) where
  pure a := fun _ r => (a, r)
  bind m k := fun ans r => k (m ans r).1 ans (m ans r).2

instance : LawfulMonad (Prog κ σ) where
  map_const := rfl
  id_map _ := rfl
  seqLeft_eq _ _ := rfl
  seqRight_eq _ _ := rfl
  pure_seq _ _ := rfl
  bind_pure_comp _ _ := rfl
  bind_map _ _ := rfl
  pure_bind _ _ := rfl
  bind_assoc _ _ _ := rfl

/-- Make a call and return its answer. -/
def call (c : κ) : Prog κ σ Int :=
  fun ans r => (ans r.calls c, { r with calls := r.calls + 1 })

def read (f : σ → α) : Prog κ σ α := fun _ r => (f r.now, r)

/-- Change the state; the new state joins the ones the run passed through. -/
def write (f : σ → σ) : Prog κ σ Unit :=
  fun _ r => ((), { r with now := f r.now, past := f r.now :: r.past })

/-- `if (!ret) ret = m();` -/
def ifOk (ret : Int) (m : Prog κ σ Int) : Prog κ σ Int := if ret = 0 then m else pure ret

theorem bind_apply (m : Prog κ σ β) (k : β → Prog κ σ α) (ans : Answers κ) (r : Run σ) :
    (m >>= k) ans r = k (m ans r).1 ans (m ans r).2 := rfl

theorem ite_bind {p : Prop} [Decidable p] (m m' : Prog κ σ β) (k : β → Prog κ σ α) :
    (if p then m else m') >>= k = if p then m >>= k else m' >>= k := by
  split <;> rfl

/-- The result of a program started in `s`. -/
def Prog.result (m : Prog κ σ α) (ans : Answers κ) (s : σ) : α := (m ans ⟨s, 0, []⟩).1

/-- The state a program started in `s` ends in. -/
def Prog.final (m : Prog κ σ α) (ans : Answers κ) (s : σ) : σ := (m ans ⟨s, 0, []⟩).2.now

/-- The states a program started in `s` passes through. -/
def Prog.trace (m : Prog κ σ α) (ans : Answers κ) (s : σ) : List σ := (m ans ⟨s, 0, []⟩).2.past

/-- Every answer is a good one. -/
def Respects (good : κ → Int → Prop) (ans : Answers κ) : Prop := ∀ n c, good c (ans n c)

/-- Any answer will do. -/
def anyAnswer : κ → Int → Prop := fun _ _ => True

theorem respects_any (ans : Answers κ) : Respects anyAnswer ans := fun _ _ => trivial

/-- Any state will do. -/
def anyState : σ → Prop := fun _ => True

def wp (good : κ → Int → Prop) (always : σ → Prop) (m : Prog κ σ α) (Q : α → σ → Prop)
    (s : σ) : Prop :=
  ∀ ans, Respects good ans → ∀ r : Run σ, r.now = s → (∀ t ∈ r.past, always t) →
    Q (m ans r).1 (m ans r).2.now ∧ ∀ t ∈ (m ans r).2.past, always t

/-! ### From the judgement to runs -/

section
variable {good : κ → Int → Prop} {always : σ → Prop} {m : Prog κ σ α} {Q : α → σ → Prop}
  {s : σ}

theorem wp.post (h : wp good always m Q s) (ans : Answers κ) (answers : Respects good ans) :
    Q (m.result ans s) (m.final ans s) :=
  (h ans answers ⟨s, 0, []⟩ rfl (by simp)).1

theorem wp.passes (h : wp good always m Q s) (ans : Answers κ) (answers : Respects good ans) :
    ∀ t ∈ m.trace ans s, always t :=
  (h ans answers ⟨s, 0, []⟩ rfl (by simp)).2

/-! ### One rule for each way to build a program -/

theorem wp_pure {a : α} (h : Q a s) : wp good always (pure a) Q s := by
  intro ans _ r same passed
  cases same
  exact ⟨h, passed⟩

theorem wp_bind {m : Prog κ σ β} {k : β → Prog κ σ α}
    (h : wp good always m (fun b t => wp good always (k b) Q t) s) :
    wp good always (m >>= k) Q s := by
  intro ans answers r same passed
  obtain ⟨next, through⟩ := h ans answers r same passed
  exact next ans answers (m ans r).2 rfl through

theorem wp_read {f : σ → α} (h : Q (f s) s) : wp good always (read f) Q s := by
  intro ans _ r same passed
  cases same
  exact ⟨h, passed⟩

theorem wp_write {f : σ → σ} {Q : Unit → σ → Prop} (ok : always (f s)) (h : Q () (f s)) :
    wp good always (write f) Q s := by
  intro ans _ r same passed
  cases same
  refine ⟨h, ?_⟩
  intro t member
  rcases List.mem_cons.mp member with rfl | old
  · exact ok
  · exact passed t old

theorem wp_call {c : κ} {Q : Int → σ → Prop} (h : ∀ v, good c v → Q v s) :
    wp good always (call c) Q s := by
  intro ans answers r same passed
  cases same
  exact ⟨h _ (answers r.calls c), passed⟩

theorem wp_ite {p : Prop} [Decidable p] {m' : Prog κ σ α}
    (yes : p → wp good always m Q s) (no : ¬p → wp good always m' Q s) :
    wp good always (if p then m else m') Q s := by
  split
  · exact yes (by assumption)
  · exact no (by assumption)

/-- A bind whose first program is one of two. -/
theorem wp_bindIte {p : Prop} [Decidable p] {m m' : Prog κ σ β} {k : β → Prog κ σ α}
    (h : wp good always (if p then m else m') (fun b t => wp good always (k b) Q t) s) :
    wp good always (if p then m >>= k else m' >>= k) Q s := by
  split at h
  · next yes => simpa only [yes, if_true] using wp_bind h
  · next no => simpa only [no, if_false] using wp_bind h

/-- A bind whose first program runs only if `p` holds. -/
theorem wp_bindWhen {p : Prop} [Decidable p] {m : Prog κ σ Unit} {k : Unit → Prog κ σ α}
    (h : wp good always (if p then m else pure ()) (fun b t => wp good always (k b) Q t) s) :
    wp good always (if p then m >>= k else k ()) Q s := by
  have both : (if p then m >>= k else pure () >>= k) = if p then m >>= k else k () := rfl
  rw [← both]
  exact wp_bindIte h

theorem wp_ifOk {ret : Int} {m : Prog κ σ Int} {Q : Int → σ → Prop}
    (ok : ret = 0 → wp good always m Q s) (failed : ret ≠ 0 → Q ret s) :
    wp good always (ifOk ret m) Q s := by
  unfold ifOk
  exact wp_ite ok fun h => wp_pure (failed h)

/-- Every run ends somewhere. -/
theorem wp_ends : wp good anyState m (fun _ _ => True) s :=
  fun _ _ _ _ _ => ⟨trivial, fun _ _ => trivial⟩

/-- Two things that hold of the same runs. -/
theorem wp.and {Q' : α → σ → Prop} (h : wp good always m Q s) (h' : wp good always m Q' s) :
    wp good always m (fun a t => Q a t ∧ Q' a t) s := by
  intro ans answers r same passed
  obtain ⟨post, through⟩ := h ans answers r same passed
  exact ⟨⟨post, (h' ans answers r same passed).1⟩, through⟩

/-- Something else that holds where the same runs end. -/
theorem wp.andEnds {Q' : α → σ → Prop} (h : wp good always m Q s) (h' : wp good anyState m Q' s) :
    wp good always m (fun a t => Q a t ∧ Q' a t) s := by
  intro ans answers r same passed
  obtain ⟨post, through⟩ := h ans answers r same passed
  exact ⟨⟨post, (h' ans answers r same fun _ _ => trivial).1⟩, through⟩

/-- Fewer answers allow no more runs. -/
theorem wp.answers {good' : κ → Int → Prop} (h : wp good' always m Q s)
    (fewer : ∀ c v, good c v → good' c v) : wp good always m Q s :=
  fun ans answers => h ans fun n c => fewer c _ (answers n c)

theorem wp_mono {Q' : α → σ → Prop} (h : wp good always m Q' s)
    (weaker : ∀ a t, Q' a t → Q a t) : wp good always m Q s := by
  intro ans answers r same passed
  obtain ⟨post, through⟩ := h ans answers r same passed
  exact ⟨weaker _ _ post, through⟩

end

end Calls
