import Erps.Calls.Frames

/-!
# Runs by the numbers of their calls

`numbered ans k m Q s` speaks of the one run of `m` that starts in `s`, is given the answers
`ans` and makes the `k`-th call first: `Q` holds of its result, of the number of the call
that would be next, and of its state at the end. Where `wp` says what a program does whatever
it is answered, this says what it does with these answers.
-/
namespace Calls

variable {κ σ α β : Type}

def numbered (ans : Answers κ) (k : Nat) (m : Prog κ σ α) (Q : α → Nat → σ → Prop) (s : σ) : Prop :=
  ∀ past, Q (m ans ⟨s, k, past⟩).1 (m ans ⟨s, k, past⟩).2.calls (m ans ⟨s, k, past⟩).2.now

/-- No kernel that answers every call well gives this run: some call it made has failed. -/
def Prog.Fails (good : κ → Int → Prop) (m : Prog κ σ α) (ans : Answers κ) (s : σ) : Prop :=
  ∀ ans', Respects good ans' → m ans' ⟨s, 0, []⟩ ≠ m ans ⟨s, 0, []⟩

section
variable {ans : Answers κ} {k : Nat} {m : Prog κ σ α} {Q : α → Nat → σ → Prop} {s : σ}

theorem numbered.run (h : numbered ans 0 m Q s) : ∃ k, Q (m.result ans s) k (m.final ans s) :=
  ⟨_, h []⟩

/-- What holds whatever is answered. -/
theorem wp.numbered {good : κ → Int → Prop} {Q : α → σ → Prop} (h : wp good anyState m Q s)
    (answers : Respects good ans) : numbered ans k m (fun a _ t => Q a t) s :=
  fun past => (h ans answers ⟨s, k, past⟩ rfl fun _ _ => trivial).1

theorem Frames.numbered {γ : Type} {view : σ → γ} (h : Frames anyAnswer view m) (s : σ) :
    Calls.numbered ans k m (fun _ _ t => view t = view s) s :=
  (h.ends s).numbered (respects_any ans)

theorem numbered.and {Q' : α → Nat → σ → Prop} (h : numbered ans k m Q s) (h' : numbered ans k m Q' s) :
    numbered ans k m (fun a l t => Q a l t ∧ Q' a l t) s :=
  fun past => ⟨h past, h' past⟩

theorem numbered_mono {Q' : α → Nat → σ → Prop} (h : numbered ans k m Q' s)
    (weaker : ∀ a l t, Q' a l t → Q a l t) : numbered ans k m Q s :=
  fun past => weaker _ _ _ (h past)

theorem numbered_pure {a : α} (h : Q a k s) : numbered ans k (pure a) Q s := fun _ => h

theorem numbered_bind {m : Prog κ σ β} {f : β → Prog κ σ α}
    (h : numbered ans k m (fun b l t => numbered ans l (f b) Q t) s) : numbered ans k (m >>= f) Q s :=
  fun past => h past (m ans ⟨s, k, past⟩).2.past

theorem numbered_read {f : σ → α} (h : Q (f s) k s) : numbered ans k (read f) Q s := fun _ => h

theorem numbered_write {f : σ → σ} {Q : Unit → Nat → σ → Prop} (h : Q () k (f s)) :
    numbered ans k (write f) Q s := fun _ => h

theorem numbered_call {c : κ} {Q : Int → Nat → σ → Prop} (h : Q (ans k c) (k + 1) s) :
    numbered ans k (call c) Q s := fun _ => h

theorem numbered_ite {p : Prop} [Decidable p] {m' : Prog κ σ α} (yes : p → numbered ans k m Q s)
    (no : ¬p → numbered ans k m' Q s) : numbered ans k (if p then m else m') Q s := by
  split
  · exact yes (by assumption)
  · exact no (by assumption)

/-- A bind whose first program is one of two. -/
theorem numbered_bindIte {p : Prop} [Decidable p] {m m' : Prog κ σ β} {f : β → Prog κ σ α}
    (h : numbered ans k (if p then m else m') (fun b l t => numbered ans l (f b) Q t) s) :
    numbered ans k (if p then m >>= f else m' >>= f) Q s := by
  rw [← ite_bind]
  exact numbered_bind h

theorem numbered_ifOk {ret : Int} {m : Prog κ σ Int} {Q : Int → Nat → σ → Prop}
    (ok : ret = 0 → numbered ans k m Q s) (failed : ret ≠ 0 → Q ret k s) :
    numbered ans k (ifOk ret m) Q s :=
  numbered_ite ok fun h => numbered_pure (failed h)

end

end Calls
