import Erps.Calls.Prog

/-!
# Frames, invariants and outcomes of programs

`Frames good view m` says that `m` never changes what `view` sees of the state, and
`Keeps good P m` that it keeps `P`; both speak of all the points of a run and not
only of its end. `Acts good view R m` says what `m` has done to what `view` sees once
it ends. All three are proved along the program, one rule for each way to build it.
-/
namespace Calls

variable {κ σ α β γ δ : Type}

def Frames (good : κ → Int → Prop) (view : σ → γ) (m : Prog κ σ α) : Prop :=
  ∀ (always : γ → Prop) s, always (view s) →
    wp good (fun t => always (view t)) m (fun _ t => view t = view s) s

def Keeps (good : κ → Int → Prop) (P : σ → Prop) (m : Prog κ σ α) : Prop :=
  ∀ s, P s → wp good P m (fun _ t => P t) s

/-- `R` relates what is seen before to the result and what is seen after. -/
def Acts (good : κ → Int → Prop) (view : σ → γ) (R : γ → α → γ → Prop) (m : Prog κ σ α) :
    Prop :=
  ∀ s, wp good anyState m (fun a t => R (view s) a (view t)) s

section
variable {good : κ → Int → Prop} {view : σ → γ} {m : Prog κ σ α}

theorem frames_pure {a : α} : Frames good view (pure a : Prog κ σ α) := fun _ _ _ => wp_pure rfl

theorem frames_read {f : σ → α} : Frames good view (read f : Prog κ σ α) :=
  fun _ _ _ => wp_read rfl

theorem frames_call {c : κ} : Frames good view (call c : Prog κ σ Int) :=
  fun _ _ _ => wp_call fun _ _ => rfl

theorem frames_write {f : σ → σ} (same : ∀ s, view (f s) = view s) :
    Frames good view (write f : Prog κ σ Unit) := by
  intro always s now
  refine wp_write ?_ (same s)
  rwa [same s]

theorem Frames.bind {m : Prog κ σ β} {k : β → Prog κ σ α} (h : Frames good view m)
    (next : ∀ b, Frames good view (k b)) : Frames good view (m >>= k) := by
  intro always s now
  refine wp_bind (wp_mono (h always s now) ?_)
  intro b t same
  refine wp_mono (next b always t (by rwa [same])) ?_
  intro a u same'
  exact same'.trans same

theorem frames_ite {p : Prop} [Decidable p] {m' : Prog κ σ α} (yes : p → Frames good view m)
    (no : ¬p → Frames good view m') : Frames good view (if p then m else m') := by
  split
  · exact yes (by assumption)
  · exact no (by assumption)

theorem Frames.ifOk {ret : Int} {m : Prog κ σ Int} (h : Frames good view m) :
    Frames good view (ifOk ret m) :=
  frames_ite (fun _ => h) fun _ => frames_pure

/-- Less is seen through less. -/
theorem Frames.through (g : γ → δ) (h : Frames good view m) : Frames good (fun s => g (view s)) m := by
  intro always s now
  refine wp_mono (h (fun v => always (g v)) s now) ?_
  intro a t same
  exact congrArg g same

/-- What is not seen has no influence on where a run ends. -/
theorem Frames.ends (h : Frames good view m) (s : σ) :
    wp good anyState m (fun _ t => view t = view s) s :=
  h (fun _ => True) s trivial

/-- A program that starts with one that leaves `view` alone. -/
theorem Frames.wp_bind {always : γ → Prop} {m : Prog κ σ β} {k : β → Prog κ σ α}
    {Q : α → σ → Prop} {s : σ} (h : Frames good view m) (now : always (view s))
    (next : ∀ b t, view t = view s → wp good (fun t => always (view t)) (k b) Q t) :
    wp good (fun t => always (view t)) (m >>= k) Q s :=
  Calls.wp_bind (wp_mono (h always s now) next)

theorem Frames.keeps {P : γ → Prop} (h : Frames good view m) :
    Keeps good (fun s => P (view s)) m := by
  intro s now
  refine wp_mono (h P s now) ?_
  intro a t same
  have kept : P (view t) := by rwa [same]
  exact kept

end

section
variable {good : κ → Int → Prop} {P : σ → Prop} {m : Prog κ σ α}

theorem keeps_pure {a : α} : Keeps good P (pure a : Prog κ σ α) := fun _ now => wp_pure now

theorem Keeps.bind {m : Prog κ σ β} {k : β → Prog κ σ α} (h : Keeps good P m)
    (next : ∀ b, Keeps good P (k b)) : Keeps good P (m >>= k) :=
  fun s now => wp_bind (wp_mono (h s now) next)

theorem keeps_read {f : σ → β} {k : β → Prog κ σ α} (next : ∀ b, Keeps good P (k b)) :
    Keeps good P (read f >>= k) :=
  fun s now => wp_bind (wp_read (next (f s) s now))

theorem keeps_write {f : σ → σ} (kept : ∀ s, P s → P (f s)) : Keeps good P (write f : Prog κ σ Unit) :=
  fun s now => wp_write (kept s now) (kept s now)

theorem keeps_ite {p : Prop} [Decidable p] {m' : Prog κ σ α} (yes : p → Keeps good P m)
    (no : ¬p → Keeps good P m') : Keeps good P (if p then m else m') := by
  split
  · exact yes (by assumption)
  · exact no (by assumption)

/-- A bind whose first program runs only if `p` holds. -/
theorem keeps_bindWhen {p : Prop} [Decidable p] {m : Prog κ σ Unit} {k : Unit → Prog κ σ α}
    (h : p → Keeps good P m) (next : Keeps good P (k ())) :
    Keeps good P (if p then m >>= k else k ()) :=
  keeps_ite (fun yes => (h yes).bind fun _ => next) fun _ => next

/-- A bind whose first program is one of two. -/
theorem keeps_bindIte {p : Prop} [Decidable p] {m m' : Prog κ σ β} {k : β → Prog κ σ α}
    (h : Keeps good P (if p then m else m')) (next : ∀ b, Keeps good P (k b)) :
    Keeps good P (if p then m >>= k else m' >>= k) := by
  rw [← ite_bind]
  exact h.bind next

theorem Keeps.ifOk {ret : Int} {m : Prog κ σ Int} (h : Keeps good P m) :
    Keeps good P (ifOk ret m) :=
  keeps_ite (fun _ => h) fun _ => keeps_pure

end

section
variable {good : κ → Int → Prop} {view : σ → γ} {R : γ → α → γ → Prop} {m : Prog κ σ α}

theorem acts_pure {a : α} (same : ∀ v, R v a v) : Acts good view R (pure a : Prog κ σ α) :=
  fun _ => wp_pure (same _)

theorem Acts.mono {R' : γ → α → γ → Prop} (h : Acts good view R m)
    (weaker : ∀ v a w, R v a w → R' v a w) : Acts good view R' m :=
  fun s => wp_mono (h s) fun a _ => weaker _ a _

theorem Frames.acts (h : Frames good view m) (same : ∀ v a, R v a v) : Acts good view R m := by
  intro s
  refine wp_mono (h.ends s) ?_
  intro a t kept
  rw [kept]
  exact same _ a

/-- What happens after a program that leaves `view` alone is all that is seen. -/
theorem Frames.thenActs {m : Prog κ σ β} {k : β → Prog κ σ α} (h : Frames good view m)
    (next : ∀ b, Acts good view R (k b)) : Acts good view R (m >>= k) := by
  intro s
  refine Calls.wp_bind (wp_mono (h.ends s) ?_)
  intro b t same
  rw [← same]
  exact next b t

theorem acts_ite {p : Prop} [Decidable p] {m' : Prog κ σ α} (yes : p → Acts good view R m)
    (no : ¬p → Acts good view R m') : Acts good view R (if p then m else m') := by
  split
  · exact yes (by assumption)
  · exact no (by assumption)

end

end Calls
