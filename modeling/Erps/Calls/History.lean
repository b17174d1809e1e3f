import Erps.Calls.Prog

/-!
# The states a program adds to the past

`Adds good H m` started in `t`: the program leaves the past of its run as it is and adds
`new` states to it, latest first, and `H` holds of these, of the result and of the state at
the end. Unlike `wp` it can tell what came before what. `zoom` runs a program on a part of a
larger state, and two loops run one program for each element of a list.
-/
namespace Calls

variable {κ σ τ α β ι : Type}

def Adds (good : κ → Int → Prop) (m : Prog κ τ α) (H : List τ → α → τ → Prop) (t : τ) : Prop :=
  ∀ ans, Respects good ans → ∀ r : Run τ, r.now = t → ∃ new,
    (m ans r).2.past = new ++ r.past ∧ H new (m ans r).1 (m ans r).2.now

/-- `P` holds of every state of a history and the states before it. -/
def Throughout (P : τ → List τ → Prop) : List τ → Prop
  | [] => True
  | t :: earlier => P t earlier ∧ Throughout P earlier

theorem Throughout.mono {P Q : τ → List τ → Prop} (weaker : ∀ t earlier, P t earlier → Q t earlier) :
    ∀ {states : List τ}, Throughout P states → Throughout Q states
  | [], _ => trivial
  | t :: earlier, h => ⟨weaker t earlier h.1, h.2.mono weaker⟩

theorem throughout_of_pairwise {R : τ → τ → Prop} :
    ∀ {states : List τ}, states.Pairwise R → Throughout (fun t earlier => ∀ u ∈ earlier, R t u) states
  | [], _ => trivial
  | _ :: _, h => by
    obtain ⟨latest, rest⟩ := List.pairwise_cons.mp h
    exact ⟨latest, throughout_of_pairwise rest⟩

/-- What happens on top of a past in which `P` held throughout. -/
theorem Throughout.append {P : τ → List τ → Prop} {past : List τ} (before : Throughout P past) :
    ∀ {new : List τ}, (∀ t earlier, t ∈ new → P t (earlier ++ past)) → Throughout P (new ++ past)
  | [], _ => before
  | t :: new, h =>
    ⟨h t new (by simp), before.append fun u earlier member => h u earlier (by simp [member])⟩

section
variable {good : κ → Int → Prop} {m : Prog κ τ α} {H : List τ → α → τ → Prop} {t : τ}

theorem adds_pure {a : α} (h : H [] a t) : Adds good (pure a) H t := by
  intro ans _ r same
  cases same
  exact ⟨[], rfl, h⟩

theorem adds_read {f : τ → α} (h : H [] (f t) t) : Adds good (read f) H t := by
  intro ans _ r same
  cases same
  exact ⟨[], rfl, h⟩

theorem adds_call {c : κ} {H : List τ → Int → τ → Prop} (h : ∀ v, good c v → H [] v t) :
    Adds good (call c) H t := by
  intro ans answers r same
  cases same
  exact ⟨[], rfl, h _ (answers r.calls c)⟩

theorem adds_write {f : τ → τ} {H : List τ → Unit → τ → Prop} (h : H [f t] () (f t)) :
    Adds good (write f) H t := by
  intro ans _ r same
  cases same
  exact ⟨[f r.now], rfl, h⟩

theorem adds_bind {m : Prog κ τ β} {k : β → Prog κ τ α}
    (h : Adds good m (fun new b u => Adds good (k b) (fun new' a v => H (new' ++ new) a v) u) t) :
    Adds good (m >>= k) H t := by
  intro ans answers r same
  obtain ⟨new, past, next⟩ := h ans answers r same
  obtain ⟨new', past', post⟩ := next ans answers (m ans r).2 rfl
  refine ⟨new' ++ new, ?_, post⟩
  rw [bind_apply, past', past, List.append_assoc]

theorem adds_mono {H' : List τ → α → τ → Prop} (h : Adds good m H' t)
    (weaker : ∀ new a v, H' new a v → H new a v) : Adds good m H t := by
  intro ans answers r same
  obtain ⟨new, past, post⟩ := h ans answers r same
  exact ⟨new, past, weaker new _ _ post⟩

theorem adds_ite {p : Prop} [Decidable p] {m' : Prog κ τ α} (yes : p → Adds good m H t)
    (no : ¬p → Adds good m' H t) : Adds good (if p then m else m') H t := by
  split
  · exact yes (by assumption)
  · exact no (by assumption)

theorem adds_ifOk {ret : Int} {m : Prog κ τ Int} {H : List τ → Int → τ → Prop}
    (ok : ret = 0 → Adds good m H t) (failed : ret ≠ 0 → H [] ret t) :
    Adds good (ifOk ret m) H t := by
  unfold ifOk
  exact adds_ite ok fun h => adds_pure (failed h)

theorem Adds.run (h : Adds good m H t) (ans : Answers κ) (answers : Respects good ans) :
    H (m.trace ans t) (m.result ans t) (m.final ans t) := by
  obtain ⟨new, past, post⟩ := h ans answers ⟨t, 0, []⟩ rfl
  have all : m.trace ans t = new := past.trans (List.append_nil new)
  rw [all]
  exact post

end

/-! ### A part of the state -/

/-- `m` on the part of the state that `get` reads and `put` writes. -/
def zoom (get : τ → σ) (put : τ → σ → τ) (m : Prog κ σ α) : Prog κ τ α := fun ans r =>
  let part := m ans ⟨get r.now, r.calls, []⟩
  (part.1, ⟨put r.now part.2.now, part.2.calls, part.2.past.map (put r.now) ++ r.past⟩)

section
variable {good : κ → Int → Prop} {get : τ → σ} {put : τ → σ → τ} {m : Prog κ σ α}
  {H : List τ → α → τ → Prop} {t : τ}

theorem adds_zoom (h : Adds good m (fun new a s => H (new.map (put t)) a (put t s)) (get t)) :
    Adds good (zoom get put m) H t := by
  intro ans answers r same
  subst same
  obtain ⟨new, past, post⟩ := h ans answers ⟨get r.now, r.calls, []⟩ rfl
  refine ⟨new.map (put r.now), ?_, post⟩
  have all : (m ans ⟨get r.now, r.calls, []⟩).2.past = new := past.trans (List.append_nil new)
  rw [← all]
  rfl

/-- What `wp` says of the part. -/
theorem adds_zoom_of_wp {always : σ → Prop} {Q : α → σ → Prop} (h : wp good always m Q (get t)) :
    Adds good (zoom get put m) (fun new a v => (∀ u ∈ new, ∃ s, always s ∧ u = put t s) ∧
      ∃ s, Q a s ∧ v = put t s) t := by
  intro ans answers r same
  subst same
  obtain ⟨post, passes⟩ := h ans answers ⟨get r.now, r.calls, []⟩ rfl (by simp)
  refine ⟨_, rfl, ?_, _, post, rfl⟩
  intro u member
  obtain ⟨s, passed, rfl⟩ := List.mem_map.mp member
  exact ⟨s, passes s passed, rfl⟩

end

/-! ### Loops -/

/-- A loop that ends at the first error and returns it. -/
def untilError (f : ι → Prog κ σ Int) : List ι → Prog κ σ Int
  | [] => pure 0
  | i :: rest => do
    let ret ← f i
    ifOk ret (untilError f rest)

def forEach (f : ι → Prog κ σ Unit) : List ι → Prog κ σ Unit
  | [] => pure ()
  | i :: rest => do
    f i
    forEach f rest

section
variable {good : κ → Int → Prop} {P : List ι → τ → Prop}

/-- `H` is what every round does to the history, and `P` what holds before the rounds that
are left. -/
theorem adds_untilError {f : ι → Prog κ τ Int} {H : τ → List τ → τ → Prop} (stays : ∀ t, H t [] t)
    (trans : ∀ t new u new' v, H t new u → H u new' v → H t (new' ++ new) v)
    (round : ∀ i rest t, P (i :: rest) t →
      Adds good (f i) (fun new ret v => H t new v ∧ (ret = 0 → P rest v)) t) :
    ∀ (todo : List ι) t, P todo t →
      Adds good (untilError f todo) (fun new ret v => H t new v ∧ (ret = 0 → P [] v)) t
  | [], t, now => adds_pure ⟨stays t, fun _ => now⟩
  | i :: rest, t, now => by
    refine adds_bind (adds_mono (round i rest t now) ?_)
    rintro new ret u ⟨first, next⟩
    refine adds_ifOk (fun ok => ?_) fun failed => ?_
    · refine adds_mono (adds_untilError stays trans round rest u (next ok)) ?_
      rintro new' ret' v ⟨second, last⟩
      exact ⟨trans t new u new' v first second, last⟩
    · exact ⟨first, fun ok => absurd ok failed⟩

theorem adds_forEach {f : ι → Prog κ τ Unit} {A : τ → Prop}
    (round : ∀ i rest t, P (i :: rest) t →
      Adds good (f i) (fun new _ v => (∀ u ∈ new, A u) ∧ P rest v) t) :
    ∀ (todo : List ι) t, P todo t →
      Adds good (forEach f todo) (fun new _ v => (∀ u ∈ new, A u) ∧ P [] v) t
  | [], t, now => adds_pure ⟨by simp, now⟩
  | i :: rest, t, now => by
    refine adds_bind (adds_mono (round i rest t now) ?_)
    rintro new _ u ⟨first, next⟩
    refine adds_mono (adds_forEach round rest u next) ?_
    rintro new' _ v ⟨second, last⟩
    refine ⟨?_, last⟩
    intro w member
    rcases List.mem_append.mp member with later | sooner
    · exact second w later
    · exact first w sooner

/-- What every round keeps. -/
theorem adds_forEach_keeps {f : ι → Prog κ τ Unit} {I : τ → Prop}
    (round : ∀ i t, I t → Adds good (f i) (fun _ _ v => I v) t) (todo : List ι) {t : τ} (now : I t) :
    Adds good (forEach f todo) (fun _ _ v => I v) t := by
  refine adds_mono (adds_forEach (P := fun _ => I) (A := fun _ => True) ?_ todo t now) ?_
  · exact fun i _ u now => adds_mono (round i u now) fun _ _ _ kept => ⟨fun _ _ => trivial, kept⟩
  · exact fun _ _ _ kept => kept.2

end

end Calls
