import Erps.Calls.Frames

/-!
# Programs built from operations

`Built op m` says that `m` changes the state through the operations `op` only. What each
operation keeps, every program built from them keeps, so an invariant of a large program
is proved by one lemma for each operation and none for the program.
-/
namespace Calls

variable {κ σ γ : Type}

inductive Built (op : (α : Type) → Prog κ σ α → Prop) : {α : Type} → Prog κ σ α → Prop where
  | op {α : Type} {m : Prog κ σ α} (h : op α m) : Built op m
  | pure {α : Type} (a : α) : Built op (pure a)
  | read {α : Type} (f : σ → α) : Built op (read f)
  | call (c : κ) : Built op (call c)
  | bind {α β : Type} {m : Prog κ σ β} {k : β → Prog κ σ α} (first : Built op m)
      (next : ∀ b, Built op (k b)) : Built op (m >>= k)

namespace Built

variable {op : (α : Type) → Prog κ σ α → Prop} {α : Type} {m m' : Prog κ σ α}

theorem ite {p : Prop} [Decidable p] (yes : p → Built op m) (no : ¬p → Built op m') :
    Built op (if p then m else m') := by
  split
  · exact yes (by assumption)
  · exact no (by assumption)

theorem ifOk {ret : Int} {m : Prog κ σ Int} (h : Built op m) : Built op (Calls.ifOk ret m) :=
  ite (fun _ => h) fun _ => .pure ret

/-- A bind whose first program runs only if `p` holds. -/
theorem bindWhen {p : Prop} [Decidable p] {m : Prog κ σ Unit} {k : Unit → Prog κ σ α}
    (h : p → Built op m) (next : Built op (k ())) : Built op (if p then m >>= k else k ()) :=
  ite (fun yes => (h yes).bind fun _ => next) fun _ => next

/-- Programs built from some operations are built from more. -/
theorem mono {op' : (α : Type) → Prog κ σ α → Prop} (h : Built op m)
    (more : ∀ β (m : Prog κ σ β), op β m → op' β m) : Built op' m := by
  induction h with
  | op h => exact .op (more _ _ h)
  | pure a => exact .pure a
  | read f => exact .read f
  | call c => exact .call c
  | bind first next ih ihNext => exact .bind ih ihNext

theorem keeps {good : κ → Int → Prop} {P : σ → Prop} (h : Built op m)
    (each : ∀ β (m : Prog κ σ β), op β m → Keeps good P m) : Keeps good P m := by
  induction h with
  | op h => exact each _ _ h
  | pure a => exact keeps_pure
  | read f => exact fun s now => wp_read now
  | call c => exact fun s now => wp_call fun _ _ => now
  | bind first next ih ihNext => exact ih.bind ihNext

/-- What each operation leaves behind where it finds it, the program does. -/
theorem ends {good : κ → Int → Prop} {P : σ → Prop} (h : Built op m)
    (each : ∀ β (m : Prog κ σ β), op β m → ∀ s, P s → wp good anyState m (fun _ t => P t) s) :
    ∀ s, P s → wp good anyState m (fun _ t => P t) s := by
  induction h with
  | op h => exact each _ _ h
  | pure a => exact fun s now => wp_pure now
  | read f => exact fun s now => wp_read now
  | call c => exact fun s now => wp_call fun _ _ => now
  | bind first next ih ihNext => exact fun s now => wp_bind (wp_mono (ih s now) (ihNext ·))

theorem frames {good : κ → Int → Prop} {view : σ → γ} (h : Built op m)
    (each : ∀ β (m : Prog κ σ β), op β m → Frames good view m) : Frames good view m := by
  induction h with
  | op h => exact each _ _ h
  | pure a => exact frames_pure
  | read f => exact frames_read
  | call c => exact frames_call
  | bind first next ih ihNext => exact ih.bind ihNext

end Built

end Calls
