import Erps.Nets.Progress
import Erps.Properties.WireRefines

/-!
# What nodes have listened to

A frame that reaches a node may be one of another ring, or come while the guard timer runs. It
counts when the node takes a request from it. What a node has become then depends on how often
it has taken the request, if every station and message keeps to it and the request brings the
station further.
-/
namespace Erps

open Calls Runs

namespace Wire

variable {n : Nat} {w v : Wire n} {x : WireStep n} {i : Fin n} {req : RapsRequest}

/-- The step is one in which the node takes the request from a frame. -/
def Takes (req : RapsRequest) (i : Fin n) (w : Wire n) : WireStep n → Prop
  | .receive j dev k _ => j = i ∧ ∃ f lnk pdu, w.inFlight[k]? = some f ∧
    (w.nodes i).Takes dev f.pkt lnk req pdu
  | _ => False

theorem Takes.posts (h : w.Takes req i x) (permits : Permits x) (formed : (w.nodes i).setup.WellFormed) :
    ∃ o lnk, ((w.step x).nodes i).ctl = (w.nodes i).ctl.post o lnk req.request := by
  cases x with
  | receive j dev k ans =>
    obtain ⟨rfl, f, lnk, pdu, found, takes⟩ := h
    have posts : wp Success anyState (erpsRecv dev f.pkt) _ _ := erpsRecv_posts (w.nodes j) formed takes
    refine ⟨(w.nodes j).setup.seenWith (some pdu), lnk, ?_⟩
    simp only [step, found, update_nodes, if_true]
    exact posts.post ans permits
  | event | transmit | lose | elapse => exact h.elim

/-- How often a node has taken the request. -/
noncomputable def hearings (w : Wire n) (req : RapsRequest) (xs : List (WireStep n)) (i : Fin n) : Nat :=
  stepCount (Takes req i) Wire.step w xs

variable {I : Fin n → Nat → Station → Prop} {J : Message → Prop} {C : Fin n → Ctl → Event → Prop}

/-- What is kept and what is heard, together. -/
theorem holds_hearings {xs : List (WireStep n)}
    (start : ∃ p, w.Shows p ∧ p.Holds (fun i => I i 0) J)
    (kept : ∀ k : Fin n → Nat, Protocol.Kept (fun i => I i (k i)) J C)
    (further : ∀ {i k a b o lnk}, I i k a → I i k b → b.ctl = a.ctl.post o lnk req.request → I i (k + 1) b)
    (steps : EachStep Wire.step w xs fun _ v x => Permits x ∧ v.Meets C x) :
    EachState Wire.step w xs fun pre v =>
      ∃ q, v.Shows q ∧ q.Holds (fun i => I i (w.hearings req pre i)) J := by
  refine eachState_of_progress (A := Takes req)
    (I := fun k v => ∃ q, v.Shows q ∧ q.Holds (fun i => I i (k i)) J) start steps ?_
  rintro k l v x ⟨q, shown, holds⟩ ⟨permits, meets⟩ onward still
  obtain ⟨y, matched, permits', after⟩ := shown.step permits
  have next := holds.step (kept k) permits' (shown.meets matched meets)
  refine ⟨q.step y, after, fun i => ?_, next.inFlight⟩
  -- a node that takes no request may still change, but is no less far for it
  by_cases takes : v.Takes req i x
  · obtain ⟨o, lnk, posts⟩ := takes.posts permits (shown.formed i)
    have ctl : ((q.step y).stations i).ctl = (q.stations i).ctl.post o lnk req.request := by
      rw [after.stations i, shown.stations i]
      exact posts
    rw [onward i takes]
    exact further (holds.stations i) (next.stations i) ctl
  · rw [still i takes]
    exact next.stations i

end Wire

end Erps
