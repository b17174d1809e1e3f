import Erps.Ctl.Stands
import Erps.Guard

/-!
# The guard timer when every call succeeds

A post starts the guard timer exactly if the state machine says so.
-/
namespace Erps

open Calls

variable {good : KernelCall → Int → Prop} {lnk : PortIdx} {req : Request} {pdu : Option RapsPdu}

namespace OffPriority

variable {α : Type} {view : Sys → α}

/-- With every call succeeding, a post of a request that passes runs the handler of the
state, unless it is a clear SF outside protection. -/
theorem postSucceeds (off : OffPriority view) {s : Sys} {Q : Int → Sys → Prop}
    (skips : (s.ctl.Passes req → req = .clearSf ∧ s.node.state ≠ .protection) →
      ∀ ret t, view t = view s → Q ret t)
    (reacts : s.ctl.Passes req → ∀ t, view t = view s → t.node.state = s.node.state →
      wp Success anyState (fsmReact s.node.state lnk req pdu) Q t) :
    wp Success anyState (fsmPost lnk req pdu) Q s := by
  refine wp_bind (wp_call fun v locked => wp_ite (fun missed => absurd locked missed) fun _ => ?_)
  have cancels : Frames Success (fun s : Sys => ((view s, s.node.state), s.ctl))
      (if req = .clearSf then kWorkCancelDelayable (.linkDown lnk) else pure ()) := by
    refine frames_ite (fun _ => frames_write fun s => ?_) fun _ => frames_pure
    refine congrArg₂ Prod.mk (off.withState.cancel s lnk) ?_
    cases lnk <;> rfl
  unfold fsmPostLocked
  refine wp_bindWhen (wp_mono (cancels.ends s) fun _ t same => ?_)
  obtain ⟨same, ctl⟩ := Prod.mk.inj same
  refine wp_bind (wp_mono ((wp_resolve t req).and (off.withState.resolve.ends t)) ?_)
  rintro ret u ⟨⟨rfl, -⟩, same'⟩
  rw [ctl]
  by_cases passes : s.ctl.Passes req
  case neg =>
    refine wp_ite (fun _ => wp_pure (skips (fun now => absurd now passes) _ u ?_)) fun ok =>
      absurd (if_neg passes) ok
    exact congrArg Prod.fst (same'.trans same)
  rw [if_pos passes]
  refine wp_ite (fun busy => absurd busy (by decide)) fun _ => ?_
  refine wp_bind (wp_mono (off.withState.marks.ends u) fun _ v same'' => ?_)
  obtain ⟨view_eq, state⟩ := Prod.mk.inj (same''.trans (same'.trans same))
  have state' : (id v).node.state = s.node.state := state
  refine wp_bind (wp_read (wp_ite (fun ignored => wp_pure ?_) fun _ => ?_))
  · exact skips (fun _ => ⟨ignored.1, state' ▸ ignored.2.2⟩) _ v view_eq
  · rw [state']
    exact reacts passes v view_eq state

end OffPriority

/-- The handler of a state starts the guard timer exactly where the table says so. -/
theorem react_guards (s : Sys) (st : NodeState) : wp good anyState (fsmReact st lnk req pdu)
    (fun _ t => t.guard = if st.startsGuard req = true ∧
      (req ≠ .clearSf → s.node.anyLinkBlocked = true) then s.guard.start else s.guard) s := by
  by_cases starts : st.startsGuard req = true
  case neg =>
    have keeps : Frames good Sys.guard (fsmReact st lnk req pdu) :=
      Built.frames (react_built starts) fun _ _ op => fsmOp_guard op
    refine wp_mono (keeps.ends s) fun _ t same => ?_
    rw [same, if_neg fun both => starts both.1]
  have withBlock {m : M Int} (other : req ≠ .clearSf) (h : wp good anyState m (fun _ t =>
      t.guard = if s.node.anyLinkBlocked then s.guard.start else s.guard) s) :
      wp good anyState m (fun _ t => t.guard = if st.startsGuard req = true ∧
        (req ≠ .clearSf → s.node.anyLinkBlocked = true) then s.guard.start else s.guard) s := by
    refine wp_mono h fun _ t guard => ?_
    rw [guard]
    simp [starts, other]
  -- only these four rows of the table start it
  cases st
  case protection =>
    cases req with
    | clearSf =>
      refine wp_mono (fsmClearSfProtection_guard s) fun _ t started => ?_
      rw [started, if_pos ⟨rfl, fun other => absurd rfl other⟩]
    | _ => cases starts
  case manualSwitch =>
    cases req with
    | clear => exact withBlock (by decide) (fsmClearCommon_guard s)
    | rapsMs => exact withBlock (by decide) (fsmRapsMsMs_guard s)
    | _ => cases starts
  case forcedSwitch =>
    cases req with
    | clear => exact withBlock (by decide) (fsmClearCommon_guard s)
    | _ => cases starts
  all_goals cases req <;> cases starts

/-- With every call succeeding, a post starts the guard timer exactly if the state machine
says so. -/
theorem fsmPost_guards (s : Sys) : wp Success anyState (fsmPost lnk req pdu)
    (fun _ t => t.guard = if s.ctl.startsGuard req then s.guard.start else s.guard) s := by
  refine offPriority_standing.postSucceeds (fun skipped _ t same => ?_) fun passes t same _ => ?_
  · have calm : ¬s.ctl.startsGuard req := by
      rintro ⟨passes, starts, -⟩
      obtain ⟨rfl, outside⟩ := skipped passes
      have state : s.ctl.state = s.node.state := rfl
      rw [state] at starts
      cases now : s.node.state <;> simp_all [NodeState.startsGuard]
    rw [if_neg calm]
    exact congrArg Prod.fst same
  · have guard : t.guard = s.guard := congrArg Prod.fst same
    have blocked : t.node.anyLinkBlocked = s.node.anyLinkBlocked := congrArg (fun v => v.2.2) same
    refine wp_mono (react_guards t s.node.state) fun _ u started => ?_
    rw [started, guard, blocked]
    by_cases starts : s.ctl.startsGuard req
    · rw [if_pos starts, if_pos ⟨starts.2.1, starts.2.2⟩]
    · rw [if_neg starts, if_neg fun both => starts ⟨passes, both.1, both.2⟩]

end Erps
