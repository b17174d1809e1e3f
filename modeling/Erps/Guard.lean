import Erps.Operations

/-!
# The guard timer

A post leaves the guard timer alone or starts it, and it starts it only where Table 10-2
does: clearing the failure a node is in protection for, and giving up a manual or forced
switch with a port still blocked.
-/
namespace Erps

open Calls

/-- The guard timer, with what it depends on. -/
structure Guard where
  expiry : Nat
  uptime : Nat
  duration : UInt16

def Guard.start (g : Guard) : Guard := { g with expiry := g.uptime + g.duration.toNat }

def Guard.expired (g : Guard) : Bool := g.expiry ≤ g.uptime

def Sys.guard (s : Sys) : Guard := ⟨s.node.guardTimerExpiry, s.uptime, s.node.guardTimerDuration⟩

/-- The request starts the guard timer. -/
structure Sys.StartsGuard (s : Sys) (req : Request) : Prop where
  passes : s.ctl.Passes req
  starts : s.node.state.startsGuard req = true
  blocked : req ≠ .clearSf → s.node.anyLinkBlocked = true

variable {good : KernelCall → Int → Prop} {lnk : PortIdx} {req : Request} {pdu : Option RapsPdu}

theorem offPorts_guard : OffPorts Sys.guard where
  link _ _ _ _ := rfl
  hw _ _ _ _ := rfl

theorem offTx_guard : OffTx Sys.guard where
  flush _ := rfl
  work _ lnk _ := by cases lnk <;> rfl
  pdu _ _ _ := rfl
  note _ _ _ := rfl

/-- What decides whether a handler starts the guard timer, which nothing before it
changes. -/
def Sys.standing (s : Sys) : Guard × NodeState × Bool :=
  (s.guard, s.node.state, s.node.anyLinkBlocked)

theorem offPriority_standing : OffPriority Sys.standing where
  topreq _ _ := rfl
  failed _ lnk := by cases lnk <;> rfl
  cancel _ lnk := by cases lnk <;> rfl

theorem offPriority_guard : OffPriority Sys.guard where
  topreq _ _ := rfl
  failed _ _ := rfl
  cancel _ _ := rfl

theorem startTimer_guard {t : Timer} : Frames good Sys.guard (nodeStartTimer t) :=
  nodeStartTimer_frames (fun _ _ => rfl) fun _ _ => by cases t <;> rfl

/-- The operations that do not set the guard timer. -/
theorem fsmOp_guard {α : Type} {m : M α} (op : FsmOp False α m) : Frames good Sys.guard m := by
  cases op with
  | block lnk => exact offPorts_guard.linkBlock
  | unblock lnk => exact offPorts_guard.linkUnblock
  | unblockForce lnk => exact offPorts_guard.linkUnblockForce
  | markFailed lnk req => exact offPriority_guard.marks
  | flush lnk => exact offTx_guard.flushFdb
  | schedTx => exact offTx_guard.nodeSchedTx
  | stopTx => exact offTx_guard.nodeStopTx
  | startGuard allowed => exact absurd allowed id
  | startTimer t => exact startTimer_guard
  | stopTimer t =>
    refine frames_write fun s => ?_
    cases t with
    | wtr | wtb => rfl
    | linkDown lnk => cases lnk <;> rfl
  | resolve req => exact offPriority_guard.resolve
  | goto next => exact frames_write fun _ => rfl
  | fault => exact Frames.bind (frames_write fun _ => rfl) fun _ => frames_pure

/-! ### The handlers that start it -/

theorem start_guard (s : Sys) :
    wp good anyState nodeStartGuardTimer (fun _ t => t.guard = s.guard.start) s :=
  wp_write trivial rfl

theorem finish_guard {next : NodeState} {ret : Int} :
    Frames good Sys.guard (ifOk ret do fsmTransition next; return 0) :=
  (acts_built finish_acts).ifOk.frames fun _ _ op => fsmOp_guard op

theorem fsmClearCommon_guard (s : Sys) : wp good anyState fsmClearCommon (fun _ t =>
    t.guard = if s.node.anyLinkBlocked then s.guard.start else s.guard) s := by
  refine wp_bind (wp_read (wp_ite (fun blocked => ?_) fun open_ => ?_))
  · rw [if_pos blocked]
    refine wp_bind (wp_mono (start_guard s) fun _ t started => ?_)
    rw [← started]
    have rest : Frames good Sys.guard (do
        let ret ← nodeSchedTx rapsNr 0 0
        let ret ← if ret = 0 ∧ s.node.rplOwner ∧ s.node.revertive then nodeStartWtb else pure ret
        ifOk ret do
          fsmTransition .pending
          return 0) := by
      refine offTx_guard.nodeSchedTx.bind fun ret => frames_ite (fun _ => ?_) fun _ => ?_
      · exact startTimer_guard.bind fun _ => finish_guard
      · exact frames_pure.bind fun _ => finish_guard
    exact rest.ends t
  · rw [if_neg open_]
    exact wp_bind (wp_pure (finish_guard.ends s))

theorem fsmClearSfProtection_guard (s : Sys) :
    wp good anyState fsmClearSfProtection (fun _ t => t.guard = s.guard.start) s := by
  refine wp_bind (wp_mono (start_guard s) fun _ t started => ?_)
  rw [← started]
  have rest : Frames good Sys.guard (do
      let ret ← nodeSchedTx rapsNr 0 0
      let n ← read Sys.node
      let ret ← if ret = 0 ∧ n.rplOwner ∧ n.revertive then nodeStartWtr else pure ret
      ifOk ret do
        fsmTransition .pending
        return 0) := by
    refine offTx_guard.nodeSchedTx.bind fun ret => frames_read.bind fun n => ?_
    refine frames_ite (fun _ => ?_) fun _ => ?_
    · exact startTimer_guard.bind fun _ => finish_guard
    · exact frames_pure.bind fun _ => finish_guard
  exact rest.ends t

theorem fsmRapsMsMs_guard (s : Sys) : wp good anyState fsmRapsMsMs (fun _ t =>
    t.guard = if s.node.anyLinkBlocked then s.guard.start else s.guard) s := by
  have last (p : Int × NodeState) : Frames good Sys.guard (ifOk p.1 do
      fsmTransition p.2
      return 0) := finish_guard
  refine wp_bind (wp_read (wp_ite (fun blocked => ?_) fun open_ => ?_))
  · rw [if_pos blocked]
    refine wp_bind (wp_mono (start_guard s) fun _ t started => ?_)
    rw [← started]
    refine wp_bind (wp_mono (offTx_guard.nodeSchedTx.ends t) fun ret u same => ?_)
    rw [← same]
    refine wp_ite (fun _ => ?_) fun _ => wp_bind (wp_pure ((last (ret, .manualSwitch)).ends u))
    refine wp_bind (wp_mono (startTimer_guard.ends u) fun ret v same' => ?_)
    rw [← same']
    exact wp_bind (wp_pure ((last (ret, .pending)).ends v))
  · rw [if_neg open_]
    exact wp_bind (wp_pure ((last (0, .manualSwitch)).ends s))

/-! ### Posts -/

/-- The handler of the state starts the guard timer where the table says so. -/
theorem react_guard (s : Sys) (st : NodeState) :
    wp good anyState (fsmReact st lnk req pdu) (fun _ t => t.guard = s.guard ∨
      (st.startsGuard req = true ∧ (req ≠ .clearSf → s.node.anyLinkBlocked = true) ∧
        t.guard = s.guard.start)) s := by
  by_cases starts : st.startsGuard req = true
  case neg =>
    refine wp_mono (Frames.ends (Built.frames (react_built starts) ?_) s) fun _ t same => .inl same
    exact fun _ _ op => fsmOp_guard op
  have withBlock {m : M Int} (h : wp good anyState m (fun _ t =>
      t.guard = if s.node.anyLinkBlocked then s.guard.start else s.guard) s) :
      wp good anyState m (fun _ t => t.guard = s.guard ∨ (st.startsGuard req = true ∧
        (req ≠ .clearSf → s.node.anyLinkBlocked = true) ∧ t.guard = s.guard.start)) s := by
    refine wp_mono h fun _ t guard => ?_
    split at guard
    · next blocked => exact .inr ⟨starts, fun _ => blocked, guard⟩
    · exact .inl guard
  -- only these four rows of the table start it
  cases st
  case protection =>
    cases req with
    | clearSf =>
      exact wp_mono (fsmClearSfProtection_guard s) fun _ t started =>
        .inr ⟨rfl, fun other => absurd rfl other, started⟩
    | _ => cases starts
  case manualSwitch =>
    cases req with
    | clear => exact withBlock (fsmClearCommon_guard s)
    | rapsMs => exact withBlock (fsmRapsMsMs_guard s)
    | _ => cases starts
  case forcedSwitch =>
    cases req with
    | clear => exact withBlock (fsmClearCommon_guard s)
    | _ => cases starts
  all_goals cases req <;> cases starts

/-- A post leaves the guard timer alone or is one that starts it. -/
theorem fsmPost_guard (s : Sys) : wp good anyState (fsmPost lnk req pdu) (fun _ t =>
    t.guard = s.guard ∨ (s.StartsGuard req ∧ t.guard = s.guard.start)) s := by
  refine offPriority_standing.post (fun _ t same => .inl (congrArg Prod.fst same)) ?_
  intro passes t same _
  have guard : t.guard = s.guard := congrArg Prod.fst same
  have blocked : t.node.anyLinkBlocked = s.node.anyLinkBlocked := congrArg (fun v => v.2.2) same
  refine wp_mono (react_guard t s.node.state) ?_
  rw [guard, blocked]
  rintro _ u (same | ⟨starts, block, started⟩)
  · exact .inl same
  · exact .inr ⟨⟨passes, starts, block⟩, started⟩

end Erps
