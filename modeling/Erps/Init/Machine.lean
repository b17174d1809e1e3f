import Erps.Init.Prepares
import Erps.Properties.Startup

/-!
# Initialising the state machine

What comes of `erps_fsm_init` by what its calls are answered.
-/
namespace Erps

open Calls

section
variable {ans : Answers KernelCall} {k : Nat} {lnk : PortIdx} {s : Sys}

/-- Which links are flagged blocked and which ports forward. -/
def Sys.guards (s : Sys) : Ports Bool × Gates := (s.blocked, s.gates)

/-- The link is blocked or opened, as it is to be. -/
def Sys.moved (s : Sys) (lnk : PortIdx) (want : Bool) : Ports Bool × Gates :=
  (s.blocked.modify (fun _ => want) lnk, fun d => if d = (s.link lnk).dev then !want else s.gates d)

theorem gates_setUp (s : Sys) (dev : Device) (vid : UInt16) (up : Bool) :
    (s.modHw dev fun p => { p with vlanUp := fun v => if v = vid then up else p.vlanUp v }).gates =
      s.gates := by
  have kept : (s.modHw dev fun p =>
      { p with vlanUp := fun v => if v = vid then up else p.vlanUp v }).doors = s.doors :=
    doors_modHw s dev _ fun p => rfl
  exact congrArg Doors.gates kept

theorem gates_setEnabled (s : Sys) (dev : Device) (enable : Bool) :
    (s.modHw dev fun p => { p with enabled := enable }).gates =
      fun d => if d = dev then enable else s.gates d :=
  gates_modHw s dev fun p => { p with enabled := enable }

/-- What both ways to move a port have in common; `flag` is what they do to the flags. -/
theorem movePort_numbered (enable : Bool) (flag : M Unit) (flagged : Sys → Sys) (s : Sys)
    (flags : ∀ l t, numbered ans l flag (fun _ l' u => l' = l ∧ u = flagged t) t)
    (vid : ∀ t, (flagged t).node.trafficVid = t.node.trafficVid)
    (blocked : ∀ t, (flagged t).blocked = t.blocked.modify (fun _ => !enable) lnk)
    (gates : ∀ t, (flagged t).gates = t.gates) :
    numbered ans k (do
      let dev ← linkDev lnk
      if !(← netIfLookupByDev dev) then
        return -ENODEV
      let ret ← netEthPortSetEnabled dev enable
      if ret ≠ 0 then
        return ret
      flag
      let vid ← read fun s => s.node.trafficVid
      if !(← netEthGetVlanIface dev vid) then
        return -ENODEV
      netIfSetUp dev vid enable
      return 0) (fun ret l t => (ret = 0 ↔ PortMoves ans s.plan lnk enable k) ∧
        (ret = 0 → l = k + 3 ∧ t.guards = s.moved lnk (!enable))) s := by
  have noDev : (-ENODEV : Int) ≠ 0 := by decide
  refine numbered_bind (numbered_read (numbered_bind (numbered_lookup ?_)))
  rw [← s.plan_dev lnk]
  refine numbered_ite (fun lost => numbered_pure (failed_early noDev fun ready => ?_)) fun found => ?_
  · exact ready.iface (lost_iff.mp lost)
  refine numbered_bind (numbered_bind (numbered_call ?_))
  refine numbered_ite (fun failed => numbered_pure ?_) fun enabled => ?_
  · exact numbered_ite (fun _ => numbered_pure (failed_early failed fun ready => failed ready.enabled))
      fun ok => absurd failed ok
  refine numbered_bind (numbered_write (numbered_pure ?_))
  refine numbered_ite (fun failed => absurd rfl failed) fun _ => ?_
  generalize set : (s.modHw (s.plan.dev.get lnk) fun p => { p with enabled := enable }) = t
  -- the port has been moved, and the flags follow it whatever becomes of the VLAN interface
  refine numbered_bind (numbered_mono (flags _ t) ?_)
  rintro _ l u ⟨rfl, rfl⟩
  have vid' : (flagged t).node.trafficVid = s.plan.trafficVid := by
    rw [vid, ← set]
    rfl
  refine numbered_bind (numbered_read (numbered_bind (numbered_vlanIface ?_)))
  rw [vid']
  refine numbered_ite (fun lost => numbered_pure (failed_early noDev fun ready => ?_)) fun vlan => ?_
  · exact ready.vlanIface (lost_iff.mp lost)
  refine numbered_bind (numbered_write (numbered_pure ⟨⟨fun _ => ?_, fun _ => rfl⟩, fun _ => ⟨rfl, ?_⟩⟩))
  · exact ⟨mt lost_iff.mpr found, not_not.mp enabled, mt lost_iff.mpr vlan⟩
  · refine congrArg₂ Prod.mk ?_ ?_
    · refine (blocked t).trans ?_
      rw [← set]
      rfl
    · rw [gates_setUp, gates, ← set, gates_setEnabled, s.plan_dev, Bool.not_not]

theorem linkBlock_numbered (opened : (s.link lnk).blocked = false) :
    numbered ans k (linkBlock lnk) (fun ret l t =>
      (ret = 0 ↔ PortMoves ans s.plan lnk false k) ∧
        (ret = 0 → l = k + 3 ∧ t.guards = s.moved lnk true)) s := by
  refine numbered_bind (numbered_read (numbered_ite (fun blocked => ?_) fun _ => ?_))
  · rw [opened] at blocked
    cases blocked
  refine movePort_numbered false (do
      write fun s => s.modLink lnk fun l => { l with blocked := true }
      linkDeleteNodeIdBpr lnk
      linkDeleteNodeIdBpr lnk.other)
    (fun s => ((s.modLink lnk fun l => { l with blocked := true }).modLink lnk Link.deleteNodeIdBpr).modLink
      lnk.other Link.deleteNodeIdBpr) s (fun l t => ?_) (fun t => rfl) (fun t => ?_) fun t => rfl
  · exact numbered_bind (numbered_write (numbered_bind (numbered_write (numbered_write ⟨rfl, rfl⟩))))
  · cases lnk <;> rfl

theorem linkUnblockForce_numbered (s : Sys) (lnk : PortIdx) :
    numbered ans k (linkUnblockForce lnk) (fun ret l t =>
      (ret = 0 ↔ PortMoves ans s.plan lnk true k) ∧
        (ret = 0 → l = k + 3 ∧ t.guards = s.moved lnk false)) s := by
  refine numbered_bind (numbered_write (numbered_bind (numbered_write (numbered_bind (numbered_read ?_)))))
  generalize forced : (s.modLink lnk fun l => { l with blocked := true }).modLink lnk
    (fun l => { l with failed := false }) = t
  have blocked : (t.link lnk).blocked = true := by rw [← forced]; cases lnk <;> rfl
  have plan : t.plan = s.plan := by rw [← forced]; cases lnk <;> rfl
  have moved : t.moved lnk false = s.moved lnk false := by rw [← forced]; cases lnk <;> rfl
  rw [blocked, ← plan, ← moved]
  -- the flag that has just been forced keeps it from taking the port for an open one
  refine numbered_ite (fun opened => by cases opened) fun _ => ?_
  refine movePort_numbered true (write fun s => s.modLink lnk fun l => { l with blocked := false })
    (fun s => s.modLink lnk fun l => { l with blocked := false }) t (fun l u => ?_) (fun u => rfl)
    (fun u => ?_) fun u => rfl
  · exact numbered_write ⟨rfl, rfl⟩
  · cases lnk <;> rfl

/-- On which links the TX work is scheduled or runs. -/
def Sys.pending (s : Sys) : Ports Bool := s.node.ports.map fun l => l.txDwork.isPending

theorem linkSchedTx_numbered {ret : Int} (s : Sys) (lnk : PortIdx) (accepted : 0 ≤ ret)
    (idle : s.pending.get lnk = false) :
    numbered ans k (linkSchedTx ret lnk) (fun v l t => (0 ≤ v ↔ SchedReady ans s.plan lnk k) ∧
      (0 ≤ v → l = k + schedCalls ans s.plan lnk k ∧
        t.pending = s.pending.modify (fun _ => schedules ans s.plan lnk k) lnk)) s := by
  refine numbered_bind (numbered_read (numbered_bind (numbered_lookup (numbered_bind (numbered_read ?_)))))
  have sees : ((ans k (.netIfLookupByDev (s.link lnk).dev) != 0) && (s.hw (s.link lnk).dev).ifUp) =
      schedules ans s.plan lnk k := by rw [schedules, s.plan_dev, s.plan_up]
  rw [sees]
  cases seen : schedules ans s.plan lnk k with
  | false =>
    refine numbered_ite (fun _ => numbered_pure ⟨⟨fun _ yes => ?_, fun _ => accepted⟩, fun _ => ⟨?_, ?_⟩⟩)
      fun up => by cases up rfl
    · rw [seen] at yes
      cases yes
    · rw [schedCalls, seen]
      rfl
    · exact (Ports.modify_same idle).symm
  | true =>
    refine numbered_ite (fun down => by cases down) fun _ => numbered_bind (numbered_read ?_)
    refine numbered_bind (numbered_call (numbered_bind (numbered_write (numbered_pure ?_))))
    refine ⟨⟨fun ok _ => ok, fun ready => ready seen⟩, fun ok => ⟨?_, ?_⟩⟩
    · rw [schedCalls, seen]
      rfl
    · have stored : ¬ans (k + 1) (.kWorkReschedule (.tx lnk)) < 0 := by omega
      simp only [stored, if_false]
      cases lnk <;> rfl

theorem cancel_notPending {w : DelayableWork} (idle : w.isPending = false) :
    w.cancel.isPending = false := (Bool.or_eq_false_iff.mp idle).2

theorem linkSchedTx_plan {ret : Int} : Frames anyAnswer Sys.plan (linkSchedTx ret lnk) :=
  linkSchedTx_frames fun s f => congrArg Prod.fst (offInit_stage.work s (.tx lnk) f)

/-- A node that sends nothing announces R-APS(NR). -/
theorem nodeSchedTx_numbered (s : Sys) (idle : s.pending = ⟨false, false⟩) :
    numbered ans k (nodeSchedTx rapsNr 0 0) (fun ret l t =>
      (ret = 0 ↔ SchedReady ans s.plan .port0 k ∧
        SchedReady ans s.plan .port1 (k + schedCalls ans s.plan .port0 k)) ∧
      (ret = 0 → l = afterTx ans s.plan k ∧ t.pending = ⟨schedules ans s.plan .port0 k,
        schedules ans s.plan .port1 (k + schedCalls ans s.plan .port0 k)⟩)) s := by
  unfold nodeSchedTx
  refine numbered_ite (fun bad => absurd bad (by decide)) fun _ => ?_
  refine numbered_ite (fun bad => absurd bad (by decide)) fun _ => ?_
  refine numbered_bind (numbered_write (numbered_bind (numbered_write ?_)))
  refine numbered_bind (numbered_read (numbered_bind (numbered_write ?_)))
  -- cancelling leaves idle work idle, and the contents have been written
  generalize written : Sys.note _ _ = t
  have plan : t.plan = s.plan := by rw [← written]; rfl
  have idle' : t.pending = ⟨false, false⟩ := by
    rw [← written]
    exact congrArg₂ Ports.mk (cancel_notPending (congrArg Ports.port0 idle))
      (cancel_notPending (congrArg Ports.port1 idle))
  refine numbered_bind (numbered_mono ((linkSchedTx_numbered t .port0 (Int.le_refl 0)
    (congrArg Ports.port0 idle')).and (linkSchedTx_plan.numbered t)) ?_)
  rintro ret l u ⟨⟨ready0, next0⟩, same⟩
  rw [plan] at ready0 next0 same
  -- a negative status of the first link is kept, and the second link is left out
  refine numbered_bindIte (numbered_ite (fun accepted => ?_) fun failed => ?_)
  · obtain ⟨l_eq, pending⟩ := next0 accepted
    rw [idle'] at pending
    refine numbered_mono (linkSchedTx_numbered u .port1 accepted (congrArg Ports.port1 pending)) ?_
    rintro ret' l' v ⟨ready1, next1⟩
    rw [same, l_eq] at ready1 next1
    have zero_iff : (if ret' < 0 then ret' else 0) = 0 ↔ 0 ≤ ret' := by split <;> omega
    refine numbered_pure ⟨zero_iff.trans ?_, fun ok => ?_⟩
    · exact ⟨fun ok => ⟨ready0.mp accepted, ready1.mp ok⟩, fun ready => ready1.mpr ready.2⟩
    · obtain ⟨l'_eq, pending'⟩ := next1 (zero_iff.mp ok)
      exact ⟨l'_eq, pending'.trans (by rw [pending]; rfl)⟩
  · refine numbered_pure (numbered_pure ?_)
    have negative : (if ret < 0 then ret else 0) ≠ 0 := by split <;> omega
    exact failed_early negative fun ready => failed (ready0.mpr ready.1)

theorem fsmPostRunning_numbered (s : Sys) (req : Request) :
    numbered ans k (fsmPostRunning req) (fun _ l _ => l = k) s := by
  have resolves : numbered ans k (fsmResolveReqPrio req) (fun _ l _ => l = k) s := by
    refine numbered_bind (numbered_read (numbered_ite (fun _ => numbered_pure rfl) fun _ => ?_))
    refine numbered_bind (numbered_write (numbered_bind (numbered_read ?_)))
    refine numbered_ite (fun _ => ?_) fun _ => numbered_pure rfl
    exact numbered_bind (numbered_write (numbered_pure rfl))
  exact numbered_bind (numbered_mono resolves fun _ _ _ same => numbered_pure same)

theorem nodeStartWtr_numbered (s : Sys) (idle : s.node.wtrDwork = .init) :
    numbered ans k nodeStartWtr (fun ret l _ =>
      (ret = 0 ↔ 0 ≤ ans k (.kWorkReschedule .wtr)) ∧ (ret = 0 → l = k + 1)) s := by
  have notPending : (s.node.work Timer.wtr.item).isPending = false :=
    congrArg DelayableWork.isPending idle
  refine numbered_bind (numbered_read (numbered_ite (fun pending => ?_) fun _ => ?_))
  · rw [notPending] at pending
    cases pending
  -- the post by which the timer becomes known makes no call, and its status is ignored
  refine numbered_bind (numbered_mono (fsmPostRunning_numbered s _) ?_)
  rintro _ l t rfl
  refine numbered_bind (numbered_bind (numbered_call (numbered_bind (numbered_write (numbered_pure ?_)))))
  have zero_iff (v : Int) : (if v < 0 then v else 0) = 0 ↔ 0 ≤ v := by split <;> omega
  exact numbered_pure ⟨zero_iff _, fun _ => rfl⟩

theorem offPorts_plan : OffPorts Sys.plan where
  link s lnk f kept := by
    have setup : (s.modLink lnk f).setup = s.setup :=
      s.modLink_setup lnk f fun l => ⟨(kept l).1, (kept l).2.1⟩
    rw [Sys.plan, setup]
    rfl
  hw s dev f kept := by
    rw [Sys.plan, s.modHw_setup dev f kept]
    rfl

/-- Moving ports is seen neither in what is to be answered nor in the work items. -/
theorem offPorts_setting : OffPorts fun s : Sys => (s.plan, s.works) where
  link s lnk f kept := by
    refine congrArg₂ Prod.mk (offPorts_plan.link s lnk f kept) ?_
    cases lnk <;> simp [Sys.works, Ports.map, Ports.modify, (kept _).2.2.1]
  hw s dev f kept := congrArg (·, s.works) (offPorts_plan.hw s dev f kept)

theorem offTx_guards : OffTx Sys.guards where
  flush _ := rfl
  work s lnk f := by cases lnk <;> rfl
  pdu _ _ _ := rfl
  note _ _ _ := rfl

/-- The state machine blocks one port, opens the other one and announces R-APS(NR). -/
theorem initPorts_numbered (s : Sys) (lnk : PortIdx) (opened : s.blocked = ⟨false, false⟩)
    (idle : s.pending = ⟨false, false⟩) :
    numbered ans k (do
      let ret ← linkBlock lnk
      let ret ← ifOk ret (linkUnblockForce lnk.other)
      ifOk ret (nodeSchedTx rapsNr 0 0)) (fun ret l t =>
        (ret = 0 ↔ PortMoves ans s.plan lnk false k ∧ PortMoves ans s.plan lnk.other true (k + 3) ∧
          SchedReady ans s.plan .port0 (k + 6) ∧
          SchedReady ans s.plan .port1 (k + 6 + schedCalls ans s.plan .port0 (k + 6))) ∧
        (ret = 0 → l = afterTx ans s.plan (k + 6) ∧ t.pending = sends ans s.plan k ∧
          t.guards = ((s.blocked.modify (fun _ => true) lnk).modify (fun _ => false) lnk.other, fun d =>
            if d = s.plan.dev.get lnk.other then true else if d = s.plan.dev.get lnk then false
            else s.gates d))) s := by
  have open_ : (s.link lnk).blocked = false := by
    rw [s.link_blocked]
    have both : s.ctl.blocked = ⟨false, false⟩ := opened
    rw [both]
    cases lnk <;> rfl
  have blocks : Frames anyAnswer (fun s : Sys => (s.plan, s.works)) (linkBlock lnk) :=
    offPorts_setting.linkBlock
  have opens : Frames anyAnswer (fun s : Sys => (s.plan, s.works)) (linkUnblockForce lnk.other) :=
    offPorts_setting.linkUnblockForce
  have schedules : Frames anyAnswer Sys.guards (nodeSchedTx rapsNr 0 0) := offTx_guards.nodeSchedTx
  refine numbered_bind (numbered_mono ((linkBlock_numbered open_).and (blocks.numbered s)) ?_)
  rintro ret l t ⟨⟨ready, next⟩, same⟩
  by_cases ok : ret = 0
  case neg =>
    refine numbered_bind (numbered_ifOk (fun none => absurd none ok) fun _ => ?_)
    refine numbered_ifOk (fun none => absurd none ok) fun _ => ?_
    exact failed_early ok fun all => ok (ready.mpr all.1)
  obtain ⟨rfl, flags⟩ := next ok
  obtain ⟨plan, works⟩ := Prod.mk.inj same
  refine numbered_bind (numbered_ifOk (fun _ => ?_) fun failed => absurd ok failed)
  refine numbered_mono ((linkUnblockForce_numbered t lnk.other).and (opens.numbered t)) ?_
  rintro ret' l u ⟨⟨ready', next'⟩, same'⟩
  rw [plan] at ready'
  refine numbered_ifOk (fun ok' => ?_) fun failed => ?_
  · obtain ⟨rfl, flags'⟩ := next' ok'
    obtain ⟨plan', works'⟩ := Prod.mk.inj (same'.trans same)
    have idle' : u.pending = ⟨false, false⟩ :=
      (congrArg (fun w => w.2.map DelayableWork.isPending) works').trans idle
    refine numbered_mono ((nodeSchedTx_numbered u idle').and (schedules.numbered u)) ?_
    rintro ret'' l v ⟨⟨ready'', next''⟩, same''⟩
    rw [plan'] at ready'' next''
    refine ⟨ready''.trans ⟨fun all => ?_, fun all => all.2.2⟩, fun ok'' => ?_⟩
    · exact ⟨ready.mp ok, ready'.mp ok', all⟩
    obtain ⟨l_eq, pending⟩ := next'' ok''
    have blocked : t.blocked = s.blocked.modify (fun _ => true) lnk := congrArg Prod.fst flags
    have gates : t.gates = fun d => if d = (s.link lnk).dev then !true else s.gates d :=
      congrArg Prod.snd flags
    refine ⟨l_eq, pending, ?_⟩
    rw [same'', flags', Sys.moved, ← t.plan_dev, plan, blocked, gates, ← s.plan_dev]
    rfl
  · exact failed_early failed fun all => failed (ready'.mpr all.2.1)

/-- The port that is blocked and the one that is opened, in a node that has been prepared. -/
structure Sys.Prepared (s : Sys) : Prop where
  rpl : s.plan.rpl = ⟨false, s.plan.ring⟩
  opened : s.blocked = ⟨false, false⟩
  idle : s.Idle

theorem Sys.Prepared.silent (prepared : s.Prepared) : s.pending = ⟨false, false⟩ :=
  congrArg (fun w => w.2.map DelayableWork.isPending) prepared.idle

/-- How the initialisation of the state machine ends. -/
def Inits (ans : Answers KernelCall) (k : Nat) (s : Sys) (ret : Int) (l : Nat) (t : Sys) : Prop :=
  (ret = 0 ↔ FsmReady ans s.plan k) ∧
    (ret = 0 → l = afterFsm ans s.plan k ∧ t.pending = sends ans s.plan k ∧
      t.guards = ((s.blocked.modify (fun _ => true) s.plan.blocks).modify (fun _ => false)
          s.plan.blocks.other,
        fun d => if d = s.plan.dev.get s.plan.blocks.other then true
          else if d = s.plan.dev.get s.plan.blocks then false else s.gates d))

/-- The timer of a revertive ring is seen neither by the ports nor by TX. -/
def Sys.timer (s : Sys) : Bool × DelayableWork := (s.node.revertive, s.node.wtrDwork)

theorem initPorts_timer (lnk : PortIdx) : Frames anyAnswer Sys.timer (do
    let ret ← linkBlock lnk
    let ret ← ifOk ret (linkUnblockForce lnk.other)
    ifOk ret (nodeSchedTx rapsNr 0 0)) := by
  have offPorts : OffPorts Sys.timer := ⟨fun _ lnk _ _ => by cases lnk <;> rfl, fun _ _ _ _ => rfl⟩
  have offTx : OffTx Sys.timer :=
    ⟨fun _ => rfl, fun _ lnk _ => by cases lnk <;> rfl, fun _ _ _ => rfl, fun _ _ _ => rfl⟩
  refine offPorts.linkBlock.bind fun ret => offPorts.linkUnblockForce.ifOk.bind fun ret => ?_
  exact offTx.nodeSchedTx.ifOk

theorem fsmReady_iff {p : Plan} {b : PortIdx} (blocks : p.blocks = b) : FsmReady ans p k ↔
    (PortMoves ans p b false k ∧ PortMoves ans p b.other true (k + 3) ∧ SchedReady ans p .port0 (k + 6) ∧
      SchedReady ans p .port1 (k + 6 + schedCalls ans p .port0 (k + 6))) ∧
    (p.reverts = true → 0 ≤ ans (afterTx ans p (k + 6)) (.kWorkReschedule .wtr)) := by
  subst blocks
  constructor
  · rintro ⟨shuts, opens, tx0, tx1, wtr⟩
    exact ⟨⟨shuts, opens, tx0, tx1⟩, wtr⟩
  · rintro ⟨⟨shuts, opens, tx0, tx1⟩, wtr⟩
    exact ⟨shuts, opens, tx0, tx1, wtr⟩

theorem fsmInitPlain_numbered (prepared : s.Prepared) (plain : s.plan.ring = false) :
    numbered ans k fsmInitPlain (Inits ans k s) s := by
  have blocks : s.plan.blocks = .port0 := by rw [Plan.blocks, plain]; rfl
  have stays : s.plan.reverts = false := by
    have notOwner : s.setup.rplOwner = false := (Bool.or_eq_false_iff.mp plain).1
    exact Bool.and_eq_false_iff.mpr (.inl notOwner)
  refine numbered_mono (initPorts_numbered s .port0 prepared.opened prepared.silent) ?_
  rintro ret l t ⟨ready, next⟩
  unfold Inits
  rw [fsmReady_iff blocks, blocks, afterFsm, stays]
  exact ⟨ready.trans ⟨fun all => ⟨all, fun reverts => by cases reverts⟩, fun all => all.1⟩, next⟩

theorem fsmInitRpl_numbered (prepared : s.Prepared) (ring : s.plan.ring = true) :
    numbered ans k (fsmInitRpl s.node.rplOwner .port1 .port0) (Inits ans k s) s := by
  have blocks : s.plan.blocks = .port1 := by rw [Plan.blocks, ring]; rfl
  change numbered ans k ((do
      let ret ← linkBlock .port1
      let ret ← ifOk ret (linkUnblockForce .port0)
      ifOk ret (nodeSchedTx rapsNr 0 0)) >>= fun ret => do
      let revertive ← read fun s => s.node.revertive
      if ret = 0 ∧ s.node.rplOwner ∧ revertive then nodeStartWtr else pure ret) _ s
  refine numbered_bind (numbered_mono ((initPorts_numbered s .port1 prepared.opened prepared.silent).and
    ((initPorts_timer .port1).numbered s)) ?_)
  rintro ret l t ⟨⟨ready, next⟩, same⟩
  obtain ⟨revertive, wtr⟩ := Prod.mk.inj same
  have idle : t.node.wtrDwork = .init := wtr.trans (congrArg Prod.fst prepared.idle)
  have reverts_iff : (s.node.rplOwner = true ∧ t.node.revertive = true) ↔ s.plan.reverts = true := by
    rw [revertive]
    exact Bool.and_eq_true_iff.symm
  have sees : Frames anyAnswer (fun s : Sys => (s.pending, s.guards)) nodeStartWtr :=
    nodeStartTimer_frames (fun _ _ => rfl) fun _ _ => rfl
  unfold Inits
  rw [fsmReady_iff blocks, blocks, afterFsm]
  -- only the owner of a revertive ring makes one call more
  refine numbered_bind (numbered_read (numbered_ite (fun starts => ?_) fun stays => numbered_pure ?_))
  · obtain ⟨ok, owner⟩ := starts
    have reverts := reverts_iff.mp owner
    obtain ⟨rfl, pending, flags⟩ := next ok
    refine numbered_mono ((nodeStartWtr_numbered t idle).and (sees.numbered t)) ?_
    rintro ret' l u ⟨⟨ready', next'⟩, same'⟩
    refine ⟨ready'.trans ⟨fun started => ?_, fun all => all.2 reverts⟩, fun ok' => ?_⟩
    · exact ⟨ready.mp ok, fun _ => started⟩
    rw [reverts]
    exact ⟨next' ok', (congrArg Prod.fst same').trans pending, (congrArg Prod.snd same').trans flags⟩
  · refine ⟨ready.trans ⟨fun all => ⟨all, fun reverts => ?_⟩, fun all => all.1⟩, fun ok => ?_⟩
    · exact absurd ⟨ready.mpr all, reverts_iff.mpr reverts⟩ stays
    · have notReverts : s.plan.reverts = false :=
        Bool.eq_false_iff.mpr fun reverts => stays ⟨ok, reverts_iff.mpr reverts⟩
      rw [notReverts]
      exact next ok

theorem getRpl_of_isRpl {n : Node} (isRpl : n.ports.port1.rpl = true) : n.getRpl = some .port1 :=
  if_pos isRpl

theorem fsmInit_numbered (prepared : s.Prepared) : numbered ans k fsmInit (Inits ans k s) s := by
  refine numbered_bind (numbered_write ?_)
  generalize started : (s.modNode fun n => { n with guardTimerExpiry := 0 }) = t
  have prepared' : t.Prepared := by
    rw [← started]
    exact ⟨prepared.rpl, prepared.opened, prepared.idle⟩
  have same : Inits ans k s = Inits ans k t := by
    rw [← started]
    rfl
  rw [same]
  -- the transition is made with any status, and makes no call
  have last {ret : Int} {l : Nat} {u : Sys} (inits : Inits ans k t ret l u) :
      numbered ans l (do fsmTransition .pending; return ret) (Inits ans k t) u :=
    numbered_bind (numbered_write (numbered_pure inits))
  have ring_iff : (t.node.rplOwner = true ∨ t.node.rplNbr = true) ↔ t.plan.ring = true :=
    Bool.or_eq_true_iff.symm
  refine numbered_bind (numbered_read (numbered_ite (fun ends => ?_) fun plain => ?_))
  · have ring := ring_iff.mp ends
    rw [getRpl_of_isRpl ((congrArg Ports.port1 prepared'.rpl).trans ring)]
    refine numbered_bind (numbered_mono (fsmInitRpl_numbered prepared' ring) ?_)
    exact fun _ _ _ inits => last inits
  · have plain' : t.plan.ring = false := Bool.eq_false_iff.mpr (mt ring_iff.mpr plain)
    refine numbered_bind (numbered_mono (fsmInitPlain_numbered prepared' plain') ?_)
    exact fun _ _ _ inits => last inits

end

end Erps
