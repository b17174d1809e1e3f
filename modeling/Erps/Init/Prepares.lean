import Erps.Calls.Numbered
import Erps.Wiring

/-!
# Preparing a node

What the calls of `erps_node_init` have to be answered, by their numbers, for it to succeed, and
what comes of its part before the state machine.
-/
namespace Erps

open Calls

/-! ### What is to be answered -/

/-- What the initialisation reads of a node and of its interfaces. -/
structure Plan where
  /-- An end of the RPL. -/
  ring : Bool
  /-- The RPL owner of a revertive ring. -/
  reverts : Bool
  rpl : Ports Bool
  dev : Ports Device
  up : Ports Bool
  ctrlVid : UInt16
  trafficVid : UInt16

def Setup.plan (u : Setup) (ctrlVid trafficVid : UInt16) : Plan where
  ring := u.rplOwner || u.rplNbr
  reverts := u.rplOwner && u.revertive
  rpl := u.rpl
  dev := u.dev
  up := u.up
  ctrlVid := ctrlVid
  trafficVid := trafficVid

def Sys.plan (s : Sys) : Plan := s.setup.plan s.node.ctrlVid s.node.trafficVid

namespace Plan

/-- The link that is blocked; the other one is opened. -/
def blocks (p : Plan) : PortIdx := if p.ring then .port1 else .port0

/-- The calls of `erps_link_init`. -/
def linkCalls (p : Plan) (lnk : PortIdx) : Nat := if p.rpl.get lnk then 5 else 7

/-- The calls before the state machine is initialised. -/
def prepareCalls (p : Plan) : Nat := 1 + p.linkCalls .port0 + p.linkCalls .port1

/-- The interface of a link is up once those of `cameUp` have come up. -/
def upAfter (p : Plan) (cameUp : Ports Bool) (lnk : PortIdx) : Bool :=
  p.up.get lnk || (cameUp.port0 && p.dev.get lnk == p.dev.port0) ||
    (cameUp.port1 && p.dev.get lnk == p.dev.port1)

end Plan

section
variable (ans : Answers KernelCall) (p : Plan)

/-- `erps_link_configure_vlan` succeeds, making the `k`-th call first. -/
structure VlanReady (lnk : PortIdx) (k : Nat) : Prop where
  iface : ans k (.netIfLookupByDev (p.dev.get lnk)) ≠ 0
  ctrlVlan : ans (k + 1) (.netEthVlanEnable (p.dev.get lnk) p.ctrlVid) = 0
  trafficVlan : ans (k + 2) (.netEthVlanEnable (p.dev.get lnk) p.trafficVid) = 0
  -- the call in between is for the log
  ctrlIface : ans (k + 4) (.netEthGetVlanIface (p.dev.get lnk) p.ctrlVid) ≠ 0

/-- `erps_link_init` succeeds. -/
structure LinkReady (lnk : PortIdx) (k : Nat) : Prop where
  vlan : VlanReady ans p lnk k
  linkDown : p.rpl.get lnk = false → 0 ≤ ans (k + 5) (.kWorkReschedule (.linkDown lnk))

/-- All goes well before the state machine is initialised. -/
structure Prepares : Prop where
  mutex : ans 0 .kMutexInit = 0
  port0 : LinkReady ans p .port0 1
  port1 : LinkReady ans p .port1 (1 + p.linkCalls .port0)

/-- A port is blocked or opened. -/
structure PortMoves (lnk : PortIdx) (enable : Bool) (k : Nat) : Prop where
  iface : ans k (.netIfLookupByDev (p.dev.get lnk)) ≠ 0
  enabled : ans (k + 1) (.netEthPortSetEnabled (p.dev.get lnk) enable) = 0
  vlanIface : ans (k + 2) (.netEthGetVlanIface (p.dev.get lnk) p.trafficVid) ≠ 0

/-- The interface of a link is found by the `k`-th call and is up, so that TX is scheduled. -/
def schedules (lnk : PortIdx) (k : Nat) : Bool :=
  ans k (.netIfLookupByDev (p.dev.get lnk)) != 0 && p.up.get lnk

def schedCalls (lnk : PortIdx) (k : Nat) : Nat := if schedules ans p lnk k then 2 else 1

def SchedReady (lnk : PortIdx) (k : Nat) : Prop :=
  schedules ans p lnk k = true → 0 ≤ ans (k + 1) (.kWorkReschedule (.tx lnk))

/-- The number of the call after TX has been scheduled on both links from the `k`-th on. -/
def afterTx (k : Nat) : Nat :=
  k + schedCalls ans p .port0 k + schedCalls ans p .port1 (k + schedCalls ans p .port0 k)

/-- `erps_fsm_init` succeeds. -/
structure FsmReady (k : Nat) : Prop where
  blocks : PortMoves ans p p.blocks false k
  opens : PortMoves ans p p.blocks.other true (k + 3)
  tx0 : SchedReady ans p .port0 (k + 6)
  tx1 : SchedReady ans p .port1 (k + 6 + schedCalls ans p .port0 (k + 6))
  wtr : p.reverts = true → 0 ≤ ans (afterTx ans p (k + 6)) (.kWorkReschedule .wtr)

def afterFsm (k : Nat) : Nat := afterTx ans p (k + 6) + p.reverts.toNat

/-- On which links `erps_fsm_init` schedules TX. -/
def sends (k : Nat) : Ports Bool where
  port0 := schedules ans p .port0 (k + 6)
  port1 := schedules ans p .port1 (k + 6 + schedCalls ans p .port0 (k + 6))

/-- The links that come up too late for `erps_fsm_init`. -/
def Plan.late (p : Plan) (cameUp sent : Ports Bool) : Ports Bool where
  port0 := p.upAfter cameUp .port0 && !sent.port0
  port1 := p.upAfter cameUp .port1 && !sent.port1

/-- Both interfaces are found, and the last work scheduled for one that is `late`, if there
is any, is scheduled with status zero. -/
structure MakesUp (late : Ports Bool) (k : Nat) : Prop where
  iface0 : ans k (.netIfLookupByDev p.dev.port0) ≠ 0
  iface1 : ans (k + 1 + late.port0.toNat) (.netIfLookupByDev p.dev.port1) ≠ 0
  status0 : late.port1 = false → late.port0 = true → ans (k + 1) (.kWorkReschedule (.tx .port0)) = 0
  status1 : late.port1 = true → ans (k + 2 + late.port0.toNat) (.kWorkReschedule (.tx .port1)) = 0

/-- All goes well once the state machine is reached. -/
structure Finishes (cameUp : Ports Bool) : Prop where
  distinct : p.dev.port0 ≠ p.dev.port1
  fsm : FsmReady ans p p.prepareCalls
  makesUp : MakesUp ans p (p.late cameUp (sends ans p p.prepareCalls)) (afterFsm ans p p.prepareCalls)

end

/-! ### Before the state machine -/

section
variable {ans : Answers KernelCall} {k : Nat} {lnk : PortIdx} {s : Sys}

theorem numbered_lookup {dev : Device} {Q : Bool → Nat → Sys → Prop}
    (h : Q (ans k (.netIfLookupByDev dev) != 0) (k + 1) s) :
    numbered ans k (netIfLookupByDev dev) Q s :=
  numbered_bind (numbered_call (numbered_pure h))

theorem numbered_vlanIface {dev : Device} {vid : UInt16} {Q : Bool → Nat → Sys → Prop}
    (h : Q (ans k (.netEthGetVlanIface dev vid) != 0) (k + 1) s) :
    numbered ans k (netEthGetVlanIface dev vid) Q s :=
  numbered_bind (numbered_call (numbered_pure h))

/-- The test for a null pointer. -/
theorem lost_iff {v : Int} : (!(v != 0)) = true ↔ v = 0 := by simp

/-- The way out of a program where it has failed. -/
theorem failed_early {ret : Int} {ready next : Prop} (failed : ret ≠ 0) (unready : ¬ready) :
    (ret = 0 ↔ ready) ∧ (ret = 0 → next) :=
  ⟨iff_of_false failed unready, fun ok => absurd ok failed⟩

theorem Sys.plan_dev (s : Sys) (lnk : PortIdx) : s.plan.dev.get lnk = (s.link lnk).dev := by
  cases lnk <;> rfl

theorem Sys.plan_rpl (s : Sys) (lnk : PortIdx) : s.plan.rpl.get lnk = (s.link lnk).rpl := by
  cases lnk <;> rfl

theorem Sys.plan_up (s : Sys) (lnk : PortIdx) : s.plan.up.get lnk = (s.hw (s.link lnk).dev).ifUp := by
  cases lnk <;> rfl

/-- What the link finds decides what it returns. -/
theorem linkConfigureVlan_numbered (s : Sys) (lnk : PortIdx) :
    numbered ans k (linkConfigureVlan lnk) (fun ret l _ =>
      (ret = 0 ↔ VlanReady ans s.plan lnk k) ∧ (ret = 0 → l = k + 5)) s := by
  have noDev : (-ENODEV : Int) ≠ 0 := by decide
  refine numbered_bind (numbered_read (numbered_bind (numbered_read (numbered_bind (numbered_lookup ?_)))))
  rw [← s.plan_dev lnk]
  refine numbered_ite (fun lost => numbered_pure (failed_early noDev fun ready => ?_)) fun found => ?_
  · exact ready.iface (lost_iff.mp lost)
  refine numbered_bind (numbered_call (numbered_ite (fun failed => numbered_pure ?_) fun ctrl => ?_))
  · exact failed_early failed fun ready => failed ready.ctrlVlan
  refine numbered_bind (numbered_call (numbered_ite (fun failed => numbered_pure ?_) fun traffic => ?_))
  · exact failed_early failed fun ready => failed ready.trafficVlan
  -- what the call for the log finds has no part in it
  refine numbered_bind (numbered_vlanIface (numbered_bind (numbered_vlanIface ?_)))
  refine numbered_ite (fun lost => numbered_pure (failed_early noDev fun ready => ?_)) fun ctrlIface => ?_
  · exact ready.ctrlIface (lost_iff.mp lost)
  refine numbered_bind (numbered_write (numbered_pure ⟨⟨fun _ => ?_, fun _ => rfl⟩, fun _ => rfl⟩))
  exact ⟨mt lost_iff.mpr found, not_not.mp ctrl, not_not.mp traffic, mt lost_iff.mpr ctrlIface⟩

theorem startLinkDownTimer_numbered {timeout : Nat} (s : Sys) (lnk : PortIdx) :
    numbered ans k (startLinkDownTimer timeout lnk) (fun ret l _ =>
      (ret = 0 ↔ 0 ≤ ans k (.kWorkReschedule (.linkDown lnk))) ∧ (ret = 0 → l = k + 2)) s := by
  refine numbered_bind (numbered_write (numbered_bind (numbered_bind (numbered_call ?_))))
  refine numbered_bind (numbered_write (numbered_pure (numbered_ite (fun failed => ?_) fun ok => ?_)))
  · exact numbered_pure (failed_early (Int.ne_of_lt failed) (Int.not_le.mpr failed))
  · refine numbered_bind (numbered_read (numbered_bind (numbered_lookup (numbered_pure ?_))))
    exact ⟨⟨fun _ => by omega, fun _ => rfl⟩, fun _ => rfl⟩

/-- What the preparation of a node leaves alone. -/
def Sys.stage (s : Sys) : Plan × NodeState × Ports Bool := (s.plan, s.node.state, s.blocked)

theorem offInit_stage : OffInit Sys.stage where
  work s w f := by
    cases w with
    | tx lnk | linkDown lnk => cases lnk <;> rfl
    | wtr | wtb => rfl
  topreq _ _ := rfl
  vlan s dev f kept := by
    have plan : (s.modHw dev f).plan = s.plan := by
      rw [Sys.plan, s.modHw_setup dev f fun p => (kept p).2]
      rfl
    exact congrArg (fun p => (p, s.node.state, s.blocked)) plan

theorem linkInit_numbered {timeout : Nat} (s : Sys) (lnk : PortIdx) :
    numbered ans k (linkInit timeout lnk) (fun ret l _ =>
      (ret = 0 ↔ LinkReady ans s.plan lnk k) ∧ (ret = 0 → l = k + s.plan.linkCalls lnk)) s := by
  refine numbered_bind (numbered_write ?_)
  generalize inited : (s.modWork (.tx lnk) fun _ => DelayableWork.init) = t
  have plan : t.plan = s.plan := by
    rw [← inited]
    exact congrArg Prod.fst (offInit_stage.work s (.tx lnk) _)
  rw [← plan]
  have frames : Frames anyAnswer Sys.stage (linkConfigureVlan lnk) := offInit_stage.linkConfigureVlan
  refine numbered_bind (numbered_mono ((linkConfigureVlan_numbered t lnk).and (frames.numbered t)) ?_)
  rintro ret l u ⟨⟨ready, next⟩, same⟩
  have plan' : u.plan = t.plan := congrArg Prod.fst same
  refine numbered_ite (fun failed => numbered_pure ?_) fun ok => ?_
  · exact failed_early failed fun all => failed (ready.mpr all.vlan)
  have vlan := ready.mp (not_not.mp ok)
  have l_eq := next (not_not.mp ok)
  have rpl : (u.link lnk).rpl = t.plan.rpl.get lnk := by rw [← u.plan_rpl, plan']
  refine numbered_bind (numbered_read ?_)
  rw [rpl]
  -- the RPL makes two calls less, as it has no link-down timer
  refine numbered_ite (fun watched => ?_) fun isRpl => numbered_pure ?_
  · have notRpl : t.plan.rpl.get lnk = false := by simpa using watched
    refine numbered_mono (startLinkDownTimer_numbered u lnk) ?_
    rintro ret l' v ⟨started, next'⟩
    rw [l_eq] at started
    refine ⟨started.trans ⟨fun ok => ⟨vlan, fun _ => ok⟩, fun all => all.linkDown notRpl⟩, fun ok => ?_⟩
    rw [next' ok, l_eq, Plan.linkCalls, notRpl]
    rfl
  · have isRpl : t.plan.rpl.get lnk = true := by simpa using isRpl
    refine ⟨⟨fun _ => ⟨vlan, fun notRpl => ?_⟩, fun _ => not_not.mp ok⟩, fun _ => ?_⟩
    · rw [isRpl] at notRpl
      cases notRpl
    · rw [l_eq, Plan.linkCalls, isRpl]
      rfl

theorem nodePrepare_numbered {timeout : Nat} (s : Sys) :
    numbered ans 0 (nodePrepare timeout) (fun ret l _ =>
      (ret = 0 ↔ Prepares ans s.plan) ∧ (ret = 0 → l = s.plan.prepareCalls)) s := by
  refine numbered_bind (numbered_write (numbered_bind (numbered_write ?_)))
  refine numbered_bind (numbered_write ?_)
  generalize inited : ((s.modWork .wtr fun _ => DelayableWork.init).modWork .wtb fun _ =>
    DelayableWork.init).modNode (fun n => { n with localTopreq := .invalid }) = t
  have plan : t.plan = s.plan := by
    rw [← inited]
    rfl
  refine numbered_bind (numbered_call (numbered_bind ?_))
  by_cases mutex : ans 0 .kMutexInit = 0
  case neg =>
    refine numbered_ifOk (fun ok => absurd ok mutex) fun failed => ?_
    refine numbered_ifOk (fun ok => absurd ok mutex) fun _ => failed_early failed fun ready => ?_
    exact mutex ready.mutex
  have frames : Frames anyAnswer Sys.stage (linkInit timeout .port0) := offInit_stage.linkInit
  refine numbered_ifOk (fun _ => ?_) fun failed => absurd mutex failed
  refine numbered_mono ((linkInit_numbered t .port0).and (frames.numbered t)) ?_
  rintro ret l u ⟨⟨ready0, next0⟩, same⟩
  have plan' : u.plan = s.plan := (congrArg Prod.fst same).trans plan
  rw [plan] at ready0 next0
  refine numbered_ifOk (fun ok => ?_) fun failed => ?_
  · refine numbered_mono (linkInit_numbered u .port1) ?_
    rintro ret' l' v ⟨ready1, next1⟩
    -- the calls of the second link come after those of the first
    rw [next0 ok, plan'] at ready1 next1
    exact ⟨⟨fun ok' => ⟨mutex, ready0.mp ok, ready1.mp ok'⟩, fun ready => ready1.mpr ready.port1⟩, next1⟩
  · exact failed_early failed fun ready => failed (ready0.mpr ready.port0)

def Sys.works (s : Sys) : DelayableWork × Ports DelayableWork :=
  (s.node.wtrDwork, s.node.ports.map Link.txDwork)

/-- No TX work and no WTR timer has been scheduled or runs. -/
def Sys.Idle (s : Sys) : Prop := s.works = (.init, ⟨.init, .init⟩)

theorem init_idle (now : s.Idle) (w : WorkItem) : (s.modWork w fun _ => .init).Idle := by
  obtain ⟨wtr, both⟩ := Prod.mk.inj now
  simp only [Ports.map, Ports.mk.injEq] at both
  cases w with
  | tx lnk =>
    refine congrArg₂ Prod.mk wtr ?_
    cases lnk
    · exact congrArg (Ports.mk DelayableWork.init) both.2
    · exact congrArg (Ports.mk · DelayableWork.init) both.1
  | linkDown lnk => cases lnk <;> exact now
  | wtr => exact congrArg₂ Prod.mk rfl (congrArg₂ Ports.mk both.1 both.2)
  | wtb => exact now

theorem linkInit_idle {timeout : Nat} (now : s.Idle) :
    wp anyAnswer anyState (linkInit timeout lnk) (fun _ t => t.Idle) s := by
  have configures : Frames anyAnswer Sys.works (linkConfigureVlan lnk) := by
    refine frames_read.bind fun n => frames_read.bind fun dev => ?_
    refine netIfLookupByDev_frames.bind fun found => ?_
    refine frames_ite (fun _ => frames_pure) fun _ => frames_call.bind fun ret => ?_
    refine frames_ite (fun _ => frames_pure) fun _ => frames_call.bind fun ret => ?_
    refine frames_ite (fun _ => frames_pure) fun _ => netEthGetVlanIface_frames.bind fun _ => ?_
    refine netEthGetVlanIface_frames.bind fun found => frames_ite (fun _ => frames_pure) fun _ => ?_
    exact Frames.bind (frames_write fun _ => rfl) fun _ => frames_pure
  have reschedules {delay : Nat} : Frames anyAnswer Sys.works (do
      let ret ← kWorkReschedule (.linkDown lnk) delay
      if ret < 0 then
        return ret
      let dev ← linkDev lnk
      let _ ← netIfLookupByDev dev
      return 0) := by
    refine Frames.bind (kWorkReschedule_frames fun s f => by cases lnk <;> rfl) fun ret => ?_
    refine frames_ite (fun _ => frames_pure) fun _ => frames_read.bind fun dev => ?_
    exact netIfLookupByDev_frames.bind fun _ => frames_pure
  refine wp_bind (wp_write trivial (wp_bind (wp_mono (configures.ends _) fun ret t same => ?_)))
  have now' : t.Idle := same.trans (init_idle now (.tx lnk))
  refine wp_ite (fun _ => wp_pure now') fun _ => wp_bind (wp_read ?_)
  refine wp_ite (fun _ => ?_) fun _ => wp_pure now'
  refine wp_bind (wp_write trivial (wp_mono (reschedules.ends _) fun ret u same' => ?_))
  exact same'.trans (init_idle now' (.linkDown lnk))

theorem nodePrepare_idle {timeout : Nat} (tx : s.node.ports.map Link.txDwork = ⟨.init, .init⟩) :
    wp anyAnswer anyState (nodePrepare timeout) (fun _ t => t.Idle) s := by
  refine wp_bind (wp_write trivial (wp_bind (wp_write trivial (wp_bind (wp_write trivial ?_)))))
  have now : (((s.modWork .wtr fun _ => DelayableWork.init).modWork .wtb fun _ =>
      DelayableWork.init).modNode fun n => { n with localTopreq := .invalid }).Idle :=
    congrArg (Prod.mk DelayableWork.init) tx
  have inits {t : Sys} (now : t.Idle) (ret : Int) (lnk : PortIdx) :
      wp anyAnswer anyState (ifOk ret (linkInit timeout lnk)) (fun _ u => u.Idle) t :=
    wp_ifOk (fun _ => linkInit_idle now) fun _ => now
  exact wp_bind (wp_call fun ret _ => wp_bind (wp_mono (inits now ret .port0) fun ret t now' =>
    inits now' ret .port1))

end

end Erps
