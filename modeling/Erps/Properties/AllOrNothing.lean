import Erps.Init.Machine

/-!
# Initialisation is all or nothing

What `erps_node_init` is answered decides what becomes of the node. A call that fails before
the state machine is reached leaves it uninitialised; after that the node goes to pending
whatever happens.
-/
namespace Erps

open Calls

/-! ### After the state machine -/

section
variable {ans : Answers KernelCall} {k : Nat} {lnk : PortIdx} {s : Sys}

theorem offTx_plan : OffTx Sys.plan where
  flush _ := rfl
  work s lnk f := congrArg Prod.fst (offInit_stage.work s (.tx lnk) f)
  pdu _ _ _ := rfl
  note _ _ _ := rfl

theorem fsmInit_plan : Frames anyAnswer Sys.plan fsmInit := by
  have last (ret : Int) : Frames anyAnswer Sys.plan (do fsmTransition .pending; return ret) :=
    Frames.bind (frames_write fun _ => rfl) fun _ => frames_pure
  have fails : Frames anyAnswer Sys.plan assertFails :=
    Frames.bind (frames_write fun _ => rfl) fun _ => frames_pure
  have ports (lnk : PortIdx) : Frames anyAnswer Sys.plan (do
      let ret ← linkBlock lnk
      let ret ← ifOk ret (linkUnblockForce lnk.other)
      ifOk ret (nodeSchedTx rapsNr 0 0)) :=
    offPorts_plan.linkBlock.bind fun ret => offPorts_plan.linkUnblockForce.ifOk.bind fun ret =>
      offTx_plan.nodeSchedTx.ifOk
  have starts : Frames anyAnswer Sys.plan nodeStartWtr :=
    nodeStartTimer_frames (fun _ _ => rfl) fun s f => congrArg Prod.fst (offInit_stage.work s .wtr f)
  refine Frames.bind (frames_write fun _ => rfl) fun _ => frames_read.bind fun n => ?_
  refine frames_ite (fun _ => ?_) fun _ => (ports .port0).bind last
  cases n.getRpl with
  | none => exact fails.bind last
  | some rpl =>
    refine Frames.bind ?_ last
    change Frames anyAnswer Sys.plan ((do
      let ret ← linkBlock rpl
      let ret ← ifOk ret (linkUnblockForce rpl.other)
      ifOk ret (nodeSchedTx rapsNr 0 0)) >>= fun ret => do
      let revertive ← read fun s => s.node.revertive
      if ret = 0 ∧ n.rplOwner ∧ revertive then nodeStartWtr else pure ret)
    refine (ports rpl).bind fun ret => frames_read.bind fun revertive => ?_
    exact frames_ite (fun _ => starts) fun _ => frames_pure

/-- Even if one of its calls fails. -/
theorem fsmInit_pends (s : Sys) :
    wp anyAnswer anyState fsmInit (fun _ t => t.node.state = .pending) s := by
  have last {m : M Int} (t : Sys) : wp anyAnswer anyState (do
      let ret ← m
      fsmTransition .pending
      return ret) (fun _ u => u.node.state = .pending) t :=
    wp_bind (wp_mono wp_ends fun ret u _ => wp_bind (wp_write trivial (wp_pure rfl)))
  refine wp_bind (wp_write trivial (wp_bind (wp_read (wp_ite (fun _ => ?_) fun _ => last _))))
  split
  · exact last _
  · exact last _

/-- Up and sending nothing. -/
def Sys.late (s : Sys) : Ports Bool where
  port0 := s.plan.up.port0 && !s.pending.port0
  port1 := s.plan.up.port1 && !s.pending.port1

theorem Sys.late_get (s : Sys) (lnk : PortIdx) :
    s.late.get lnk = ((s.hw (s.link lnk).dev).ifUp && !(s.link lnk).txDwork.isPending) := by
  cases lnk <;> rfl

theorem linkStartTx_numbered {ret : Int} (s : Sys) (lnk : PortIdx) :
    numbered ans k (linkStartTx ret lnk) (fun out l _ =>
      (out = none ↔ ans k (.netIfLookupByDev (s.plan.dev.get lnk)) = 0) ∧
      ∀ v, out = some v → l = k + 1 + (s.late.get lnk).toNat ∧
        v = if s.late.get lnk then ans (k + 1) (.kWorkReschedule (.tx lnk)) else ret) s := by
  refine numbered_bind (numbered_read (numbered_bind (numbered_lookup ?_)))
  rw [← s.plan_dev lnk]
  refine numbered_ite (fun lost => numbered_pure ?_) fun found => ?_
  · refine ⟨⟨fun _ => lost_iff.mp lost, fun _ => rfl⟩, fun v isSome => ?_⟩
    cases isSome
  have notLost := mt lost_iff.mpr found
  refine numbered_bind (numbered_read (numbered_bind (numbered_read ?_)))
  have late_eq : ((true && (s.hw (s.plan.dev.get lnk)).ifUp) && !(s.link lnk).txDwork.isPending) =
      s.late.get lnk := by rw [s.late_get, s.plan_dev, Bool.true_and]
  rw [late_eq]
  have someIface {v : Int} : some v = none ↔ ans k (.netIfLookupByDev (s.plan.dev.get lnk)) = 0 :=
    ⟨nofun, fun lost => absurd lost notLost⟩
  refine numbered_ite (fun late => ?_) fun early => numbered_pure ⟨someIface, ?_⟩
  · refine numbered_bind (numbered_bind (numbered_call (numbered_bind (numbered_write ?_))))
    refine numbered_pure (numbered_pure ⟨someIface, fun v isSome => ?_⟩)
    cases isSome
    rw [late]
    exact ⟨rfl, rfl⟩
  · intro v isSome
    cases isSome
    rw [if_neg early, Bool.eq_false_iff.mpr early]
    exact ⟨rfl, rfl⟩

theorem linkStartTx_late {ret : Int} {lnk : PortIdx} :
    Frames anyAnswer (fun s : Sys => (s.plan, s.late.get lnk.other)) (linkStartTx ret lnk) := by
  refine frames_read.bind fun dev => netIfLookupByDev_frames.bind fun found => ?_
  refine frames_ite (fun _ => frames_pure) fun _ => frames_read.bind fun up => ?_
  refine frames_read.bind fun l => frames_ite (fun _ => ?_) fun _ => frames_pure
  refine Frames.bind (kWorkReschedule_frames fun s f => ?_) fun _ => frames_pure
  cases lnk <;> rfl

/-- The second status is written over the first. -/
theorem nodeStartTx_numbered (s : Sys) :
    numbered ans k nodeStartTx (fun ret _ _ => ret = 0 ↔ MakesUp ans s.plan s.late k) s := by
  have noDev : (-ENODEV : Int) ≠ 0 := by decide
  refine numbered_bind (numbered_mono ((linkStartTx_numbered s .port0).and
    (linkStartTx_late.numbered s)) ?_)
  rintro out l t ⟨⟨lost0, found0⟩, same⟩
  obtain ⟨plan, late1⟩ := Prod.mk.inj same
  cases out with
  | none => exact numbered_pure ⟨fun ok => absurd ok noDev, fun all => absurd (lost0.mp rfl) all.iface0⟩
  | some ret =>
    obtain ⟨rfl, status0⟩ := found0 ret rfl
    refine numbered_bind (numbered_mono (linkStartTx_numbered t .port1) ?_)
    rintro out l u ⟨lost1, found1⟩
    rw [plan] at lost1
    change t.late.get .port1 = s.late.get .port1 at late1
    rw [late1] at found1
    have iface0 := mt lost0.mpr nofun
    cases out with
    | none => exact numbered_pure ⟨fun ok => absurd ok noDev, fun all => absurd (lost1.mp rfl) all.iface1⟩
    | some ret' =>
      have iface1 := mt lost1.mpr nofun
      obtain ⟨-, status1⟩ := found1 ret' rfl
      change ret = if s.late.port0 then _ else _ at status0
      have next : k + 1 + s.late.port0.toNat + 1 = k + 2 + s.late.port0.toNat := by omega
      change ret' = if s.late.port1 then ans (k + 1 + s.late.port0.toNat + 1) _ else _ at status1
      rw [next] at status1
      refine numbered_pure ⟨fun ok => ?_, fun all => ?_⟩
      · refine ⟨iface0, iface1, fun early late => ?_, fun late => ?_⟩
        · rw [early] at status1
          rw [late] at status0
          exact status0.symm.trans (status1.symm.trans ok)
        · rw [late] at status1
          exact status1.symm.trans ok
      -- the status returned is that of the last work scheduled
      · cases late1 : s.late.port1 with
        | true =>
          rw [late1] at status1
          exact status1.trans (all.status1 late1)
        | false =>
          rw [late1] at status1
          refine status1.trans ?_
          cases late0 : s.late.port0 with
          | true =>
            rw [late0] at status0
            exact status0.trans (all.status0 late1 late0)
          | false =>
            rw [late0] at status0
            exact status0

/-- What the last loop leaves alone. -/
def Sys.outcome (s : Sys) : (Plan × NodeState × Ports Bool) × Gates × Bool :=
  (s.stage, s.gates, s.node.mgmtCb)

theorem offInit_outcome : OffInit Sys.outcome where
  work s w f := by
    refine congrArg₂ Prod.mk (offInit_stage.work s w f) (congrArg₂ Prod.mk ?_ ?_)
    · exact congrArg Doors.gates (doors_modWork s w f)
    · cases w with
      | tx lnk | linkDown lnk => cases lnk <;> rfl
      | wtr | wtb => rfl
  topreq _ _ := rfl
  vlan s dev f kept := by
    refine congrArg₂ Prod.mk (offInit_stage.vlan s dev f kept) (congrArg₂ Prod.mk ?_ rfl)
    exact congrArg Doors.gates (doors_modHw s dev f fun p => (kept p).1)

theorem makesUp_of_dev {p q : Plan} (same : p.dev = q.dev) {late : Ports Bool}
    (all : MakesUp ans p late k) : MakesUp ans q late k := by
  obtain ⟨iface0, iface1, status0, status1⟩ := all
  rw [same] at iface0 iface1
  exact ⟨iface0, iface1, status0, status1⟩

/-- The interfaces come up and the callback is added. -/
def Sys.listening (s : Sys) (cameUp : Ports Bool) : Sys :=
  ({ s with hw := fun d => { s.hw d with
      ifUp := (s.hw d).ifUp || (cameUp.port0 && d == s.node.ports.port0.dev) ||
        (cameUp.port1 && d == s.node.ports.port1.dev) } } : Sys).modNode fun n => { n with mgmtCb := true }

theorem makesUp_listening (s : Sys) (cameUp : Ports Bool) :
    MakesUp ans (s.listening cameUp).plan (s.listening cameUp).late k ↔
      MakesUp ans s.plan (s.plan.late cameUp s.pending) k := by
  have late : (s.listening cameUp).late = s.plan.late cameUp s.pending := rfl
  rw [late]
  constructor
  · exact makesUp_of_dev (p := (s.listening cameUp).plan) (q := s.plan) rfl
  · exact makesUp_of_dev (p := s.plan) (q := (s.listening cameUp).plan) rfl

/-- An initialised node: it pends, its RPL or, where it is no end of the RPL, one of its links is
blocked and the other one open, the ports are as the links are flagged, and the node listens for
interfaces that come up. -/
structure Sys.InitDone (t : Sys) : Prop where
  state : t.node.state = .pending
  oneBlocked : ∃ lnk, (t.link lnk).blocked = true ∧ (t.link lnk.other).blocked = false ∧
    (t.node.rplOwner = true ∨ t.node.rplNbr = true → t.node.getRpl = some lnk)
  agree : ∀ lnk, (t.hw (t.link lnk).dev).enabled = !(t.link lnk).blocked
  callback : t.node.mgmtCb = true

/-- How the initialisation ends for a node that has been prepared. -/
structure Sys.Started (s t : Sys) : Prop where
  rpl : t.node.ports.map Link.rpl = s.plan.rpl
  dev : t.plan.dev = s.plan.dev
  ring : t.plan.ring = s.plan.ring
  blocked : t.blocked = (Ports.mk false false).modify (fun _ => true) s.plan.blocks
  opened : t.gates (s.plan.dev.get s.plan.blocks.other) = true
  shut : s.plan.dev.port0 ≠ s.plan.dev.port1 → t.gates (s.plan.dev.get s.plan.blocks) = false
  callback : t.node.mgmtCb = true

/-- Two links on one port would have to agree with it. -/
theorem Sys.Started.done_iff {t : Sys} (started : s.Started t) (prepared : s.Prepared)
    (state : t.node.state = .pending) : t.InitDone ↔ s.plan.dev.port0 ≠ s.plan.dev.port1 := by
  have dev (lnk : PortIdx) : (t.link lnk).dev = s.plan.dev.get lnk := by rw [← t.plan_dev, started.dev]
  have blocks : (t.link s.plan.blocks).blocked = true := by
    refine (t.link_blocked _).trans ?_
    change t.blocked.get _ = _
    rw [started.blocked]
    cases s.plan.blocks <;> rfl
  have opens : (t.link s.plan.blocks.other).blocked = false := by
    refine (t.link_blocked _).trans ?_
    change t.blocked.get _ = _
    rw [started.blocked]
    cases s.plan.blocks <;> rfl
  constructor
  -- one of the two flags would be wrong
  · intro done same
    have one : s.plan.dev.get s.plan.blocks = s.plan.dev.get s.plan.blocks.other := by
      cases s.plan.blocks
      · exact same
      · exact same.symm
    have shut := done.agree s.plan.blocks
    have opened := done.agree s.plan.blocks.other
    rw [dev, blocks] at shut
    rw [dev, ← one, shut, opens] at opened
    cases opened
  · intro distinct
    refine ⟨state, ⟨s.plan.blocks, blocks, opens, fun role => ?_⟩, fun lnk => ?_, started.callback⟩
    · have ring : s.plan.ring = true := started.ring.symm.trans (Bool.or_eq_true_iff.mpr role)
      have isRpl : t.node.ports.port1.rpl = true :=
        (congrArg Ports.port1 (started.rpl.trans prepared.rpl)).trans ring
      rw [Plan.blocks, ring]
      exact getRpl_of_isRpl isRpl
    · have other (b : PortIdx) : lnk ≠ b → lnk = b.other := by cases lnk <;> cases b <;> decide
      by_cases same : lnk = s.plan.blocks
      · rw [same, blocks, dev]
        exact started.shut distinct
      · rw [other _ same, opens, dev]
        exact started.opened

/-- The initialisation of a node that has been prepared. -/
theorem startMachine_numbered {cameUp : Ports Bool} (prepared : s.Prepared) :
    numbered ans k (do
      let ret ← fsmInit
      if ret ≠ 0 then
        return ret
      ifacesUp cameUp
      write fun s => s.modNode fun n => { n with mgmtCb := true }
      nodeStartTx) (fun ret _ t => t.node.state = .pending ∧
        (ret = 0 ↔ FsmReady ans s.plan k ∧
          MakesUp ans s.plan (s.plan.late cameUp (sends ans s.plan k)) (afterFsm ans s.plan k)) ∧
        (ret = 0 → s.Started t)) s := by
  refine numbered_bind (numbered_mono ((fsmInit_numbered prepared).and
    (((fsmInit_pends s).and (fsmInit_plan.ends s)).numbered (respects_any ans))) ?_)
  rintro ret l t ⟨⟨ready, next⟩, pending, plan⟩
  refine numbered_ite (fun failed => numbered_pure ⟨pending, ?_⟩) fun ok => ?_
  · exact failed_early failed fun all => failed (ready.mpr all.1)
  have ok := not_not.mp ok
  obtain ⟨rfl, sending, flags⟩ := next ok
  have starts : Frames anyAnswer Sys.outcome nodeStartTx := offInit_outcome.nodeStartTx
  refine numbered_bind (numbered_write (numbered_bind (numbered_write ?_)))
  change numbered ans _ nodeStartTx _ (t.listening cameUp)
  refine numbered_mono ((nodeStartTx_numbered (t.listening cameUp)).and
    (starts.numbered (t.listening cameUp))) ?_
  rintro ret' l u ⟨makesUp, same⟩
  rw [makesUp_listening, plan, sending] at makesUp
  have plan' : u.plan = (t.listening cameUp).plan := congrArg (fun o => o.1.1) same
  have state : u.node.state = t.node.state := congrArg (fun o => o.1.2.1) same
  have blocked : u.blocked = t.blocked := congrArg (fun o => o.1.2.2) same
  have gates : u.gates = t.gates := congrArg (fun o => o.2.1) same
  have callback : u.node.mgmtCb = true := congrArg (fun o => o.2.2) same
  have all_iff : ret' = 0 ↔ FsmReady ans s.plan k ∧
      MakesUp ans s.plan (s.plan.late cameUp (sends ans s.plan k)) (afterFsm ans s.plan k) :=
    ⟨fun ok' => ⟨ready.mp ok, makesUp.mp ok'⟩, fun all => makesUp.mpr all.2⟩
  refine ⟨state.trans pending, all_iff, fun _ => ?_⟩
  have now : u.gates = fun d => if d = s.plan.dev.get s.plan.blocks.other then true
      else if d = s.plan.dev.get s.plan.blocks then false else s.gates d :=
    gates.trans (congrArg Prod.snd flags)
  refine ⟨?_, ?_, ?_, ?_, ?_, fun distinct => ?_, callback⟩
  · rw [← plan]
    exact congrArg Plan.rpl plan'
  · rw [← plan]
    exact (congrArg Plan.dev plan').trans rfl
  · rw [← plan]
    exact (congrArg Plan.ring plan').trans rfl
  · refine blocked.trans ((congrArg Prod.fst flags).trans ?_)
    rw [prepared.opened]
    cases s.plan.blocks <;> rfl
  · rw [now]
    exact if_pos rfl
  · have apart : s.plan.dev.get s.plan.blocks ≠ s.plan.dev.get s.plan.blocks.other := by
      cases s.plan.blocks
      · exact distinct
      · exact distinct.symm
    rw [now]
    exact (if_neg apart).trans (if_pos rfl)

theorem Configured.prepares {timeout : Nat} (configured : Configured s.node) :
    wp anyAnswer anyState (nodePrepare timeout) (fun _ t =>
      t.Prepared ∧ t.plan = s.plan ∧ t.node.state = .uninit) s := by
  have formed := configured.wellFormed
  have untouched := configured.untouched
  have frames : Frames anyAnswer Sys.stage (nodePrepare timeout) := offInit_stage.nodePrepare
  refine wp_mono ((nodePrepare_idle untouched.tx).and (frames.ends s)) ?_
  rintro ret t ⟨idle, same⟩
  have plan : t.plan = s.plan := congrArg Prod.fst same
  refine ⟨⟨?_, ?_, idle⟩, plan, ?_⟩
  · rw [plan]
    exact congrArg₂ Ports.mk formed.notPort0 formed.role
  · exact (congrArg (fun v => v.2.2) same).trans untouched.blocked
  · exact (congrArg (fun v => v.2.1) same).trans untouched.uninit

/-- How the initialisation of a configured node ends. -/
theorem nodeInit_numbered {timeout : Nat} {cameUp : Ports Bool} (configured : Configured s.node) :
    numbered ans 0 (nodeInit timeout cameUp) (fun ret _ t =>
      (¬Prepares ans s.plan → ret ≠ 0 ∧ t.node.state = .uninit) ∧
      (Prepares ans s.plan → t.node.state = .pending ∧
        ((ret = 0 ∧ t.InitDone) ↔ Finishes ans s.plan cameUp))) s := by
  refine numbered_bind (numbered_mono ((nodePrepare_numbered s).and
    (configured.prepares.numbered (respects_any ans))) ?_)
  rintro ret l t ⟨⟨ready, next⟩, prepared, plan, uninit⟩
  refine numbered_ite (fun failed => numbered_pure ?_) fun ok => ?_
  · exact ⟨fun _ => ⟨failed, uninit⟩, fun all => absurd (ready.mpr all) failed⟩
  have prepares := ready.mp (not_not.mp ok)
  have l_eq := next (not_not.mp ok)
  refine numbered_mono (startMachine_numbered prepared) ?_
  rintro ret' l' u ⟨pending, ended, started⟩
  have done_iff (ok' : ret' = 0) := (started ok').done_iff prepared pending
  rw [plan] at done_iff
  rw [plan, l_eq] at ended
  refine ⟨fun unready => absurd prepares unready, fun _ => ⟨pending, ?_, fun all => ?_⟩⟩
  · rintro ⟨ok', done⟩
    obtain ⟨fsm, makesUp⟩ := ended.mp ok'
    exact ⟨(done_iff ok').mp done, fsm, makesUp⟩
  · have ok' := ended.mpr ⟨all.fsm, all.makesUp⟩
    exact ⟨ok', (done_iff ok').mpr all.distinct⟩

theorem prepares_of_success {p : Plan} (succeeds : Respects Success ans) : Prepares ans p := by
  have link (lnk : PortIdx) (k : Nat) : LinkReady ans p lnk k :=
    ⟨⟨succeeds k (.netIfLookupByDev _), succeeds (k + 1) (.netEthVlanEnable _ _),
      succeeds (k + 2) (.netEthVlanEnable _ _), succeeds (k + 4) (.netEthGetVlanIface _ _)⟩,
      fun _ => succeeds (k + 5) (.kWorkReschedule _)⟩
  exact ⟨succeeds 0 .kMutexInit, link .port0 _, link .port1 _⟩

end

/-- `erps_node_init` returns zero and has done everything, or a call has failed, it returns
something else, and the node is not initialised. -/
def Sys.AllOrNothing (s : Sys) (timeout : Nat) (cameUp : Ports Bool) (ans : Answers KernelCall) : Prop :=
  let ret := (nodeInit timeout cameUp).result ans s
  let t := (nodeInit timeout cameUp).final ans s
  (ret = 0 ∧ t.InitDone) ∨
    ((nodeInit timeout cameUp).Fails Success ans s ∧ ret ≠ 0 ∧ t.node.state = .uninit)

/-- The initialisation is all or nothing if and only if it fails before it comes to the state
machine or does not fail at all. -/
theorem init_all_or_nothing_iff {s : Sys} (configured : Configured s.node) (timeout : Nat)
    (cameUp : Ports Bool) (ans : Answers KernelCall) :
    s.AllOrNothing timeout cameUp ans ↔ (Prepares ans s.plan → Finishes ans s.plan cameUp) := by
  have ends (ans : Answers KernelCall) := numbered.run
    (nodeInit_numbered configured : numbered ans 0 (nodeInit timeout cameUp) _ s)
  obtain ⟨_, unready, ready⟩ := ends ans
  by_cases prepares : Prepares ans s.plan
  · obtain ⟨pending, done_iff⟩ := ready prepares
    refine ⟨?_, fun all => .inl (done_iff.mpr (all prepares))⟩
    rintro (done | ⟨-, -, uninit⟩) _
    · exact done_iff.mp done
    · rw [pending] at uninit
      cases uninit
  · obtain ⟨failed, uninit⟩ := unready prepares
    refine ⟨fun _ prepares' => absurd prepares' prepares, fun _ => .inr ⟨?_, failed, uninit⟩⟩
    intro ans' succeeds same
    obtain ⟨_, -, ready'⟩ := ends ans'
    -- with success in every call the node would pend
    have pending := (ready' (prepares_of_success succeeds)).1
    have final : (nodeInit timeout cameUp).final ans' s = (nodeInit timeout cameUp).final ans s :=
      congrArg (fun r => r.2.now) same
    rw [final, uninit] at pending
    cases pending

/-- A node before `erps_node_init`, its interfaces being up or down. -/
def DtNode.fresh (d : DtNode) (up : Bool) : Sys :=
  { d.boot with node := d.node, hw := fun _ => ⟨true, fun _ => true, up⟩ }

/-- The owner of a ring, one interface of which comes up before the callback is added. -/
theorem init_all_or_nothing_late :
    ((sampleNode true false (sampleDevice 0 1) (sampleDevice 1 2)).fresh false).AllOrNothing 10000
      ⟨true, false⟩ allSucceed := by
  refine (init_all_or_nothing_iff (.dt _) 10000 ⟨true, false⟩ allSucceed).mpr fun _ => ⟨by decide, ?_, ?_⟩
  · exact ⟨⟨by decide, by decide, by decide⟩, ⟨by decide, by decide, by decide⟩, fun _ => by decide,
      fun _ => by decide, fun _ => by decide⟩
  · exact ⟨by decide, by decide, by decide, by decide⟩

/-- A kernel that always reports that work has been scheduled anew. -/
def schedulesAnew : Answers KernelCall
  | _, .kWorkReschedule _ => 1
  | n, c => allSucceed n c

theorem schedulesAnew_respects : Respects Success schedulesAnew := by
  intro n c
  cases c <;> simp [Success, schedulesAnew, allSucceed, netDrop]

/-- A port that is not opened, and an interface that comes up late where no call fails at all:
there is an error to return, but the node pends. -/
theorem init_half_done :
    ¬((sampleNode true false (sampleDevice 0 1) (sampleDevice 1 2)).fresh true).AllOrNothing 10000
      ⟨false, false⟩ refusesOpening ∧
    ¬((sampleNode true false (sampleDevice 0 1) (sampleDevice 1 2)).fresh false).AllOrNothing 10000
      ⟨true, false⟩ schedulesAnew := by
  constructor
  · rintro (⟨ok, -⟩ | ⟨-, -, uninit⟩)
    · exact absurd ok (by decide)
    · exact absurd uninit (by decide)
  · rintro (⟨ok, -⟩ | ⟨fails, -⟩)
    · exact absurd ok (by decide)
    · exact fails schedulesAnew schedulesAnew_respects rfl

end Erps
