import Erps.Ctl.Model

/-!
# What the state machine keeps of a system

`Sys.ctl` is what the state machine keeps of a system and `Sys.setup` what no
handler ever changes. `Leads` says that a program whose calls all succeed does to
the first what the state machine says and leaves the second alone; here for the
operations on links, transmission, priority and timers.
-/
namespace Erps

open Calls

structure Setup where
  rplOwner : Bool
  rplNbr : Bool
  revertive : Bool
  rpl : Ports Bool
  dev : Ports Device
  ifUp : Device → Bool

namespace Setup

/-- Which ring interfaces are up. -/
def up (u : Setup) : Ports Bool := u.dev.map u.ifUp

def role (u : Setup) : Role :=
  if u.rplOwner then .owner else if u.rplNbr then .nbr else .plain

/-- The setup of a well-formed node. -/
structure WellFormed (u : Setup) : Prop where
  rpl : u.rpl = ⟨false, u.role ≠ .plain⟩
  oneRole : (u.rplOwner && u.rplNbr) = false

/-- Whether the PDU comes from a node with a greater node ID. -/
def outranked (u : Setup) (pdu : RapsPdu) : Bool :=
  0 < memcmp pdu.rapsInfo.nodeId.toList u.dev.port0.addr.toList

/-- What the state machine sees while the event is handled. -/
def seen (u : Setup) : Event → Ctl.Seen
  | .raps _ _ pdu => ⟨u.outranked pdu, u.up⟩
  | _ => ⟨false, u.up⟩

end Setup

def DelayableWork.armed (w : DelayableWork) : Armed := ⟨w.scheduled, w.running⟩

namespace Sys

def setup (s : Sys) : Setup where
  rplOwner := s.node.rplOwner
  rplNbr := s.node.rplNbr
  revertive := s.node.revertive
  rpl := s.node.ports.map Link.rpl
  dev := s.node.ports.map Link.dev
  ifUp := fun d => (s.hw d).ifUp

def ctl (s : Sys) : Ctl where
  role := s.setup.role
  revertive := s.node.revertive
  state := s.node.state
  topreq := s.node.localTopreq
  blocked := s.node.ports.map Link.blocked
  failed := s.node.ports.map Link.failed
  tx := s.node.ports.map fun l => l.txDwork.scheduled
  rsSc := s.node.pduMut.rsSc
  status := s.node.pduMut.status
  wtr := s.node.wtrDwork.armed
  wtb := s.node.wtbDwork.armed

theorem modHw_setup (s : Sys) (dev : Device) (f : PortHw → PortHw)
    (same : ∀ p, (f p).ifUp = p.ifUp) : (s.modHw dev f).setup = s.setup := by
  have ifUp : ∀ d, ((s.modHw dev f).hw d).ifUp = (s.hw d).ifUp := by
    intro d
    by_cases here : d = dev
    · simp [modHw, here, same]
    · simp [modHw, here]
  simp [setup, ifUp]

theorem modLink_setup (s : Sys) (i : PortIdx) (f : Link → Link)
    (same : ∀ l, (f l).rpl = l.rpl ∧ (f l).dev = l.dev) : (s.modLink i f).setup = s.setup := by
  cases i <;> simp [setup, Ports.modify, Ports.map, same]

theorem link_blocked (s : Sys) (i : PortIdx) : (s.link i).blocked = s.ctl.blocked.get i := by
  cases i <;> rfl

theorem link_failed (s : Sys) (i : PortIdx) : (s.link i).failed = s.ctl.failed.get i := by
  cases i <;> rfl

theorem owner_eq (s : Sys) : s.node.rplOwner = (s.ctl.role == .owner) := by
  change s.setup.rplOwner = _
  cases owns : s.setup.rplOwner <;> cases neighbours : s.setup.rplNbr <;>
    simp [ctl, Setup.role, owns, neighbours]

theorem ringRole_iff (s : Sys) : (s.node.rplOwner = true ∨ s.node.rplNbr = true) ↔
    s.ctl.role ≠ .plain := by
  change s.setup.rplOwner = true ∨ s.setup.rplNbr = true ↔ _
  cases owns : s.setup.rplOwner <;> cases neighbours : s.setup.rplNbr <;>
    simp [ctl, Setup.role, owns, neighbours]

theorem reverts_iff (s : Sys) : (s.node.rplOwner = true ∧ s.node.revertive = true) ↔
    s.ctl.role = .owner ∧ s.ctl.revertive = true := by
  rw [owner_eq, beq_iff_eq]
  exact Iff.rfl

/-- The RPL is port 1 of the RPL owner and the RPL neighbour. -/
theorem getRpl_eq (s : Sys) (formed : s.setup.WellFormed) :
    s.node.getRpl = if s.ctl.role = .plain then none else some .port1 := by
  have rpl : s.node.ports.port1.rpl = decide (s.ctl.role ≠ .plain) :=
    congrArg Ports.port1 formed.rpl
  unfold Node.getRpl
  rw [rpl]
  cases s.ctl.role <;> rfl

end Sys

/-- With every call succeeding, the program returns `a` and leaves a system the state
machine sees as `c`. -/
def Leads {α : Type} (m : M α) (s : Sys) (a : α) (c : Ctl) : Prop :=
  wp Success anyState m (fun b t => b = a ∧ t.ctl = c ∧ t.setup = s.setup) s

section
variable {α β : Type} {s : Sys} {a : α} {c : Ctl}

theorem leads_pure (same : s.ctl = c) : Leads (pure a) s a c := wp_pure ⟨rfl, same, rfl⟩

theorem leads_read {f : Sys → β} {k : β → M α} (next : Leads (k (f s)) s a c) :
    Leads (read f >>= k) s a c :=
  wp_bind (wp_read next)

theorem Leads.bind {m : M β} {k : β → M α} {b : β} {d : Ctl} (h : Leads m s b d)
    (next : ∀ t, t.ctl = d → t.setup = s.setup → Leads (k b) t a c) :
    Leads (m >>= k) s a c := by
  refine wp_bind (wp_mono h ?_)
  rintro b' t ⟨rfl, same, setup⟩
  refine wp_mono (next t same setup) ?_
  rintro a' t' ⟨rfl, same', setup'⟩
  exact ⟨rfl, same', setup'.trans setup⟩

theorem leads_write {f : Sys → Sys} (setup : (f s).setup = s.setup) :
    Leads (write f) s () (f s).ctl :=
  wp_write trivial ⟨rfl, rfl, setup⟩

theorem Leads.ite {p : Prop} [Decidable p] {m m' : M α} (yes : p → Leads m s a c)
    (no : ¬p → Leads m' s a c) : Leads (if p then m else m') s a c := by
  split
  · exact yes (by assumption)
  · exact no (by assumption)

/-- A bind whose first program is one of two. -/
theorem Leads.bindIte {p : Prop} [Decidable p] {m m' : M β} {k : β → M α} {b : β} {d : Ctl}
    (h : Leads (if p then m else m') s b d)
    (next : ∀ t, t.ctl = d → t.setup = s.setup → Leads (k b) t a c) :
    Leads (if p then m >>= k else m' >>= k) s a c := by
  split at h
  · next yes => simpa [yes] using h.bind next
  · next no => simpa [no] using h.bind next

theorem Leads.ok {m : M Int} {n : Int} (h : Leads m s n c) : Leads (ifOk 0 m) s n c := by
  rwa [ifOk, if_pos rfl]

theorem Leads.bindOk {m : M Int} {k : Int → M α} {n : Int} {d : Ctl} (h : Leads m s n d)
    (next : ∀ t, t.ctl = d → t.setup = s.setup → Leads (k n) t a c) :
    Leads (ifOk 0 m >>= k) s a c :=
  h.ok.bind next

theorem Leads.cast {d : Ctl} (h : Leads m s a d) (same : d = c) : Leads m s a c := same ▸ h

end

/-! ### Calls that succeed -/

section
variable {s : Sys} {dev : Device} {always : Sys → Prop}

theorem wp_lookup {Q : Bool → Sys → Prop} (h : Q true s) :
    wp Success always (netIfLookupByDev dev) Q s := by
  refine wp_bind (wp_call fun v found => wp_pure ?_)
  have found' : (v != 0) = true := by simpa [Success] using found
  rwa [found']

theorem wp_vlanIface {Q : Bool → Sys → Prop} {vid : UInt16} (h : Q true s) :
    wp Success always (netEthGetVlanIface dev vid) Q s := by
  refine wp_bind (wp_call fun v found => wp_pure ?_)
  have found' : (v != 0) = true := by simpa [Success] using found
  rwa [found']

theorem wp_linkAddr {Q : Bool → Sys → Prop} (h : Q true s) :
    wp Success always (netIfGetLinkAddr dev) Q s := by
  refine wp_bind (wp_call fun v found => wp_pure ?_)
  have found' : (v != 0) = true := by simpa [Success] using found
  rwa [found']

theorem wp_setEnabled {Q : Int → Sys → Prop} {enable : Bool}
    (h : Q 0 (s.modHw dev fun p => { p with enabled := enable })) :
    wp Success anyState (netEthPortSetEnabled dev enable) Q s := by
  refine wp_bind (wp_call fun v ok => ?_)
  have zero : v = 0 := ok
  exact wp_ite (fun bad => absurd zero bad) fun _ => wp_bind (wp_write trivial (wp_pure h))

theorem wp_flush {Q : Int → Sys → Prop} (h : Q 0 { s with fdbFlushes := s.fdbFlushes + 1 }) :
    wp Success anyState (netEthMacFlush dev) Q s := by
  refine wp_bind (wp_call fun v ok => ?_)
  have zero : v = 0 := ok
  exact wp_ite (fun bad => absurd zero bad) fun _ => wp_bind (wp_write trivial (wp_pure h))

theorem wp_reschedule {Q : Int → Sys → Prop} {w : WorkItem} {delay : Nat}
    (h : ∀ v, 0 ≤ v → Q v (s.modWork w fun d => { d with timeout := some delay })) :
    wp Success anyState (kWorkReschedule w delay) Q s := by
  refine wp_bind (wp_call fun v ok => ?_)
  have accepted : 0 ≤ v := ok
  have scheduled : ¬v < 0 := by omega
  refine wp_bind (wp_write trivial (wp_pure ?_))
  simpa [scheduled] using h v accepted

end

/-! ### Ports -/

/-- Writing what is there already changes nothing. -/
theorem Ports.modify_same {α : Type} {p : Ports α} {i : PortIdx} {a : α} (h : p.get i = a) :
    p.modify (fun _ => a) i = p := by
  cases i <;> subst h <;> rfl

theorem linkBlock_leads (s : Sys) (lnk : PortIdx) :
    Leads (linkBlock lnk) s 0 (s.ctl.block lnk) := by
  refine leads_read ?_
  refine Leads.ite (fun blocked => leads_pure ?_) fun _ => ?_
  · rw [Sys.link_blocked] at blocked
    rw [Ctl.block, Ports.modify_same blocked]
  · refine wp_bind (wp_read ?_)
    refine wp_bind (wp_lookup ?_)
    refine wp_ite (by simp) fun _ => ?_
    refine wp_bind (wp_setEnabled ?_)
    refine wp_ite (by simp) fun _ => ?_
    refine wp_bind (wp_write trivial ?_)
    refine wp_bind (wp_write trivial ?_)
    refine wp_bind (wp_write trivial ?_)
    refine wp_bind (wp_read ?_)
    refine wp_bind (wp_vlanIface ?_)
    refine wp_ite (by simp) fun _ => ?_
    refine wp_bind (wp_write trivial ?_)
    refine wp_pure ⟨rfl, ?_, ?_⟩
    · cases lnk <;> rfl
    · simp [Sys.modHw_setup, Sys.modLink_setup, Link.deleteNodeIdBpr]

theorem linkUnblock_leads (s : Sys) (lnk : PortIdx) :
    Leads (linkUnblock lnk) s 0 (s.ctl.unblock lnk) := by
  refine wp_bind (wp_write trivial ?_)
  refine wp_bind (wp_read ?_)
  refine wp_ite (fun opn => ?_) fun _ => ?_
  · have already : s.ctl.blocked.get lnk = false := by
      rw [← Sys.link_blocked]
      simpa [Sys.link] using opn
    refine wp_pure ⟨rfl, ?_, by simp [Sys.modLink_setup]⟩
    rw [Ctl.unblock, Ports.modify_same already]
    cases lnk <;> rfl
  · refine wp_bind (wp_read ?_)
    refine wp_bind (wp_lookup ?_)
    refine wp_ite (by simp) fun _ => ?_
    refine wp_bind (wp_setEnabled ?_)
    refine wp_ite (by simp) fun _ => ?_
    refine wp_bind (wp_write trivial ?_)
    refine wp_bind (wp_read ?_)
    refine wp_bind (wp_vlanIface ?_)
    refine wp_ite (by simp) fun _ => ?_
    refine wp_bind (wp_write trivial ?_)
    refine wp_pure ⟨rfl, ?_, ?_⟩
    · cases lnk <;> rfl
    · simp [Sys.modHw_setup, Sys.modLink_setup]

theorem linkUnblockForce_leads (s : Sys) (lnk : PortIdx) :
    Leads (linkUnblockForce lnk) s 0 (s.ctl.unblock lnk) := by
  refine (leads_write (Sys.modLink_setup s lnk _ ?_)).bind fun t same setup => ?_
  · exact fun _ => ⟨rfl, rfl⟩
  · refine (linkUnblock_leads t lnk).cast ?_
    rw [same]
    cases lnk <;> rfl

theorem nodeUnblockAll_leads (s : Sys) : Leads nodeUnblockAll s 0 s.ctl.unblockAll := by
  refine (linkUnblock_leads s .port0).bind fun t same setup => ?_
  exact (linkUnblock_leads t .port1).ok.cast (by rw [same]; rfl)

theorem linkUnblockNonFailed_leads (s : Sys) (lnk : PortIdx) :
    Leads (linkUnblockNonFailed lnk) s 0
      (if s.ctl.failed.get lnk then s.ctl else s.ctl.unblock lnk) := by
  refine leads_read ?_
  rw [Sys.link_failed]
  cases s.ctl.failed.get lnk with
  | true => exact leads_pure rfl
  | false => exact linkUnblock_leads s lnk

theorem nodeUnblockNonFailed_leads (s : Sys) :
    Leads nodeUnblockNonFailed s 0 s.ctl.unblockNonFailed := by
  refine (linkUnblockNonFailed_leads s .port0).bind fun t same setup => ?_
  refine (linkUnblockNonFailed_leads t .port1).ok.cast ?_
  rw [same]
  obtain ⟨role, revertive, state, topreq, ⟨b0, b1⟩, ⟨f0, f1⟩, tx, rsSc, status, wtr, wtb⟩ := s.ctl
  cases f0 <;> cases f1 <;>
    simp [Ctl.unblockNonFailed, Ctl.unblock, Ports.get, Ports.modify]

/-! ### Flushing and transmitting -/

theorem flushFdb_leads (s : Sys) (lnk : PortIdx) : Leads (flushFdb lnk) s 0 s.ctl := by
  refine wp_bind (wp_read ?_)
  refine wp_bind (wp_lookup ?_)
  refine wp_ite (by simp) fun _ => ?_
  exact wp_flush ⟨rfl, rfl, rfl⟩

theorem linkGetNodeId_leads (s : Sys) :
    Leads linkGetNodeId s (0, s.setup.dev.port0.addr) s.ctl := by
  refine wp_bind (wp_read ?_)
  refine wp_bind (wp_lookup ?_)
  refine wp_ite (by simp) fun _ => ?_
  refine wp_bind (wp_linkAddr ?_)
  exact wp_ite (by simp) fun _ => wp_pure ⟨rfl, rfl, rfl⟩

/-- One round of the loop schedules TX exactly if the interface of the port is up. -/
theorem wp_linkSchedTx {s : Sys} {lnk : PortIdx} {ret : Int} (accepted : 0 ≤ ret)
    (off : s.ctl.tx.get lnk = false) :
    wp Success anyState (linkSchedTx ret lnk) (fun v t => 0 ≤ v ∧ t.setup = s.setup ∧
      t.ctl = { s.ctl with tx := s.ctl.tx.modify (fun _ => s.setup.up.get lnk) lnk }) s := by
  have up_eq : (s.hw (s.link lnk).dev).ifUp = s.setup.up.get lnk := by cases lnk <;> rfl
  refine wp_bind (wp_read ?_)
  refine wp_bind (wp_lookup ?_)
  refine wp_bind (wp_read ?_)
  rw [up_eq]
  cases up : s.setup.up.get lnk with
  | false =>
    refine wp_ite (fun _ => wp_pure ⟨accepted, rfl, ?_⟩) (by simp)
    rw [Ports.modify_same off]
  | true =>
    refine wp_ite (by simp) fun _ => ?_
    refine wp_bind (wp_read ?_)
    refine wp_reschedule fun v stored => ⟨stored, ?_, ?_⟩
    · exact Sys.modLink_setup s lnk _ fun _ => ⟨rfl, rfl⟩
    · cases lnk <;> rfl

theorem nodeStopTx_leads (s : Sys) : Leads nodeStopTx s () s.ctl.silence := by
  refine wp_bind (wp_write trivial ?_)
  refine wp_bind (wp_write trivial ?_)
  exact wp_write trivial ⟨rfl, rfl, rfl⟩

/-- Both rounds of the loop, from a node that has stopped TX. -/
theorem schedBoth_leads (s : Sys) (off : s.ctl.tx = ⟨false, false⟩) :
    Leads (do
      let ret ← linkSchedTx 0 .port0
      let ret ← if 0 ≤ ret then linkSchedTx ret .port1 else pure ret
      return if ret < 0 then ret else 0) s 0 { s.ctl with tx := s.setup.up } := by
  refine wp_bind (wp_mono (wp_linkSchedTx (by decide) (by rw [off]; rfl)) ?_)
  rintro v t ⟨accepted, setup, same⟩
  refine wp_ite (fun _ => ?_) fun bad => absurd accepted bad
  have off1 : t.ctl.tx.get .port1 = false := by rw [same, off]; rfl
  refine wp_bind (wp_mono (wp_linkSchedTx accepted off1) ?_)
  rintro v' t' ⟨accepted', setup', same'⟩
  have returned : ¬v' < 0 := by omega
  refine wp_pure ⟨if_neg returned, ?_, setup'.trans setup⟩
  rw [same', same, setup, off]
  rfl

theorem nodeSchedTx_leads (s : Sys) {reqState : UInt8} (status : UInt8)
    (valid : validReqState reqState = true) :
    Leads (nodeSchedTx reqState 0 status) s 0 (s.ctl.send s.setup.up reqState status) := by
  refine Leads.ite (by simp [valid]) fun _ => ?_
  refine Leads.ite (by simp) fun _ => ?_
  refine wp_bind (wp_write trivial ?_)
  refine wp_bind (wp_write trivial ?_)
  refine wp_bind (wp_read ?_)
  refine wp_bind (wp_write trivial ?_)
  refine wp_mono (schedBoth_leads _ rfl) ?_
  rintro ret t ⟨rfl, same, setup⟩
  refine ⟨rfl, same.trans ?_, setup⟩
  have noSubcode : reqState <<< rapsRsShift ||| 0 = reqState <<< rapsRsShift := UInt8.or_zero
  rw [noSubcode]
  rfl

/-! ### Priority and timers -/

namespace Sys

/-- The system once `req` has passed the priority logic. -/
def taken (s : Sys) (req : Request) : Sys :=
  s.modNode fun n => { n with localTopreq := req.remembered }

theorem clearValid_eq (s : Sys) : s.node.localClearValid .clear = s.ctl.clearValid := by
  have topreq : s.node.localTopreq = s.ctl.topreq := rfl
  unfold Node.localClearValid Ctl.clearValid
  rw [owner_eq, topreq]
  cases s.ctl.topreq <;> rfl

end Sys

/-- The priority logic makes no call, so it does the same whatever is answered. -/
theorem wp_resolve {good : KernelCall → Int → Prop} (s : Sys) (req : Request) :
    wp good anyState (fsmResolveReqPrio req) (fun ret t =>
      ret = (if s.ctl.Passes req then 0 else -EBUSY) ∧
        t = if s.ctl.Passes req then s.taken req else s) s := by
  refine wp_bind (wp_read ?_)
  refine wp_ite (fun invalid => wp_pure ?_) fun valid => ?_
  · obtain ⟨rfl, invalid⟩ := invalid
    rw [Sys.clearValid_eq] at invalid
    have stopped : ¬s.ctl.Passes .clear := by simp [Ctl.Passes, invalid]
    simp [stopped]
  · have clearOk : req = .clear → s.ctl.clearValid = true := by
      rintro rfl
      simpa [Sys.clearValid_eq] using valid
    refine wp_bind (wp_write trivial ?_)
    refine wp_bind (wp_read ?_)
    by_cases lifted : req = .clearSf ∧ s.ctl.topreq = .sf
    · -- the remembered SF is forgotten, so nothing outranks the request
      have passes : s.ctl.Passes req := ⟨clearOk, .inr lifted⟩
      obtain ⟨rfl, topreq⟩ := lifted
      have topreq' : s.node.localTopreq = .sf := topreq
      simp only [passes, topreq', Sys.modNode, and_self, if_true]
      refine wp_ite (fun _ => ?_) fun outranked => absurd (by decide) outranked
      exact wp_bind (wp_write trivial (wp_pure ⟨rfl, rfl⟩))
    · have same : (s.modNode fun n => if req = .clearSf ∧ n.localTopreq = .sf then
          { n with localTopreq := .invalid } else n) = s := by
        have kept : ¬(req = .clearSf ∧ s.node.localTopreq = .sf) := lifted
        simp [Sys.modNode, kept]
      rw [same]
      have passes_iff : s.ctl.Passes req ↔ req.toNat ≤ s.node.localTopreq.toNat :=
        ⟨fun passes => passes.2.resolve_right lifted, fun higher => ⟨clearOk, .inl higher⟩⟩
      refine wp_ite (fun higher => ?_) fun outranked => wp_pure ?_
      · simp only [passes_iff.mpr higher, if_true]
        exact wp_bind (wp_write trivial (wp_pure ⟨rfl, rfl⟩))
      · simp [mt passes_iff.mp outranked]

section
variable {good : KernelCall → Int → Prop}

theorem wp_postRunning (s : Sys) (req : Request) :
    wp good anyState (fsmPostRunning req) (fun ret t => ret = 0 ∧
      t = if s.ctl.Passes req then s.taken req else s) s :=
  wp_bind (wp_mono (wp_resolve s req) fun _ _ h => wp_pure ⟨rfl, h.2⟩)

theorem wp_postLockedRunning (s : Sys) (t : Timer) :
    wp good anyState (fsmPostLocked .port0 t.running none) (fun ret u => ret = 0 ∧
      u = if s.ctl.Passes t.running then s.taken t.running else s) s := by
  have notClearSf : t.running ≠ .clearSf := by cases t <;> decide
  have notSf : t.running ≠ .sf := by cases t <;> decide
  unfold fsmPostLocked
  refine wp_bindWhen ?_
  refine wp_ite (fun clears => absurd clears notClearSf) fun _ => wp_pure ?_
  refine wp_bind (wp_mono (wp_resolve s t.running) ?_)
  rintro ret u ⟨rfl, rfl⟩
  by_cases passes : s.ctl.Passes t.running
  · simp only [passes, if_true]
    refine wp_ite (fun busy => absurd busy (by decide)) fun _ => wp_bind (wp_write trivial ?_)
    rw [if_neg notSf]
    refine wp_bind (wp_read (wp_ite (fun bad => absurd bad.1 notClearSf) fun _ => ?_))
    -- no state has an action for a running signal
    cases state : (s.taken t.running).node.state <;> simp only [id, state] <;> cases t <;>
      exact wp_pure ⟨rfl, rfl⟩
  · simp only [passes, if_false]
    exact wp_ite (fun _ => wp_pure ⟨rfl, rfl⟩) fun ok => absurd trivial ok

/-- A running signal passes through `erps_fsm_post_locked` as through the priority logic
alone. -/
theorem fsmPostLocked_running (t : Timer) (ans : Answers KernelCall) (s : Sys) :
    (fsmPostLocked .port0 t.running none).final ans s = (fsmPostRunning t.running).final ans s := by
  have locked := (wp_postLockedRunning s t).post ans (respects_any ans)
  have alone := (wp_postRunning s t.running).post ans (respects_any ans)
  exact locked.2.trans alone.2.symm

end

/-- A timer started by a kernel that does or does not schedule it. -/
def Ctl.rearm (c : Ctl) (t : Timer) (scheduled : Bool) : Ctl :=
  if (c.timer t).busy then c
  else
    let c := if t.running.toNat ≤ c.topreq.toNat then { c with topreq := t.running } else c
    c.modTimer (fun a => { a with scheduled := scheduled }) t

/-- The running signal is posted before it is known whether the timer is scheduled. -/
theorem wp_startTimer {good : KernelCall → Int → Prop} (s : Sys) (t : Timer) :
    wp good anyState (nodeStartTimer t) (fun ret u => u.setup = s.setup ∧
      ((ret = 0 ∧ u.ctl = s.ctl.start t) ∨
        ((s.ctl.timer t).busy = false ∧ good (.kWorkReschedule t.item) ret ∧ ret < 0 ∧
          u.ctl = s.ctl.rearm t false))) s := by
  have busy_eq : (s.node.work t.item).isPending = (s.ctl.timer t).busy := by cases t <;> rfl
  refine wp_bind (wp_read ?_)
  rw [busy_eq]
  refine wp_ite (fun busy => wp_pure ⟨rfl, .inl ⟨rfl, ?_⟩⟩) fun idle => ?_
  · rw [Ctl.start, if_pos busy]
  refine wp_bind (wp_mono (wp_postRunning s t.running) ?_)
  rintro ret u ⟨-, rfl⟩
  refine wp_bind (wp_bind (wp_call fun v answered => ?_))
  refine wp_bind (wp_write trivial (wp_pure (wp_pure ?_)))
  have passes_iff : s.ctl.Passes t.running ↔ t.running.toNat ≤ s.ctl.topreq.toNat := by
    cases t <;> simp [Ctl.Passes, Timer.running]
  refine ⟨?_, ?_⟩
  · split <;> cases t <;> rfl
  by_cases refused : v < 0
  · rw [if_pos refused]
    refine .inr ⟨Bool.eq_false_iff.mpr idle, answered, refused, ?_⟩
    simp only [Ctl.rearm, idle, passes_iff, refused]
    split <;> cases t <;> rfl
  · rw [if_neg refused]
    refine .inl ⟨rfl, ?_⟩
    simp only [Ctl.start, idle, passes_iff, refused]
    split <;> cases t <;> rfl

theorem startTimer_leads (s : Sys) (t : Timer) :
    Leads (nodeStartTimer t) s 0 (s.ctl.start t) := by
  refine wp_mono (wp_startTimer s t) ?_
  rintro ret u ⟨setup, ⟨rfl, same⟩ | ⟨-, accepted, refused, -⟩⟩
  · exact ⟨rfl, same, setup⟩
  · have accepted' : 0 ≤ ret := accepted
    omega

theorem stopTimer_leads (s : Sys) (t : Timer) :
    Leads (kWorkCancelDelayable t.item) s () (s.ctl.stop t) := by
  refine wp_write trivial ⟨rfl, ?_, ?_⟩ <;> cases t <;> rfl

end Erps
