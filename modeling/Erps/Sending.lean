import Mathlib.Logic.Function.Basic
import Erps.Properties.Stopped
import Erps.Wiring

/-!
# What the ports send

Of a node that schedules, stops and runs its TX work, all that matters for when PDUs are sent
are the content announced and, for each port, its interface, its burst and when its work
runs. With all calls succeeding the programs are functions on that data.
-/
namespace Erps

open Calls

/-- A port as its TX work sees it; `sent` counts the PDUs that have been sent on it. -/
structure TxPort where
  dev : Device
  up : Bool
  timeout : Option Nat
  burst : UInt8
  sent : Nat

namespace TxPort

/-- What the work is scheduled with. -/
def delay (p : TxPort) : Nat := if p.burst ≠ 0 then erpsTxBurstPeriod else erpsTxPeriod

def arm (p : TxPort) : TxPort := { p with timeout := some p.delay }

/-- The work runs; it counts the burst down whether or not a PDU is sent. -/
def work (p : TxPort) : TxPort := { p with
  sent := if p.up then p.sent + 1 else p.sent
  burst := if p.burst ≠ 0 then p.burst - 1 else p.burst
  timeout := some p.delay }

/-- The work is scheduled with a new burst, unless the interface is down. -/
def schedule (burst : UInt8) (p : TxPort) : TxPort :=
  if p.up then { p with burst := burst, timeout := none }.arm else { p with burst := burst, timeout := none }

end TxPort

structure TxPorts where
  pdu : RapsPduMut
  port : PortIdx → TxPort

namespace TxPorts

def mod (c : TxPorts) (lnk : PortIdx) (f : TxPort → TxPort) : TxPorts :=
  { c with port := Function.update c.port lnk (f (c.port lnk)) }

def schedTx (c : TxPorts) (pdu : RapsPduMut) : TxPorts where
  pdu := pdu
  port lnk := (c.port lnk).schedule (if c.pdu = pdu then 0 else erpsRapsBurst)

def stopTx (c : TxPorts) : TxPorts := { c with port := fun lnk => { c.port lnk with timeout := none } }

def runWork (c : TxPorts) (lnk : PortIdx) : TxPorts :=
  if (c.port lnk).timeout.isSome then c.mod lnk TxPort.work else c

def ifaceUp (c : TxPorts) (lnk : PortIdx) : TxPorts := c.mod lnk fun p => { p with up := true }.arm

def ifaceDown (c : TxPorts) (lnk : PortIdx) : TxPorts := c.mod lnk fun p => { p with up := false }

theorem mod_same {c : TxPorts} {lnk : PortIdx} {f : TxPort → TxPort} (same : f (c.port lnk) = c.port lnk) :
    c.mod lnk f = c := by
  rw [mod, same, Function.update_eq_self]

theorem mod_mod (c : TxPorts) (lnk : PortIdx) (f g : TxPort → TxPort) :
    (c.mod lnk f).mod lnk g = c.mod lnk fun p => g (f p) := by
  simp only [mod, Function.update_idem, Function.update_self]

theorem mod_both (c : TxPorts) (f : TxPort → TxPort) :
    (c.mod .port0 f).mod .port1 f = { c with port := fun lnk => f (c.port lnk) } := by
  refine congrArg (TxPorts.mk c.pdu) (funext fun lnk => ?_)
  cases lnk <;> rfl

end TxPorts

/-- A PDU sent on the link. -/
def NodeOp.isSent (lnk : PortIdx) : NodeOp → Bool
  | sent there _ => there == lnk
  | schedTx | stopTx | fire _ | cancel _ => false

def Sys.txPort (s : Sys) (lnk : PortIdx) : TxPort where
  dev := (s.link lnk).dev
  up := (s.hw (s.link lnk).dev).ifUp
  timeout := (s.link lnk).txDwork.timeout
  burst := (s.link lnk).txBurst
  sent := s.log.countP (NodeOp.isSent lnk)

def Sys.txPorts (s : Sys) : TxPorts := ⟨s.node.pduMut, s.txPort⟩

/-! ### Writes -/

section
variable {s : Sys} {lnk : PortIdx}

theorem txPorts_note (s : Sys) {op : NodeOp} (unsent : ∀ lnk, op.isSent lnk = false) :
    (s.note op).txPorts = s.txPorts := by
  refine congrArg (TxPorts.mk s.node.pduMut) (funext fun lnk => ?_)
  simp only [Sys.txPort, Sys.note, List.countP_cons, unsent]
  rfl

theorem txPorts_sent (s : Sys) (lnk : PortIdx) (octets : List UInt8) :
    (s.note (.sent lnk octets)).txPorts = s.txPorts.mod lnk fun p => { p with sent := p.sent + 1 } := by
  refine congrArg (TxPorts.mk s.node.pduMut) (funext fun there => ?_)
  by_cases here : there = lnk
  · subst here
    rw [Function.update_self]
    simp [Sys.txPorts, Sys.txPort, Sys.note, NodeOp.isSent, Sys.link]
  · rw [Function.update_of_ne here]
    simp [Sys.txPorts, Sys.txPort, Sys.note, NodeOp.isSent, Sys.link, Ne.symm here]

/-- A change of a link that shows in what its port sends. -/
theorem txPorts_modLink (s : Sys) (lnk : PortIdx) {f : Link → Link} {g : TxPort → TxPort}
    (shows : g (s.txPort lnk) = { s.txPort lnk with
      dev := (f (s.link lnk)).dev
      timeout := (f (s.link lnk)).txDwork.timeout
      burst := (f (s.link lnk)).txBurst })
    (dev : (f (s.link lnk)).dev = (s.link lnk).dev) :
    (s.modLink lnk f).txPorts = s.txPorts.mod lnk g := by
  refine congrArg (TxPorts.mk s.node.pduMut) (funext fun there => ?_)
  by_cases here : there = lnk
  · subst here
    have changed : (s.modLink there f).link there = f (s.link there) := by cases there <;> rfl
    rw [Function.update_self]
    show _ = g (s.txPort there)
    rw [shows]
    simp only [Sys.txPort, changed, dev]
    rfl
  · rw [Function.update_of_ne here]
    cases there <;> cases lnk <;> first | rfl | exact absurd rfl here

theorem txPorts_cancel (s : Sys) (lnk : PortIdx) :
    (s.cancelTx lnk).txPorts = s.txPorts.mod lnk fun p => { p with timeout := none } := by
  refine (txPorts_note _ fun _ => rfl).trans ?_
  exact txPorts_modLink s lnk (f := fun l => { l with txDwork := l.txDwork.cancel }) rfl rfl

theorem txPorts_cancelBoth (s : Sys) : ((s.cancelTx .port0).cancelTx .port1).txPorts = s.txPorts.stopTx := by
  rw [txPorts_cancel, txPorts_cancel, TxPorts.mod_both]
  rfl

theorem txPorts_schedule (s : Sys) (lnk : PortIdx) (delay : Nat) :
    (s.modWork (.tx lnk) fun d => { d with timeout := some delay }).txPorts =
      s.txPorts.mod lnk fun p => { p with timeout := some delay } :=
  txPorts_modLink s lnk (f := fun l => { l with txDwork := { l.txDwork with timeout := some delay } }) rfl rfl

/-- One PDU of the burst is done. -/
theorem txPorts_countDown (s : Sys) (lnk : PortIdx) :
    (s.modLink lnk fun l => if l.txBurst ≠ 0 then { l with txBurst := l.txBurst - 1 } else l).txPorts =
      s.txPorts.mod lnk fun p => { p with burst := if p.burst ≠ 0 then p.burst - 1 else p.burst } := by
  refine txPorts_modLink s lnk ?_ ?_
  · by_cases left : (s.link lnk).txBurst = 0 <;> simp [Sys.txPort, left]
  · split <;> rfl

/-- What is announced changes, and the bursts with it. -/
theorem txPorts_announce (s : Sys) (pdu : RapsPduMut) (burst : UInt8) :
    ((s.modNode fun n => { n with
      pduMut := pdu
      ports := n.ports.map fun l => { l with txBurst := burst } }).note .schedTx).txPorts =
      ⟨pdu, fun lnk => { s.txPort lnk with burst := burst }⟩ := by
  refine (txPorts_note _ fun _ => rfl).trans (congrArg (TxPorts.mk pdu) (funext fun lnk => ?_))
  cases lnk <;> rfl

/-- The interface of a link, where the other link has another one. -/
theorem txPorts_modHw (s : Sys) (lnk : PortIdx) (up : Bool)
    (distinct : s.node.ports.port0.dev ≠ s.node.ports.port1.dev) :
    (s.modHw (s.link lnk).dev fun p => { p with ifUp := up }).txPorts =
      s.txPorts.mod lnk fun p => { p with up := up } := by
  refine congrArg (TxPorts.mk s.node.pduMut) (funext fun there => ?_)
  by_cases here : there = lnk
  · subst here
    rw [Function.update_self]
    simp [Sys.txPorts, Sys.txPort, Sys.modHw, Sys.link]
  · have other : (s.link there).dev ≠ (s.link lnk).dev := by
      cases there <;> cases lnk <;> first | exact absurd rfl here | exact distinct | exact distinct.symm
    rw [Function.update_of_ne here]
    have kept : (s.modHw (s.link lnk).dev fun p => { p with ifUp := up }).hw (s.link there).dev =
        s.hw (s.link there).dev := if_neg other
    have same : (s.modHw (s.link lnk).dev fun p => { p with ifUp := up }).link there = s.link there := rfl
    simp only [Sys.txPort, same, kept]
    rfl

end

/-! ### Programs -/

/-- With all calls succeeding, the ports are afterwards as in `c`. -/
abbrev Sends {α : Type} (m : M α) (s : Sys) (c : TxPorts) : Prop :=
  wp Success anyState m (fun _ t => t.txPorts = c) s

section
variable {s : Sys} {lnk : PortIdx}

theorem linkSchedTx_sends {ret : Int} (s : Sys) (lnk : PortIdx) (accepted : 0 ≤ ret) :
    wp Success anyState (linkSchedTx ret lnk) (fun v t => 0 ≤ v ∧
      t.txPorts = s.txPorts.mod lnk fun p => if p.up then p.arm else p) s := by
  refine wp_bind (wp_read (wp_bind (wp_lookup (wp_bind (wp_read ?_)))))
  have up_eq : (true && (s.hw (s.link lnk).dev).ifUp) = (s.txPorts.port lnk).up := rfl
  rw [up_eq]
  refine wp_ite (fun down => wp_pure ⟨accepted, ?_⟩) fun up => wp_bind (wp_read (wp_reschedule ?_))
  · have down : ¬(s.txPorts.port lnk).up = true := by simpa using down
    exact (TxPorts.mod_same (if_neg down)).symm
  · have up : (s.txPorts.port lnk).up = true := by simpa using up
    intro v ok
    refine ⟨ok, (txPorts_schedule s lnk _).trans ?_⟩
    have armed : (if (s.txPorts.port lnk).up then (s.txPorts.port lnk).arm else s.txPorts.port lnk) =
        (s.txPorts.port lnk).arm := if_pos up
    simp only [TxPorts.mod, armed]
    rfl

theorem nodeSchedTx_sends (s : Sys) {reqState subcode : UInt8} (status : UInt8)
    (valid : validReqState reqState = true) (code : ¬(subcode ≠ 0 ∧ reqState ≠ rapsEvent)) :
    Sends (nodeSchedTx reqState subcode status) s
      (s.txPorts.schedTx ⟨(reqState <<< rapsRsShift) ||| subcode, status⟩) := by
  unfold nodeSchedTx
  refine wp_ite (fun invalid => by simp [valid] at invalid) fun _ => ?_
  refine wp_ite (fun wrong => absurd wrong code) fun _ => ?_
  refine wp_bind (wp_write trivial (wp_bind (wp_write trivial ?_)))
  refine wp_bind (wp_read (wp_bind (wp_write trivial ?_)))
  refine wp_bind (wp_mono (linkSchedTx_sends _ .port0 (Int.le_refl 0)) ?_)
  rintro ret t ⟨accepted, first⟩
  refine wp_bindIte (wp_ite (fun _ => ?_) fun failed => absurd accepted failed)
  refine wp_mono (linkSchedTx_sends t .port1 accepted) ?_
  rintro ret u ⟨-, second⟩
  refine wp_pure ?_
  rw [second, first, txPorts_announce, TxPorts.mod_both]
  refine congrArg (TxPorts.mk _) (funext fun there => ?_)
  -- the ports as the two cancels have left them
  have cancelled : ((s.cancelTx .port0).cancelTx .port1).txPort there =
      { s.txPort there with timeout := none } := congrFun (congrArg TxPorts.port (txPorts_cancelBoth s)) there
  have burst_eq : (if s.txPorts.pdu = ⟨(reqState <<< rapsRsShift) ||| subcode, status⟩ then 0
      else erpsRapsBurst) =
      if s.node.pduMut.rsSc ≠ (reqState <<< rapsRsShift) ||| subcode ∨ s.node.pduMut.status ≠ status
        then erpsRapsBurst else 0 := by
    have same : s.txPorts.pdu = ⟨(reqState <<< rapsRsShift) ||| subcode, status⟩ ↔
        ¬(s.node.pduMut.rsSc ≠ (reqState <<< rapsRsShift) ||| subcode ∨ s.node.pduMut.status ≠ status) := by
      rw [not_or, not_not, not_not]
      exact iff_of_eq (RapsPduMut.mk.injEq s.node.pduMut.rsSc s.node.pduMut.status _ _)
    simp only [same, ite_not]
  simp only [burst_eq]
  exact congrArg (fun p : TxPort => (fun q : TxPort => if q.up then q.arm else q) { p with
    burst := if s.node.pduMut.rsSc ≠ (reqState <<< rapsRsShift) ||| subcode ∨ s.node.pduMut.status ≠ status
      then erpsRapsBurst else 0 }) cancelled

/-- A request that is refused. -/
theorem nodeSchedTx_refuses (s : Sys) {reqState subcode : UInt8} (status : UInt8)
    (invalid : ¬(validReqState reqState = true ∧ ¬(subcode ≠ 0 ∧ reqState ≠ rapsEvent))) :
    Sends (nodeSchedTx reqState subcode status) s s.txPorts := by
  refine wp_ite (fun _ => wp_pure rfl) fun valid => wp_ite (fun _ => wp_pure rfl) fun code => ?_
  exact absurd ⟨by simpa using valid, code⟩ invalid

theorem nodeStopTx_sends (s : Sys) : Sends nodeStopTx s s.txPorts.stopTx := by
  refine wp_bind (wp_write trivial (wp_bind (wp_write trivial (wp_write trivial ?_))))
  exact (txPorts_note _ fun _ => rfl).trans (txPorts_cancelBoth s)

/-! ### The TX work -/

theorem linkGetNodeId_succeeds (s : Sys) :
    wp Success anyState linkGetNodeId (fun id t => id = (0, s.nodeId) ∧ t = s) s := by
  refine wp_bind (wp_read (wp_bind (wp_lookup (wp_ite (by simp) fun _ => ?_))))
  exact wp_bind (wp_linkAddr (wp_ite (by simp) fun _ => wp_pure ⟨rfl, rfl⟩))

theorem rapsCreatePkt_succeeds {pad : Bool} {buf : RapsPdu} {pkt : NetPkt} (s : Sys) :
    wp Success anyState (rapsCreatePkt pad buf pkt) (fun p t => p.1 = 0 ∧ t = s) s := by
  refine wp_bind (wp_call fun data found => wp_ite (fun none => absurd none found) fun _ => ?_)
  refine wp_bind (wp_bind (wp_read (wp_bind (wp_mono (linkGetNodeId_succeeds s) ?_))))
  rintro id t ⟨rfl, rfl⟩
  refine wp_ite (fun failed => absurd rfl failed) fun _ => wp_pure ?_
  refine wp_ite (fun failed => absurd rfl failed) fun _ => ?_
  refine wp_bind (wp_call fun ret set => wp_ite (fun failed => absurd set failed) fun _ => ?_)
  refine wp_ite (fun _ => ?_) fun _ => wp_pure ⟨rfl, rfl⟩
  exact wp_bind (wp_call fun ret written => wp_pure ⟨written, rfl⟩)

theorem linkSendPdu_sends {pad : Bool} {buf : RapsPdu} {dev : Device} (s : Sys) (lnk : PortIdx) :
    Sends (linkSendPdu pad buf lnk dev) s (s.txPorts.mod lnk fun p => { p with sent := p.sent + 1 }) := by
  refine wp_bind (wp_call fun pkt found => wp_ite (fun none => absurd none found) fun _ => ?_)
  refine wp_bind (wp_call fun ret copied => wp_bind (wp_read ?_))
  refine wp_bindIte (wp_ite (fun _ => wp_call fun ret set => ?_) fun failed => absurd copied failed)
  refine wp_ite (fun failed => absurd set failed) fun _ => wp_bind (wp_mono (rapsCreatePkt_succeeds s) ?_)
  rintro ⟨ret, pkt⟩ t ⟨rfl, rfl⟩
  refine wp_ifOk (fun _ => ?_) fun failed => absurd rfl failed
  refine wp_bind (wp_call fun vdct passed => wp_ite (fun drop => absurd drop passed) fun _ => ?_)
  exact wp_bind (wp_write trivial (wp_pure (txPorts_sent t lnk pkt.octets)))

theorem linkTxSinglePdu_sends {pad : Bool} {buf : RapsPdu} (s : Sys) (lnk : PortIdx) :
    Sends (linkTxSinglePdu pad buf lnk) s
      (s.txPorts.mod lnk fun p => { p with sent := if p.up then p.sent + 1 else p.sent }) := by
  refine wp_bind (wp_read (wp_bind (wp_lookup (wp_ite (by simp) fun _ => wp_bind (wp_read ?_)))))
  have up_eq : (true && (s.hw (s.link lnk).dev).ifUp) = (s.txPorts.port lnk).up := rfl
  rw [up_eq]
  refine wp_ite (fun down => wp_pure ?_) fun up => ?_
  · have down : ¬(s.txPorts.port lnk).up = true := by simpa using down
    refine (TxPorts.mod_same ?_).symm
    have unsent : (if (s.txPorts.port lnk).up then (s.txPorts.port lnk).sent + 1
        else (s.txPorts.port lnk).sent) = (s.txPorts.port lnk).sent := if_neg down
    rw [unsent]
  · have up : (s.txPorts.port lnk).up = true := by simpa using up
    refine wp_bind (wp_read (wp_bind (wp_vlanIface (wp_bind (wp_mono (linkSendPdu_sends s lnk) ?_)))))
    intro ret t sent
    refine wp_pure (sent.trans ?_)
    simp only [TxPorts.mod, up, if_true]

theorem txWork_sends {pad : Bool} {buf : RapsPdu} (s : Sys) (lnk : PortIdx) :
    Sends (txWork pad buf lnk) s (s.txPorts.mod lnk TxPort.work) := by
  refine wp_bind (wp_mono (linkTxSinglePdu_sends s lnk) ?_)
  intro _ t sent
  refine wp_bind (wp_read (wp_bind (wp_write trivial (wp_bind (wp_reschedule fun _ _ => wp_pure ?_)))))
  rw [txPorts_schedule, txPorts_countDown, sent, TxPorts.mod_mod, TxPorts.mod_mod]
  have burst_eq : (t.link lnk).txBurst = (s.txPorts.port lnk).burst := by
    have same := congrArg (fun c => (c.port lnk).burst) sent
    simp only [TxPorts.mod, Function.update_self] at same
    exact same
  rw [burst_eq]
  rfl

/-- A scheduled work runs, and any other one does not. -/
theorem runTxWork_sends {pad : Bool} {buf : RapsPdu} (s : Sys) (lnk : PortIdx) :
    Sends (runTxWork pad buf lnk) s (s.txPorts.runWork lnk) := by
  refine wp_bind (wp_read ?_)
  have scheduled_eq : (s.link lnk).txDwork.scheduled = (s.txPorts.port lnk).timeout.isSome := rfl
  rw [scheduled_eq]
  refine wp_ite (fun runs => wp_bind (wp_write trivial ?_)) fun idle => wp_pure (if_neg idle).symm
  refine wp_bind (wp_mono (txWork_sends _ lnk) ?_)
  intro _ t worked
  refine wp_write trivial ?_
  have started : ((s.modWork (.tx lnk) fun _ => ⟨none, true⟩).note (.fire (.tx lnk))).txPorts =
      s.txPorts.mod lnk fun p => { p with timeout := none } :=
    (txPorts_note _ fun _ => rfl).trans
      (txPorts_modLink s lnk (f := fun l => { l with txDwork := ⟨none, true⟩ }) rfl rfl)
  have finished : (t.modWork (.tx lnk) fun w => { w with running := false }).txPorts =
      t.txPorts.mod lnk fun p => p :=
    txPorts_modLink t lnk (f := fun l => { l with txDwork := { l.txDwork with running := false } }) rfl rfl
  rw [finished, worked, started, TxPorts.mod_mod, TxPorts.mod_mod, TxPorts.runWork, if_pos runs]
  rfl

/-! ### The interfaces -/

/-- The notification schedules the work of the link whose interface it is. -/
theorem ifaceUpCb_sends (s : Sys) (lnk : PortIdx)
    (distinct : s.node.ports.port0.dev ≠ s.node.ports.port1.dev) :
    Sends (ifaceUpCb (s.link lnk).dev) s (s.txPorts.mod lnk TxPort.arm) := by
  refine wp_bind (wp_read (wp_bind (wp_read (wp_bind (wp_lookup (wp_bind (wp_lookup ?_)))))))
  have own : (s.link lnk).dev = (s.link .port0).dev ∨ (s.link lnk).dev = (s.link .port1).dev := by
    cases lnk with
    | port0 => exact .inl rfl
    | port1 => exact .inr rfl
  have index : (if true = true ∧ (s.link lnk).dev = (s.link .port1).dev then PortIdx.port1
      else .port0) = lnk := by
    cases lnk with
    | port0 => exact if_neg fun same => distinct same.2
    | port1 => exact if_pos ⟨rfl, rfl⟩
  refine wp_ite (fun foreign => ?_) fun _ => ?_
  · rcases own with first | second
    · exact absurd ⟨rfl, first⟩ foreign.1
    · exact absurd ⟨rfl, second⟩ foreign.2
  · refine wp_bind (wp_read (wp_bind (wp_reschedule fun _ _ => wp_pure ?_)))
    rw [index, txPorts_schedule]
    rfl

theorem notifyIfaceUp_sends (s : Sys) (lnk : PortIdx)
    (distinct : s.node.ports.port0.dev ≠ s.node.ports.port1.dev) :
    Sends (notifyIfaceUp lnk) s (s.txPorts.ifaceUp lnk) := by
  refine wp_bind (wp_read (wp_bind (wp_write trivial ?_)))
  have goesUp := txPorts_modHw s lnk true distinct
  refine wp_mono (ifaceUpCb_sends (s.modHw (s.link lnk).dev fun p => { p with ifUp := true }) lnk distinct) ?_
  intro _ t scheduled
  rw [scheduled, goesUp, TxPorts.mod_mod]
  rfl

theorem ifaceDown_sends (s : Sys) (lnk : PortIdx)
    (distinct : s.node.ports.port0.dev ≠ s.node.ports.port1.dev) :
    Sends (Event.iface lnk false).prog s (s.txPorts.ifaceDown lnk) := by
  unfold Event.prog
  exact wp_write trivial (txPorts_modHw s lnk false distinct)

end

end Erps
