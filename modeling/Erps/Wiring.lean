import Erps.Ctl.Hears
import Erps.Operations
import Erps.Reception
import Erps.Startup
import Erps.Transmit

/-!
# What runs after configuration

Whatever a node does once it is configured, and whatever the calls answer, the wiring
stays as it is. The assertions of the source are about the roles and the RPL, so none of
them fails where the wiring is well formed.
-/
namespace Erps

open Calls

/-- The RPL is at index 1 and there exactly if the node has a role, and no assertion has
failed. -/
structure Wiring.Formed (w : Wiring) : Prop where
  notPort0 : w.rpl.port0 = false
  role : w.rpl.port1 = (w.rplOwner || w.rplNbr)
  oneRole : (w.rplOwner && w.rplNbr) = false
  unfaulted : w.faulted = false

/-- The wiring is `w` at every point while `m` runs and after it. -/
abbrev KeepsWiring (w : Wiring) {α : Type} (m : M α) : Prop :=
  Keeps anyAnswer (fun s => s.wiring = w) m

section
variable {w : Wiring} {lnk : PortIdx} {req : Request} {pdu : Option RapsPdu}

theorem frames_keepsWiring {α : Type} {m : M α} (h : Frames anyAnswer Sys.wiring m) :
    KeepsWiring w m :=
  h.keeps (P := fun v => v = w)

theorem acts_keepsWiring {α : Type} {m : M α} (h : FsmActs True m) :
    KeepsWiring w m :=
  frames_keepsWiring (acts_wiring h)

/-! ### The state machine -/

theorem getRpl_ring {s : Sys} (formed : w.Formed) (now : s.wiring = w)
    (ring : (w.rplOwner || w.rplNbr) = true) : s.node.getRpl = some .port1 := by
  subst now
  have rpl : s.node.ports.port1.rpl = true := formed.role.trans ring
  simp [Node.getRpl, rpl]

theorem fsmTimerExpiresPending_wiring (formed : w.Formed) (owner : w.rplOwner = true) :
    KeepsWiring w (fsmTimerExpiresPending lnk) := by
  intro s now
  refine wp_bind (wp_read ?_)
  have rpl : s.node.getRpl = some .port1 := getRpl_ring formed now (by simp [owner])
  have reverts : FsmActs True (do
      let ret ← fsmRevert lnk .port1 .port0
      ifOk ret do
        fsmTransition .idle
        return 0) := fsmRevert_acts.bind fun _ => finish_acts.ifOk
  rw [rpl]
  exact acts_keepsWiring reverts s now

theorem timerExpires_wiring (formed : w.Formed) {t : Expiry} : KeepsWiring w (do
    if ← read fun s => s.node.rplOwner then
      kWorkCancelDelayable t.item
      fsmTimerExpiresPending lnk
    else
      return 0) := by
  intro s now
  have cancels : FsmActs True (kWorkCancelDelayable t.item) := .op (.stopTimer t)
  refine wp_bind (wp_read (wp_ite (fun owner => ?_) fun _ => wp_pure now))
  have owner' : w.rplOwner = true := by rwa [← now]
  refine Keeps.bind (acts_keepsWiring cancels) (fun _ => ?_) s now
  exact fsmTimerExpiresPending_wiring formed owner'

theorem fsmRapsNrRbPending_wiring (formed : w.Formed) : KeepsWiring w fsmRapsNrRbPending := by
  intro s now
  refine wp_bind (wp_read ?_)
  have last (ret : Int) : FsmActs True (ifOk ret do
      fsmTransition .idle
      return 0) := finish_acts.ifOk
  have stops : FsmActs True (do nodeStopTx; return (0 : Int)) := stopThen_acts (.pure 0)
  have owner : s.node.rplOwner = w.rplOwner := by rw [← now]; rfl
  have nbr : s.node.rplNbr = w.rplNbr := by rw [← now]; rfl
  have rpl := getRpl_ring (s := s) formed now
  rw [owner, nbr]
  cases isOwner : w.rplOwner <;> cases isNbr : w.rplNbr
  case true.false =>
    have acts : FsmActs True (do
        nodeStopWtr
        nodeStopWtb
        let ret ← pure 0
        ifOk ret do
          fsmTransition .idle
          return 0) := stopWtr_acts.bind fun _ => stopWtb_acts.bind fun _ => Built.bind (.pure _) last
    exact acts_keepsWiring acts s now
  case false.false =>
    exact acts_keepsWiring (nodeUnblockAll_acts.bind fun _ => stops.ifOk.bind last) s now
  case false.true =>
    rw [rpl (by simp [isNbr])]
    exact acts_keepsWiring (Built.bind (.op (.block .port1)) fun _ =>
      Built.bind (.ifOk (.op (.unblock _))) fun _ => stops.ifOk.bind last) s now
  case true.true =>
    have both := formed.oneRole
    simp [isOwner, isNbr] at both

/-- No handler fails an assertion, if R-APS(NR) comes with its PDU. -/
theorem react_wiring (formed : w.Formed) {st : NodeState}
    (given : req = .rapsNr → pdu.isSome = true) : KeepsWiring w (fsmReact st lnk req pdu) := by
  by_cases plain : st = .pending → req.byRole = false
  · exact acts_keepsWiring (react_acts (fun _ => trivial) given plain)
  · obtain ⟨rfl, byRole⟩ := Classical.not_imp.mp plain
    cases req with
    | wtrExpires => exact timerExpires_wiring (t := .wtb) formed
    | wtbExpires => exact timerExpires_wiring (t := .wtr) formed
    | rapsNrRb => exact fsmRapsNrRbPending_wiring formed
    | _ => exact absurd rfl byRole

theorem fsmPost_wiring (formed : w.Formed) (given : req = .rapsNr → pdu.isSome = true) :
    KeepsWiring w (fsmPost lnk req pdu) := by
  refine (frames_keepsWiring frames_call).bind fun ret => keeps_ite (fun _ => keeps_pure) fun _ => ?_
  have cancels : FsmActs True (kWorkCancelDelayable (.linkDown lnk)) := .op (.stopTimer (.linkDown lnk))
  unfold fsmPostLocked
  refine keeps_bindWhen (fun _ => acts_keepsWiring cancels) ?_
  refine (frames_keepsWiring offPriority_wiring.resolve).bind fun ret => ?_
  refine keeps_ite (fun _ => keeps_pure) fun _ => ?_
  refine (frames_keepsWiring offPriority_wiring.marks).bind fun _ => keeps_read fun s => ?_
  refine keeps_ite (fun _ => keeps_pure) fun _ => ?_
  have reacts (st : NodeState) : KeepsWiring w (fsmReact st lnk req pdu) := react_wiring formed given
  cases s.node.state with
  | idle => exact reacts .idle
  | protection => exact reacts .protection
  | manualSwitch => exact reacts .manualSwitch
  | forcedSwitch => exact reacts .forcedSwitch
  | pending => exact reacts .pending
  | uninit => exact keeps_pure

theorem handler_wiring (formed : w.Formed) {t : Expiry} : KeepsWiring w t.handler := by
  have posts (lnk : PortIdx) (req : Request) (other : req ≠ .rapsNr) :
      KeepsWiring w (fsmPost lnk req none) := fsmPost_wiring formed fun same => absurd same other
  cases t with
  | wtr => exact (posts .port0 .wtrExpires (by decide)).bind fun _ => keeps_pure
  | wtb => exact (posts .port0 .wtbExpires (by decide)).bind fun _ => keeps_pure
  | linkDown lnk =>
    refine keeps_read fun dev => (frames_keepsWiring netIfLookupByDev_frames).bind fun found => ?_
    refine keeps_ite (fun _ => ?_) fun _ => keeps_pure
    exact (posts lnk .sf (by decide)).bind fun _ => keeps_pure

theorem event_wiring (formed : w.Formed) (e : Event) : KeepsWiring w e.prog := by
  have fires (t : Expiry) : KeepsWiring w t.fire :=
    frames_keepsWiring (frames_write fun s => wiring_modWork s t.item _)
  have handles (t : Expiry) : KeepsWiring w t.handle := by
    refine (handler_wiring formed).bind fun _ => ?_
    exact frames_keepsWiring (frames_write fun s => wiring_modWork s t.item _)
  cases e with
  | ctl lnk ev =>
    have notRaps : ev.request ≠ .rapsNr := by cases ev <;> decide
    exact (fsmPost_wiring formed fun same => absurd same notRaps).bind fun _ => keeps_pure
  | raps lnk req pdu => exact (fsmPost_wiring formed fun _ => rfl).bind fun _ => keeps_pure
  | expiry t => exact (fires t).bind fun _ => handles t
  | fire t => exact fires t
  | handle t => exact handles t
  | elapse ms => exact frames_keepsWiring (frames_write fun _ => rfl)
  | iface lnk up => exact frames_keepsWiring (frames_write fun _ => rfl)

end

/-! ### Receiving -/

section
variable {good : KernelCall → Int → Prop} {α : Type} {view : Sys → α}

theorem ethRead_frames {pkt : NetPkt} : Frames good view (ethRead pkt) := by
  have reads : Frames good view (readVlanHdr pkt) := by
    refine frames_ite (fun _ => frames_pure) fun _ => ?_
    rcases pkt.read vlanHdrLayout with ⟨_ | hdr, rest⟩
    · exact frames_pure
    · refine frames_ite (fun _ => frames_pure) fun _ => frames_read.bind fun vid => ?_
      exact frames_ite (fun _ => frames_pure) fun _ => frames_pure
  refine reads.bind fun got => ?_
  rcases got with ⟨_ | hdr, rest⟩
  · exact frames_pure
  · exact frames_read.bind fun n => frames_ite (fun _ => frames_pure) fun _ => frames_pure

/-- The filter leaves alone what neither a flush nor the change of a (node ID, BPR) pair
touches. -/
theorem erpsFilter_frames {lnk : PortIdx} {pkt : NetPkt} (ports : OffPorts view)
    (flush : ∀ s : Sys, view { s with fdbFlushes := s.fdbFlushes + 1 } = view s) :
    Frames good view (erpsFilter lnk pkt) := by
  have flushes : Frames good view (flushFdb lnk) := flushFdb_frames flush
  have replaces {req : Request} {pdu : RapsPdu} :
      Frames good view (rapsNodeIdBprFlush lnk req pdu) := by
    refine frames_ite (fun _ => ?_) fun _ => frames_read.bind fun l => ?_
    · exact Frames.bind (ports.mod fun _ => ⟨rfl, rfl, rfl, rfl, rfl⟩) fun _ => frames_pure
    refine frames_ite (fun _ => frames_pure) fun _ => ?_
    refine Frames.bind (ports.mod fun _ => ⟨rfl, rfl, rfl, rfl, rfl⟩) fun _ => ?_
    refine linkGetNodeId_frames.bind fun id => frames_ite (fun _ => frames_pure) fun _ => ?_
    refine frames_ite (fun _ => frames_pure) fun _ => frames_read.bind fun other => ?_
    exact frames_ite (fun _ => flushes) fun _ => frames_pure
  have handles {pdu : RapsPdu} : Frames good view (handleRapsEvent lnk pdu) :=
    frames_ite (fun _ => frames_pure) fun _ => frames_ite (fun _ => frames_pure) fun _ => flushes
  have filters {pdu : RapsPdu} : Frames good view (rapsFilter lnk pdu) := by
    refine frames_read.bind fun n => frames_ite (fun _ => frames_pure) fun _ => ?_
    refine frames_ite (fun _ => handles.bind fun _ => frames_pure) fun _ => ?_
    cases rapsRequest n.rapsVer pdu with
    | none => exact frames_pure
    | some req =>
      refine frames_read.bind fun expired => frames_ite (fun _ => frames_pure) fun _ => ?_
      exact replaces.bind fun _ => frames_pure
  refine frames_ite (fun _ => ethRead_frames.bind fun got => ?_) fun _ => frames_pure
  rcases got with ⟨_ | pdu, rest⟩
  · exact frames_pure
  · refine Frames.bind (isLocalRapsFrame_frames.bind fun own => ?_) fun _ => frames_pure
    exact frames_ite (fun _ => frames_pure) fun _ => filters

end

section
variable {w : Wiring} {lnk : PortIdx}

theorem erpsRecv_wiring (formed : w.Formed) {dev : Device} {pkt : NetPkt} :
    KeepsWiring w (erpsRecv dev pkt) := by
  rw [erpsRecv_eq]
  refine keeps_read fun n => ?_
  cases n.linkLookupByIface dev with
  | none => exact keeps_pure
  | some lnk =>
    have filters : Frames anyAnswer Sys.wiring (erpsFilter lnk pkt) :=
      erpsFilter_frames offPorts_wiring offTx_wiring.flush
    refine (frames_keepsWiring filters).bind fun got => ?_
    have posts : KeepsWiring w (got.1.post lnk) := by
      cases got.1 with
      | verdict v => exact keeps_pure
      | request req pdu => exact (fsmPost_wiring formed fun _ => rfl).bind fun _ => keeps_pure
    exact posts.bind fun _ => keeps_pure

/-! ### Sending -/

theorem rapsCreatePkt_frames {good : KernelCall → Int → Prop} {α : Type} {view : Sys → α}
    {pad : Bool} {buf : RapsPdu} {pkt : NetPkt} : Frames good view (rapsCreatePkt pad buf pkt) := by
  refine frames_call.bind fun data => frames_ite (fun _ => frames_pure) fun _ => ?_
  have creates : Frames good view (rapsCreate buf) := by
    refine frames_read.bind fun n => linkGetNodeId_frames.bind fun id => ?_
    exact frames_ite (fun _ => frames_pure) fun _ => frames_pure
  refine creates.bind fun pdu => frames_ite (fun _ => frames_pure) fun _ => ?_
  refine frames_call.bind fun ret => frames_ite (fun _ => frames_pure) fun _ => ?_
  exact frames_ite (fun _ => frames_call.bind fun _ => frames_pure) fun _ => frames_pure

section
variable {good : KernelCall → Int → Prop} {α : Type} {view : Sys → α}

/-- Nothing but the PDU that is sent is to be seen. -/
theorem linkTxSinglePdu_frames {pad : Bool} {buf : RapsPdu}
    (sent : ∀ (s : Sys) lnk octets, view (s.note (.sent lnk octets)) = view s) :
    Frames good view (linkTxSinglePdu pad buf lnk) := by
  have sends {dev : Device} {pkt : NetPkt} : Frames good view (netIfTrySendData lnk dev pkt) := by
    refine frames_call.bind fun vdct => frames_ite (fun _ => frames_pure) fun _ => ?_
    exact Frames.bind (frames_write fun s => sent s lnk _) fun _ => frames_pure
  have sendsPdu {dev : Device} : Frames good view (linkSendPdu pad buf lnk dev) := by
    have rest (ret : Int) : Frames good view (do
        if ret ≠ 0 then
          return ret
        let created ← rapsCreatePkt pad buf .empty
        ifOk created.1 (netIfTrySendData lnk dev created.2)) :=
      frames_ite (fun _ => frames_pure) fun _ => rapsCreatePkt_frames.bind fun _ => sends.ifOk
    refine frames_call.bind fun pkt => frames_ite (fun _ => frames_pure) fun _ => ?_
    refine frames_call.bind fun ret => frames_read.bind fun n => frames_ite (fun _ => ?_) fun _ => ?_
    · exact frames_call.bind rest
    · exact frames_pure.bind rest
  refine frames_read.bind fun dev => netIfLookupByDev_frames.bind fun iface => ?_
  refine frames_ite (fun _ => frames_pure) fun _ => frames_read.bind fun up => ?_
  refine frames_ite (fun _ => frames_pure) fun _ => frames_read.bind fun vid => ?_
  exact netEthGetVlanIface_frames.bind fun _ => sendsPdu.bind fun _ => frames_pure

theorem txWork_frames {pad : Bool} {buf : RapsPdu}
    (sent : ∀ (s : Sys) lnk octets, view (s.note (.sent lnk octets)) = view s)
    (burst : ∀ (s : Sys) lnk, view (s.modLink lnk fun l =>
      if l.txBurst ≠ 0 then { l with txBurst := l.txBurst - 1 } else l) = view s)
    (work : ∀ (s : Sys) lnk f, view (s.modWork (.tx lnk) f) = view s) :
    Frames good view (txWork pad buf lnk) := by
  refine (linkTxSinglePdu_frames sent).bind fun _ => frames_read.bind fun left => ?_
  refine Frames.bind (frames_write fun s => burst s lnk) fun _ => ?_
  exact (kWorkReschedule_frames fun s => work s lnk).bind fun _ => frames_pure

theorem ifaceUpCb_frames {dev : Device}
    (work : ∀ (s : Sys) lnk f, view (s.modWork (.tx lnk) f) = view s) :
    Frames good view (ifaceUpCb dev) := by
  refine frames_read.bind fun dev0 => frames_read.bind fun dev1 => ?_
  refine netIfLookupByDev_frames.bind fun iface0 => netIfLookupByDev_frames.bind fun iface1 => ?_
  refine frames_ite (fun _ => frames_pure) fun _ => frames_read.bind fun burst => ?_
  exact (kWorkReschedule_frames fun s => work s _).bind fun _ => frames_pure

end

theorem txWork_wiring {pad : Bool} {buf : RapsPdu} :
    Frames anyAnswer Sys.wiring (txWork pad buf lnk) := by
  refine txWork_frames (fun _ _ _ => rfl) (fun s lnk => ?_) fun s lnk f => wiring_modWork s (.tx lnk) f
  refine offPorts_wiring.link s lnk _ fun l => ?_
  split <;> exact ⟨rfl, rfl, rfl, rfl, rfl⟩

theorem ifaceUpCb_wiring {dev : Device} : Frames anyAnswer Sys.wiring (ifaceUpCb dev) :=
  ifaceUpCb_frames fun s lnk f => wiring_modWork s (.tx lnk) f

/-! ### Starting -/

theorem fsmInit_wiring (formed : w.Formed) : KeepsWiring w fsmInit := by
  intro s now
  have last (ret : Int) : FsmActs True (do fsmTransition .pending; return ret) :=
    Built.bind (.op (.goto .pending)) fun _ => .pure ret
  refine wp_bind (wp_write now ?_)
  generalize started : (s.modNode fun n => { n with guardTimerExpiry := 0 }) = t
  have now' : t.wiring = w := by rw [← started]; exact now
  refine wp_bind (wp_read (wp_ite (fun ring => ?_) fun _ => ?_))
  · have ring' : (w.rplOwner || w.rplNbr) = true := by
      rw [← now']
      simpa [Sys.wiring] using ring
    rw [getRpl_ring formed now' ring']
    exact acts_keepsWiring (fsmInitRpl_acts.bind last) t now'
  · exact acts_keepsWiring (fsmInitPlain_acts.bind last) t now'

theorem nodeStartTx_frames {good : KernelCall → Int → Prop} {α : Type} {view : Sys → α}
    (work : ∀ (s : Sys) lnk f, view (s.modWork (.tx lnk) f) = view s) : Frames good view nodeStartTx := by
  have starts (ret : Int) (lnk : PortIdx) : Frames good view (linkStartTx ret lnk) := by
    refine frames_read.bind fun dev => netIfLookupByDev_frames.bind fun found => ?_
    refine frames_ite (fun _ => frames_pure) fun _ => frames_read.bind fun up => ?_
    refine frames_read.bind fun l => frames_ite (fun _ => ?_) fun _ => frames_pure
    exact Frames.bind (kWorkReschedule_frames fun s f => work s lnk f) fun _ => frames_pure
  refine (starts 0 .port0).bind fun first => ?_
  cases first with
  | none => exact frames_pure
  | some ret =>
    refine (starts ret .port1).bind fun second => ?_
    cases second with
    | none => exact frames_pure
    | some ret => exact frames_pure

/-- A view that sees nothing of the preparation of a node. -/
structure OffInit {α : Type} (view : Sys → α) : Prop where
  work : ∀ (s : Sys) w f, view (s.modWork w f) = view s
  topreq : ∀ (s : Sys) req, view (s.modNode fun n => { n with localTopreq := req }) = view s
  vlan : ∀ (s : Sys) dev f, (∀ p, (f p).enabled = p.enabled ∧ (f p).ifUp = p.ifUp) →
    view (s.modHw dev f) = view s

namespace OffInit

variable {good : KernelCall → Int → Prop} {α : Type} {view : Sys → α} {lnk : PortIdx}

theorem inits (off : OffInit view) (w : WorkItem) : Frames good view (kWorkInitDelayable w) :=
  frames_write fun s => off.work s w _

theorem linkConfigureVlan (off : OffInit view) : Frames good view (linkConfigureVlan lnk) := by
  refine frames_read.bind fun n => frames_read.bind fun dev => ?_
  refine netIfLookupByDev_frames.bind fun found => frames_ite (fun _ => frames_pure) fun _ => ?_
  refine frames_call.bind fun ret => frames_ite (fun _ => frames_pure) fun _ => ?_
  refine frames_call.bind fun ret => frames_ite (fun _ => frames_pure) fun _ => ?_
  refine netEthGetVlanIface_frames.bind fun _ => netEthGetVlanIface_frames.bind fun found => ?_
  refine frames_ite (fun _ => frames_pure) fun _ => ?_
  exact Frames.bind (frames_write fun s => off.vlan s dev _ fun _ => ⟨rfl, rfl⟩) fun _ => frames_pure

theorem startLinkDownTimer (off : OffInit view) {timeout : Nat} :
    Frames good view (startLinkDownTimer timeout lnk) := by
  refine (off.inits (.linkDown lnk)).bind fun _ => ?_
  refine Frames.bind (kWorkReschedule_frames fun s f => off.work s (.linkDown lnk) f) fun ret => ?_
  refine frames_ite (fun _ => frames_pure) fun _ => frames_read.bind fun dev => ?_
  exact netIfLookupByDev_frames.bind fun _ => frames_pure

theorem linkInit (off : OffInit view) {timeout : Nat} : Frames good view (linkInit timeout lnk) := by
  refine (off.inits (.tx lnk)).bind fun _ => off.linkConfigureVlan.bind fun ret => ?_
  refine frames_ite (fun _ => frames_pure) fun _ => frames_read.bind fun rpl => ?_
  exact frames_ite (fun _ => off.startLinkDownTimer) fun _ => frames_pure

theorem nodePrepare (off : OffInit view) {timeout : Nat} : Frames good view (nodePrepare timeout) := by
  refine (off.inits .wtr).bind fun _ => (off.inits .wtb).bind fun _ => ?_
  refine Frames.bind (frames_write fun s => off.topreq s _) fun _ => frames_call.bind fun ret => ?_
  exact off.linkInit.ifOk.bind fun _ => off.linkInit.ifOk

theorem nodeStartTx (off : OffInit view) : Frames good view nodeStartTx :=
  nodeStartTx_frames fun s lnk => off.work s (.tx lnk)

end OffInit

theorem offInit_wiring : OffInit Sys.wiring where
  work := wiring_modWork
  topreq _ _ := rfl
  vlan _ _ _ _ := rfl

theorem nodeInit_wiring (formed : w.Formed) {timeout : Nat} {cameUp : Ports Bool} :
    KeepsWiring w (nodeInit timeout cameUp) := by
  refine (frames_keepsWiring offInit_wiring.nodePrepare).bind fun ret => ?_
  refine keeps_ite (fun _ => keeps_pure) fun _ => (fsmInit_wiring formed).bind fun ret => ?_
  refine keeps_ite (fun _ => keeps_pure) fun _ => ?_
  have comeUp : Frames anyAnswer Sys.wiring (ifacesUp cameUp) := frames_write fun _ => rfl
  refine (frames_keepsWiring comeUp).bind fun _ => ?_
  exact Keeps.bind (frames_keepsWiring (frames_write fun _ => rfl)) fun _ =>
    frames_keepsWiring offInit_wiring.nodeStartTx

end

end Erps
