import Erps.Calls.Frames
import Erps.Ctl.Leads

/-!
# What an operation does not touch

Three kinds of views of a system, each with the operations that leave it alone whatever
the calls answer: transmitting and flushing touch neither ports nor timers, port operations
touch no timers, and what precedes the handler of a request touches little but the
remembered one.
-/
namespace Erps

open Calls

/-- Without what is being sent. -/
def Ctl.muted (c : Ctl) : Ctl := { c with tx := ⟨false, false⟩, rsSc := 0, status := 0 }

/-- The state, the remembered request and the timers. -/
def Ctl.timing (c : Ctl) : Ctl :=
  { c.muted with blocked := ⟨false, false⟩, failed := ⟨false, false⟩ }

namespace Sys

def muted (s : Sys) : Ctl × Setup := (s.ctl.muted, s.setup)

def timing (s : Sys) : Ctl × Setup := (s.ctl.timing, s.setup)

def blocked (s : Sys) : Ports Bool := s.ctl.blocked

end Sys

variable {good : KernelCall → Int → Prop}

/-! ### Calls -/

section
variable {α : Type} {view : Sys → α} {dev : Device}

theorem netIfLookupByDev_frames : Frames good view (netIfLookupByDev dev) :=
  frames_call.bind fun _ => frames_pure

theorem netEthGetVlanIface_frames {vid : UInt16} : Frames good view (netEthGetVlanIface dev vid) :=
  frames_call.bind fun _ => frames_pure

theorem netIfGetLinkAddr_frames : Frames good view (netIfGetLinkAddr dev) :=
  frames_call.bind fun _ => frames_pure

theorem linkGetNodeId_frames : Frames good view linkGetNodeId := by
  refine frames_read.bind fun dev => netIfLookupByDev_frames.bind fun found => ?_
  refine frames_ite (fun _ => frames_pure) fun _ => netIfGetLinkAddr_frames.bind fun addr => ?_
  exact frames_ite (fun _ => frames_pure) fun _ => frames_pure

theorem netEthPortSetEnabled_frames {enable : Bool}
    (same : ∀ s : Sys, view (s.modHw dev fun p => { p with enabled := enable }) = view s) :
    Frames good view (netEthPortSetEnabled dev enable) := by
  refine frames_call.bind fun ret => frames_ite (fun _ => frames_pure) fun _ => ?_
  exact (frames_write same).bind fun _ => frames_pure

theorem netEthMacFlush_frames
    (same : ∀ s : Sys, view { s with fdbFlushes := s.fdbFlushes + 1 } = view s) :
    Frames good view (netEthMacFlush dev) := by
  refine frames_call.bind fun ret => frames_ite (fun _ => frames_pure) fun _ => ?_
  exact (frames_write same).bind fun _ => frames_pure

theorem kWorkReschedule_frames {w : WorkItem} {delay : Nat}
    (same : ∀ (s : Sys) f, view (s.modWork w f) = view s) :
    Frames good view (kWorkReschedule w delay) := by
  refine frames_call.bind fun ret => ?_
  exact (frames_write fun s => same s _).bind fun _ => frames_pure

theorem flushFdb_frames {lnk : PortIdx}
    (same : ∀ s : Sys, view { s with fdbFlushes := s.fdbFlushes + 1 } = view s) :
    Frames good view (flushFdb lnk) := by
  refine frames_read.bind fun dev => netIfLookupByDev_frames.bind fun found => ?_
  exact frames_ite (fun _ => frames_pure) fun _ => netEthMacFlush_frames same

theorem linkSchedTx_frames {lnk : PortIdx} {ret : Int}
    (same : ∀ (s : Sys) f, view (s.modWork (.tx lnk) f) = view s) :
    Frames good view (linkSchedTx ret lnk) := by
  refine frames_read.bind fun dev => netIfLookupByDev_frames.bind fun iface => ?_
  refine frames_read.bind fun up => frames_ite (fun _ => frames_pure) fun _ => ?_
  exact frames_read.bind fun burst => kWorkReschedule_frames same

/-- The end of `nodeSchedTx`, once the PDU has been written. -/
theorem schedPorts_frames (same : ∀ (s : Sys) lnk f, view (s.modWork (.tx lnk) f) = view s) :
    Frames good view (do
      let ret ← linkSchedTx 0 .port0
      let ret ← if 0 ≤ ret then linkSchedTx ret .port1 else pure ret
      return if ret < 0 then ret else 0) := by
  refine (linkSchedTx_frames fun s => same s _).bind fun ret => frames_ite (fun _ => ?_) fun _ => ?_
  · exact (linkSchedTx_frames fun s => same s _).bind fun _ => frames_pure
  · exact frames_pure.bind fun _ => frames_pure

end

/-! ### Flushing and transmitting -/

/-- What flushing and transmitting write to the record. -/
def NodeOp.OfTx : NodeOp → Prop
  | schedTx | stopTx | sent _ _ | cancel (.tx _) => True
  | fire _ | cancel _ => False

/-- A view that sees nothing of flushing and transmitting. -/
structure OffTx {α : Type} (view : Sys → α) : Prop where
  flush : ∀ s : Sys, view { s with fdbFlushes := s.fdbFlushes + 1 } = view s
  work : ∀ (s : Sys) lnk f, view (s.modWork (.tx lnk) f) = view s
  pdu : ∀ (s : Sys) pdu burst, view (s.modNode fun n => { n with
    pduMut := pdu
    ports := n.ports.map fun l => { l with txBurst := burst } }) = view s
  note : ∀ (s : Sys) op, op.OfTx → view (s.note op) = view s

namespace OffTx

variable {α : Type} {view : Sys → α} {lnk : PortIdx}

theorem flushFdb (off : OffTx view) : Frames good view (flushFdb lnk) := flushFdb_frames off.flush

theorem cancel (off : OffTx view) : Frames good view (kWorkCancelDelayable (.tx lnk)) :=
  frames_write fun s =>
    (off.note (s.modWork (.tx lnk) DelayableWork.cancel) (.cancel (.tx lnk)) trivial).trans
      (off.work s lnk _)

theorem nodeStopTx (off : OffTx view) : Frames good view nodeStopTx :=
  off.cancel.bind fun _ => off.cancel.bind fun _ => frames_write fun s => off.note s .stopTx trivial

theorem nodeSchedTx (off : OffTx view) {reqState subcode status : UInt8} :
    Frames good view (nodeSchedTx reqState subcode status) := by
  unfold Erps.nodeSchedTx
  refine frames_ite (fun _ => frames_pure) fun _ => ?_
  refine frames_ite (fun _ => frames_pure) fun _ => ?_
  refine off.cancel.bind fun _ => off.cancel.bind fun _ => frames_read.bind fun pdu => ?_
  refine Frames.bind (frames_write fun s => ?_) fun _ => ?_
  · exact (off.note _ .schedTx trivial).trans (off.pdu s _ _)
  · exact schedPorts_frames off.work

end OffTx

theorem offTx_muted : OffTx Sys.muted where
  flush _ := rfl
  work s lnk f := by cases lnk <;> rfl
  pdu _ _ _ := rfl
  note _ _ _ := rfl

theorem nodeStartGuardTimer_muted : Frames good Sys.muted nodeStartGuardTimer :=
  frames_write fun _ => rfl

/-! ### Ports -/

/-- The change keeps what of a link is not its flags and its (node ID, BPR) pair. -/
def Link.KeepsRest (f : Link → Link) : Prop :=
  ∀ l, (f l).rpl = l.rpl ∧ (f l).dev = l.dev ∧ (f l).txDwork = l.txDwork ∧
    (f l).linkDownDwork = l.linkDownDwork ∧ (f l).idx = l.idx

/-- A view that sees nothing of the flags of the links and of their ports. -/
structure OffPorts {α : Type} (view : Sys → α) : Prop where
  link : ∀ (s : Sys) lnk f, Link.KeepsRest f → view (s.modLink lnk f) = view s
  hw : ∀ (s : Sys) dev f, (∀ p, (f p).ifUp = p.ifUp) → view (s.modHw dev f) = view s

namespace OffPorts

variable {α : Type} {view : Sys → α} {lnk : PortIdx}

theorem mod (off : OffPorts view) {f : Link → Link} (kept : Link.KeepsRest f) :
    Frames good view (write fun s => s.modLink lnk f) :=
  frames_write fun s => off.link s lnk f kept

theorem linkBlock (off : OffPorts view) : Frames good view (linkBlock lnk) := by
  refine frames_read.bind fun blocked => frames_ite (fun _ => frames_pure) fun _ => ?_
  refine frames_read.bind fun dev => netIfLookupByDev_frames.bind fun found => ?_
  refine frames_ite (fun _ => frames_pure) fun _ => ?_
  refine Frames.bind (netEthPortSetEnabled_frames fun s => off.hw s dev _ fun _ => rfl) fun ret => ?_
  refine frames_ite (fun _ => frames_pure) fun _ => ?_
  refine Frames.bind (off.mod fun _ => ⟨rfl, rfl, rfl, rfl, rfl⟩) fun _ => ?_
  refine Frames.bind (off.mod fun _ => ⟨rfl, rfl, rfl, rfl, rfl⟩) fun _ => ?_
  refine Frames.bind (off.mod fun _ => ⟨rfl, rfl, rfl, rfl, rfl⟩) fun _ => ?_
  refine frames_read.bind fun vid => netEthGetVlanIface_frames.bind fun found => ?_
  refine frames_ite (fun _ => frames_pure) fun _ => ?_
  exact Frames.bind (frames_write fun s => off.hw s dev _ fun _ => rfl) fun _ => frames_pure

theorem linkUnblock (off : OffPorts view) : Frames good view (linkUnblock lnk) := by
  refine Frames.bind (off.mod fun _ => ⟨rfl, rfl, rfl, rfl, rfl⟩) fun _ => ?_
  refine frames_read.bind fun blocked => frames_ite (fun _ => frames_pure) fun _ => ?_
  refine frames_read.bind fun dev => netIfLookupByDev_frames.bind fun found => ?_
  refine frames_ite (fun _ => frames_pure) fun _ => ?_
  refine Frames.bind (netEthPortSetEnabled_frames fun s => off.hw s dev _ fun _ => rfl) fun ret => ?_
  refine frames_ite (fun _ => frames_pure) fun _ => ?_
  refine Frames.bind (off.mod fun _ => ⟨rfl, rfl, rfl, rfl, rfl⟩) fun _ => ?_
  refine frames_read.bind fun vid => netEthGetVlanIface_frames.bind fun found => ?_
  refine frames_ite (fun _ => frames_pure) fun _ => ?_
  exact Frames.bind (frames_write fun s => off.hw s dev _ fun _ => rfl) fun _ => frames_pure

theorem linkUnblockForce (off : OffPorts view) : Frames good view (linkUnblockForce lnk) :=
  Frames.bind (off.mod fun _ => ⟨rfl, rfl, rfl, rfl, rfl⟩) fun _ => off.linkUnblock

theorem nodeUnblockAll (off : OffPorts view) : Frames good view nodeUnblockAll :=
  off.linkUnblock.bind fun _ => off.linkUnblock.ifOk

theorem linkUnblockNonFailed (off : OffPorts view) :
    Frames good view (linkUnblockNonFailed lnk) :=
  frames_read.bind fun _ => frames_ite (fun _ => off.linkUnblock) fun _ => frames_pure

theorem nodeUnblockNonFailed (off : OffPorts view) : Frames good view nodeUnblockNonFailed :=
  off.linkUnblockNonFailed.bind fun _ => off.linkUnblockNonFailed.ifOk

end OffPorts

theorem offPorts_timing : OffPorts Sys.timing where
  link s lnk f kept := by
    have setup : (s.modLink lnk f).setup = s.setup :=
      s.modLink_setup lnk f fun l => ⟨(kept l).1, (kept l).2.1⟩
    have role : (s.modLink lnk f).ctl.timing = s.ctl.timing := rfl
    exact congrArg₂ Prod.mk role setup
  hw s dev f kept := by
    have setup : (s.modHw dev f).setup = s.setup := s.modHw_setup dev f kept
    exact congrArg (Prod.mk s.ctl.timing) setup

theorem offTx_timing : OffTx Sys.timing where
  flush _ := rfl
  work s lnk f := by cases lnk <;> rfl
  pdu _ _ _ := rfl
  note _ _ _ := rfl

/-! ### Before the handler -/

/-- The handler of a request in the state `st`. -/
abbrev fsmReact (st : NodeState) (lnk : PortIdx) (req : Request) (pdu : Option RapsPdu) : M Int :=
  match st with
  | .idle => fsmPostIdle lnk req pdu
  | .protection => fsmPostProtection lnk req
  | .manualSwitch => fsmPostManualSwitch lnk req
  | .forcedSwitch => fsmPostForcedSwitch lnk req
  | .pending => fsmPostPending lnk req pdu
  | .uninit => return 0

section
variable {α : Type} {view : Sys → α} {req : Request}

theorem fsmResolveReqPrio_frames
    (topreq : ∀ (s : Sys) req, view (s.modNode fun n => { n with localTopreq := req }) = view s) :
    Frames good view (fsmResolveReqPrio req) := by
  refine frames_read.bind fun n => frames_ite (fun _ => frames_pure) fun _ => ?_
  refine Frames.bind (frames_write fun s => ?_) fun _ => frames_read.bind fun top => ?_
  · by_cases clears : req = .clearSf ∧ s.node.localTopreq = .sf
    · simpa [Sys.modNode, clears] using topreq s .invalid
    · simp [Sys.modNode, clears]
  refine frames_ite (fun _ => ?_) fun _ => frames_pure
  exact Frames.bind (frames_write fun s => topreq s _) fun _ => frames_pure

theorem nodeStartTimer_frames {t : Timer}
    (topreq : ∀ (s : Sys) req, view (s.modNode fun n => { n with localTopreq := req }) = view s)
    (schedules : ∀ (s : Sys) f, view (s.modWork t.item f) = view s) :
    Frames good view (nodeStartTimer t) := by
  have posts : Frames good view (fsmPostRunning t.running) :=
    (fsmResolveReqPrio_frames topreq).bind fun _ => frames_pure
  refine frames_read.bind fun n => frames_ite (fun _ => frames_pure) fun _ => posts.bind fun _ => ?_
  exact (kWorkReschedule_frames schedules).bind fun _ => frames_pure

end

/-- A view that sees nothing of what a post does before a handler is reached. -/
structure OffPriority {α : Type} (view : Sys → α) : Prop where
  topreq : ∀ (s : Sys) req, view (s.modNode fun n => { n with localTopreq := req }) = view s
  failed : ∀ (s : Sys) lnk, view (s.modLink lnk fun l => { l with failed := true }) = view s
  cancel : ∀ (s : Sys) lnk, view ((s.modWork (.linkDown lnk) DelayableWork.cancel).note
    (.cancel (.linkDown lnk))) = view s

namespace OffPriority

variable {α : Type} {view : Sys → α} {lnk : PortIdx} {req : Request} {pdu : Option RapsPdu}

theorem resolve (off : OffPriority view) : Frames good view (fsmResolveReqPrio req) :=
  fsmResolveReqPrio_frames off.topreq

theorem marks (off : OffPriority view) : Frames good view (write fun s =>
    if req = .sf then s.modLink lnk fun l => { l with failed := true } else s) := by
  refine frames_write fun s => ?_
  split
  · exact off.failed s lnk
  · rfl

/-- The state is not seen to change either. -/
theorem withState (off : OffPriority view) :
    OffPriority fun s => (view s, s.node.state) where
  topreq s req := congrArg (Prod.mk · s.node.state) (off.topreq s req)
  failed s lnk := congrArg (Prod.mk · s.node.state) (off.failed s lnk)
  cancel s lnk := congrArg (Prod.mk · s.node.state) (off.cancel s lnk)

/-- A post either does nothing that is seen or runs the handler of the state, for a request
that has passed, in a system that looks the same. -/
theorem post (off : OffPriority view) {s : Sys} {Q : Int → Sys → Prop}
    (skips : ∀ ret t, view t = view s → Q ret t)
    (reacts : s.ctl.Passes req → ∀ t, view t = view s → t.node.state = s.node.state →
      wp good anyState (fsmReact s.node.state lnk req pdu) Q t) :
    wp good anyState (fsmPost lnk req pdu) Q s := by
  refine wp_bind (wp_call fun v _ => wp_ite (fun _ => wp_pure (skips _ _ rfl)) fun _ => ?_)
  have cancels : Frames good (fun s : Sys => ((view s, s.node.state), s.ctl)) (if req = .clearSf then
      kWorkCancelDelayable (.linkDown lnk) else pure ()) := by
    refine frames_ite (fun _ => frames_write fun s => ?_) fun _ => frames_pure
    refine congrArg₂ Prod.mk (off.withState.cancel s lnk) ?_
    cases lnk <;> rfl
  unfold fsmPostLocked
  refine wp_bindWhen (wp_mono (cancels.ends s) fun _ t same => ?_)
  obtain ⟨same, ctl⟩ := Prod.mk.inj same
  refine wp_bind (wp_mono ((wp_resolve t req).and (off.withState.resolve.ends t)) ?_)
  rintro ret u ⟨⟨rfl, -⟩, same'⟩
  rw [ctl]
  by_cases passes : s.ctl.Passes req
  case neg =>
    refine wp_ite (fun _ => wp_pure (skips _ u ?_)) fun ok => absurd (if_neg passes) ok
    exact congrArg Prod.fst (same'.trans same)
  rw [if_pos passes]
  refine wp_ite (fun busy => absurd busy (by decide)) fun _ => ?_
  refine wp_bind (wp_mono (off.withState.marks.ends u) fun _ v same'' => ?_)
  obtain ⟨view_eq, state⟩ := Prod.mk.inj (same''.trans (same'.trans same))
  refine wp_bind (wp_read (wp_ite (fun _ => wp_pure (skips _ v view_eq)) fun _ => ?_))
  have state' : (id v).node.state = s.node.state := state
  rw [state']
  exact reacts passes v view_eq state

end OffPriority

end Erps
