import Erps.Calls.Built
import Erps.Footprints

/-!
# What the state machine is built from

Every program of the state machine changes the system through a dozen operations. An
invariant that each of them keeps is kept by every post, by the initialisation and by the
handlers of the timers.
-/
namespace Erps

open Calls

/-- The operations of the state machine; the guard timer may be set only where `guard`
says so. -/
inductive FsmOp (guard : Prop) : (α : Type) → M α → Prop where
  | block (lnk : PortIdx) : FsmOp guard Int (linkBlock lnk)
  | unblock (lnk : PortIdx) : FsmOp guard Int (linkUnblock lnk)
  | unblockForce (lnk : PortIdx) : FsmOp guard Int (linkUnblockForce lnk)
  | markFailed (lnk : PortIdx) (req : Request) : FsmOp guard Unit (write fun s =>
      if req = .sf then s.modLink lnk fun l => { l with failed := true } else s)
  | flush (lnk : PortIdx) : FsmOp guard Int (flushFdb lnk)
  | schedTx (reqState subcode status : UInt8) : FsmOp guard Int (nodeSchedTx reqState subcode status)
  | stopTx : FsmOp guard Unit nodeStopTx
  | startGuard (allowed : guard) : FsmOp guard Unit nodeStartGuardTimer
  | startTimer (t : Timer) : FsmOp guard Int (nodeStartTimer t)
  | stopTimer (t : Expiry) : FsmOp guard Unit (kWorkCancelDelayable t.item)
  | resolve (req : Request) : FsmOp guard Int (fsmResolveReqPrio req)
  | goto (next : NodeState) : FsmOp guard Unit (fsmTransition next)
  | fault : FsmOp guard Int assertFails

/-- A program of the state machine. -/
abbrev FsmBuilt (guard : Prop) {α : Type} (m : M α) : Prop := Built (FsmOp guard) m

/-! ### What configuration has fixed -/

/-- The roles of the node and where its links are, and whether an assertion has failed. -/
structure Wiring where
  rplOwner : Bool
  rplNbr : Bool
  rpl : Ports Bool
  idx : Ports UInt8
  dev : Ports Device
  faulted : Bool

def Sys.wiring (s : Sys) : Wiring where
  rplOwner := s.node.rplOwner
  rplNbr := s.node.rplNbr
  rpl := s.node.ports.map Link.rpl
  idx := s.node.ports.map Link.idx
  dev := s.node.ports.map Link.dev
  faulted := s.faulted

/-- An operation that leaves the wiring alone, which a failing assertion does not. -/
structure FsmAct (guard : Prop) (α : Type) (m : M α) : Prop where
  op : FsmOp guard α m
  frames : Frames anyAnswer Sys.wiring m

/-- A program of the state machine in which no assertion fails. -/
abbrev FsmActs (guard : Prop) {α : Type} (m : M α) : Prop := Built (FsmAct guard) m

theorem wiring_modWork (s : Sys) (w : WorkItem) (f : DelayableWork → DelayableWork) :
    (s.modWork w f).wiring = s.wiring := by
  cases w with
  | tx lnk | linkDown lnk => cases lnk <;> rfl
  | wtr | wtb => rfl

theorem offPorts_wiring : OffPorts Sys.wiring where
  link s lnk f kept := by
    have faulted : (s.modLink lnk f).faulted = s.faulted := rfl
    cases lnk <;> simp [Sys.wiring, Ports.map, Ports.modify, (kept _).1, (kept _).2.1,
      (kept _).2.2.2.2, faulted]
  hw _ _ _ _ := rfl

theorem offTx_wiring : OffTx Sys.wiring where
  flush _ := rfl
  work s lnk f := wiring_modWork s (.tx lnk) f
  pdu _ _ _ := rfl
  note _ _ _ := rfl

theorem offPriority_wiring : OffPriority Sys.wiring where
  topreq _ _ := rfl
  failed _ lnk := by cases lnk <;> rfl
  cancel s lnk := wiring_modWork s (.linkDown lnk) _

namespace FsmAct

variable {guard : Prop}

theorem block (lnk : PortIdx) : FsmAct guard Int (linkBlock lnk) :=
  ⟨.block lnk, offPorts_wiring.linkBlock⟩

theorem unblock (lnk : PortIdx) : FsmAct guard Int (linkUnblock lnk) :=
  ⟨.unblock lnk, offPorts_wiring.linkUnblock⟩

theorem unblockForce (lnk : PortIdx) : FsmAct guard Int (linkUnblockForce lnk) :=
  ⟨.unblockForce lnk, offPorts_wiring.linkUnblockForce⟩

theorem flush (lnk : PortIdx) : FsmAct guard Int (flushFdb lnk) :=
  ⟨.flush lnk, offTx_wiring.flushFdb⟩

theorem schedTx (reqState subcode status : UInt8) :
    FsmAct guard Int (nodeSchedTx reqState subcode status) :=
  ⟨.schedTx reqState subcode status, offTx_wiring.nodeSchedTx⟩

theorem stopTx : FsmAct guard Unit nodeStopTx := ⟨.stopTx, offTx_wiring.nodeStopTx⟩

theorem startGuard (allowed : guard) : FsmAct guard Unit nodeStartGuardTimer :=
  ⟨.startGuard allowed, frames_write fun _ => rfl⟩

theorem startTimer (t : Timer) : FsmAct guard Int (nodeStartTimer t) :=
  ⟨.startTimer t, nodeStartTimer_frames (fun _ _ => rfl) fun s f => wiring_modWork s t.item f⟩

theorem stopTimer (t : Expiry) : FsmAct guard Unit (kWorkCancelDelayable t.item) :=
  ⟨.stopTimer t, frames_write fun s => wiring_modWork s t.item _⟩

theorem goto (next : NodeState) : FsmAct guard Unit (fsmTransition next) :=
  ⟨.goto next, frames_write fun _ => rfl⟩

end FsmAct

section
variable {guard : Prop} {α : Type} {m : M α}

theorem acts_built (h : FsmActs guard m) : FsmBuilt guard m := h.mono fun _ _ act => act.op

theorem acts_wiring (h : FsmActs guard m) : Frames anyAnswer Sys.wiring m :=
  h.frames fun _ _ act => act.frames

end

/-! ### Programs -/

/-- The requests that start the guard timer, except that only a clear SF does so where no
port is blocked. -/
def NodeState.startsGuard : NodeState → Request → Bool
  | .protection, .clearSf | .manualSwitch, .clear | .manualSwitch, .rapsMs
  | .forcedSwitch, .clear => true
  | _, _ => false

section
variable {guard : Prop} {lnk : PortIdx} {req : Request} {pdu : Option RapsPdu} {next : NodeState}

theorem finish_acts : FsmActs guard (do fsmTransition next; return (0 : Int)) :=
  Built.bind (.op (.goto next)) fun _ => .pure 0

theorem linkGetNodeId_acts : FsmActs guard linkGetNodeId := by
  refine Built.bind (.read _) fun dev => Built.bind ?_ fun found => .ite (fun _ => .pure _) fun _ => ?_
  · exact Built.bind (.call _) fun _ => .pure _
  refine Built.bind ?_ fun addr => .ite (fun _ => .pure _) fun _ => .pure _
  exact Built.bind (.call _) fun _ => .pure _

theorem nodeUnblockAll_acts : FsmActs guard nodeUnblockAll :=
  Built.bind (.op (.unblock _)) fun _ => .ifOk (.op (.unblock _))

theorem linkUnblockNonFailed_acts : FsmActs guard (linkUnblockNonFailed lnk) :=
  Built.bind (.read _) fun _ => .ite (fun _ => .op (.unblock lnk)) fun _ => .pure _

theorem nodeUnblockNonFailed_acts : FsmActs guard nodeUnblockNonFailed :=
  linkUnblockNonFailed_acts.bind fun _ => linkUnblockNonFailed_acts.ifOk

theorem stopThen_acts {m : M Int} (h : FsmActs guard m) : FsmActs guard (do nodeStopTx; m) :=
  Built.bind (.op .stopTx) fun _ => h

/-! ### Handlers shared by the states -/

theorem fsmFsSfMs_acts {reqState : UInt8} : FsmActs guard (fsmFsSfMs lnk reqState next) := by
  have rest (status : UInt8) (ret : Int) : FsmActs guard (do
      let ret ← ifOk ret (nodeSchedTx reqState 0 status)
      let ret ← ifOk ret (linkUnblock lnk.other)
      let ret ← if ret = 0 ∧ status = 0 then flushFdb lnk else pure ret
      ifOk ret do
        fsmTransition next
        return 0) := by
    refine Built.bind (.ifOk (.op (.schedTx ..))) fun _ => ?_
    refine Built.bind (.ifOk (.op (.unblock _))) fun _ => .ite (fun _ => ?_) fun _ => ?_
    · exact Built.bind (.op (.flush lnk)) fun _ => finish_acts.ifOk
    · exact Built.bind (.pure _) fun _ => finish_acts.ifOk
  refine Built.bind (.read _) fun blocked => .ite (fun _ => ?_) fun _ => ?_
  · exact Built.bind (.pure _) fun _ => rest _ _
  · exact Built.bind (.op (.block lnk)) fun _ => rest _ _

theorem fsmUnblockAndStop_acts {onlyNonFailed : Bool} :
    FsmActs guard (fsmUnblockAndStop onlyNonFailed next) := by
  refine .ite (fun _ => ?_) fun _ => ?_
  · exact nodeUnblockNonFailed_acts.bind fun _ => (stopThen_acts finish_acts).ifOk
  · exact nodeUnblockAll_acts.bind fun _ => (stopThen_acts finish_acts).ifOk

theorem fsmRapsFsCommon_acts : FsmActs guard fsmRapsFsCommon := fsmUnblockAndStop_acts

theorem fsmRapsSfCommon_acts : FsmActs guard fsmRapsSfCommon := fsmUnblockAndStop_acts

theorem fsmRapsMsCommon_acts : FsmActs guard fsmRapsMsCommon := fsmUnblockAndStop_acts

theorem fsmMaybeUnblockAndStop_acts (given : pdu.isSome = true) :
    FsmActs guard (fsmMaybeUnblockAndStop pdu) := by
  cases pdu with
  | none => cases given
  | some pdu =>
    refine linkGetNodeId_acts.bind fun _ => .ite (fun _ => .pure _) fun _ => ?_
    refine .ite (fun _ => .pure _) fun _ => nodeUnblockNonFailed_acts.bind fun _ => ?_
    exact (stopThen_acts (.pure 0)).ifOk

theorem fsmMaybeUnblockAndStop_built : FsmBuilt guard (fsmMaybeUnblockAndStop pdu) := by
  cases pdu with
  | none => exact .op .fault
  | some pdu => exact acts_built (fsmMaybeUnblockAndStop_acts rfl)

theorem fsmClearCommon_acts (allowed : guard) : FsmActs guard fsmClearCommon := by
  refine Built.bind (.read _) fun n => .ite (fun _ => ?_) fun _ => ?_
  · refine Built.bind (.op (.startGuard allowed)) fun _ => Built.bind (.op (.schedTx ..)) fun ret => ?_
    refine .ite (fun _ => ?_) fun _ => ?_
    · exact Built.bind (.op (.startTimer .wtb)) fun _ => finish_acts.ifOk
    · exact Built.bind (.pure _) fun _ => finish_acts.ifOk
  · exact Built.bind (.pure _) fun _ => finish_acts.ifOk

/-! ### Handlers of the states -/

theorem fsmRapsNrRbIdle_acts : FsmActs guard fsmRapsNrRbIdle := by
  refine Built.bind (.read _) fun n => ?_
  have rest (ret : Int) : FsmActs guard (ifOk ret do
      if n.rplOwner then
        return 0
      nodeStopTx
      return 0) :=
    .ifOk (.ite (fun _ => .pure _) fun _ => stopThen_acts (.pure 0))
  rcases nodeOtherLink n.getRpl with _ | nonRpl
  · exact Built.bind (.pure _) fun _ => rest _
  · exact Built.bind (.op (.unblock nonRpl)) fun _ => rest _

theorem fsmRapsNrIdle_built : FsmBuilt guard (fsmRapsNrIdle pdu) :=
  Built.bind (.read _) fun _ => .ite (fun _ => .pure _) fun _ => fsmMaybeUnblockAndStop_built

theorem fsmClearSfProtection_acts (allowed : guard) : FsmActs guard fsmClearSfProtection := by
  refine Built.bind (.op (.startGuard allowed)) fun _ => Built.bind (.op (.schedTx ..)) fun ret => ?_
  refine Built.bind (.read _) fun n => .ite (fun _ => ?_) fun _ => ?_
  · exact Built.bind (.op (.startTimer .wtr)) fun _ => finish_acts.ifOk
  · exact Built.bind (.pure _) fun _ => finish_acts.ifOk

theorem fsmRapsNr_acts {t : Timer} {rb : Bool} : FsmActs guard (fsmRapsNr t rb) := by
  refine Built.bind (.read _) fun n => .ite (fun _ => ?_) fun _ => ?_
  · exact Built.bind (.op (.startTimer t)) fun _ => finish_acts.ifOk
  · exact Built.bind (.pure _) fun _ => finish_acts.ifOk

theorem fsmRapsMsMs_acts (allowed : guard) : FsmActs guard fsmRapsMsMs := by
  have rest (p : Int × NodeState) : FsmActs guard (ifOk p.1 do
      fsmTransition p.2
      return 0) := finish_acts.ifOk
  refine Built.bind (.read _) fun n => .ite (fun _ => ?_) fun _ => ?_
  · refine Built.bind (.op (.startGuard allowed)) fun _ => Built.bind (.op (.schedTx ..)) fun ret => ?_
    refine .ite (fun _ => ?_) fun _ => ?_
    · exact Built.bind (.op (.startTimer .wtb)) fun _ => Built.bind (.pure _) rest
    · exact Built.bind (.pure _) rest
  · exact Built.bind (.pure _) rest

theorem fsmFsFs_acts : FsmActs guard (fsmFsFs lnk) :=
  Built.bind (.op (.block lnk)) fun _ => Built.bind (.ifOk (.op (.schedTx ..))) fun _ =>
    .ifOk (.op (.flush lnk))

theorem stopWtr_acts : FsmActs guard nodeStopWtr := .op (.stopTimer .wtr)

theorem stopWtb_acts : FsmActs guard nodeStopWtb := .op (.stopTimer .wtb)

theorem ownerStopTimers_acts : FsmActs guard ownerStopTimers :=
  Built.bind (.read _) fun _ =>
    .ite (fun _ => stopWtr_acts.bind fun _ => stopWtb_acts) fun _ => .pure _

theorem fsmRevert_acts {rpl nonRpl : PortIdx} : FsmActs guard (fsmRevert lnk rpl nonRpl) := by
  have rest (status : UInt8) (ret : Int) : FsmActs guard (do
      let ret ← ifOk ret (nodeSchedTx rapsNr 0 status)
      let ret ← ifOk ret (linkUnblock nonRpl)
      if ret = 0 ∧ status &&& rapsDnf = 0 then flushFdb lnk else pure ret) := by
    refine Built.bind (.ifOk (.op (.schedTx ..))) fun _ => ?_
    refine Built.bind (.ifOk (.op (.unblock _))) fun _ => ?_
    exact .ite (fun _ => .op (.flush lnk)) fun _ => .pure _
  refine Built.bind (.read _) fun blocked => .ite (fun _ => ?_) fun _ => ?_
  · exact Built.bind (.pure _) fun _ => rest _ _
  · exact Built.bind (.op (.block rpl)) fun _ => rest _ _

theorem fsmClearPending_acts : FsmActs guard (fsmClearPending lnk) := by
  refine ownerStopTimers_acts.bind fun _ => Built.bind (.read _) fun n => ?_
  rcases n.getRpl with _ | rpl
  · exact Built.bind (.pure _) fun _ => finish_acts.ifOk
  · exact fsmRevert_acts.bind fun _ => finish_acts.ifOk

theorem thenOwnerStopTimers_acts {m : M Int} (h : FsmActs guard m) : FsmActs guard (thenOwnerStopTimers m) :=
  h.bind fun _ => (ownerStopTimers_acts.bind fun _ => .pure _).ifOk

theorem fsmTimerExpiresPending_built : FsmBuilt guard (fsmTimerExpiresPending lnk) := by
  refine Built.bind (.read _) fun n => ?_
  rcases n.getRpl with _ | rpl
  · exact .op .fault
  · exact acts_built (fsmRevert_acts.bind fun _ => finish_acts.ifOk)

/-- Both expiries. -/
theorem timerExpires_built {t : Expiry} : FsmBuilt guard (do
    if ← read fun s => s.node.rplOwner then
      kWorkCancelDelayable t.item
      fsmTimerExpiresPending lnk
    else
      return 0) :=
  Built.bind (.read _) fun _ => .ite (fun _ => Built.bind (.op (.stopTimer t)) fun _ =>
    fsmTimerExpiresPending_built) fun _ => .pure _

theorem fsmRapsNrRbPending_built : FsmBuilt guard fsmRapsNrRbPending := by
  refine Built.bind (.read _) fun n => ?_
  have last (ret : Int) : FsmActs guard (ifOk ret do
      fsmTransition .idle
      return 0) := finish_acts.ifOk
  have stops : FsmActs guard (do nodeStopTx; return (0 : Int)) := stopThen_acts (.pure 0)
  -- owner, neighbour or neither; both at once is an assertion
  cases n.rplOwner <;> cases n.rplNbr
  case true.false =>
    exact acts_built (stopWtr_acts.bind fun _ => stopWtb_acts.bind fun _ => Built.bind (.pure _) last)
  case false.false =>
    exact acts_built (nodeUnblockAll_acts.bind fun _ => stops.ifOk.bind last)
  case false.true =>
    rcases n.getRpl with _ | rpl
    · exact Built.bind (.op .fault) fun ret => acts_built (last ret)
    · exact acts_built (Built.bind (.op (.block rpl)) fun _ =>
        Built.bind (.ifOk (.op (.unblock _))) fun _ => stops.ifOk.bind last)
  case true.true => exact Built.bind (.op .fault) fun ret => acts_built (last ret)

/-! ### Posting -/

/-- The requests whose answer in pending depends on the role of the node. -/
def Request.byRole : Request → Bool
  | .wtrExpires | .wtbExpires | .rapsNrRb => true
  | _ => false

theorem fsmPostIdle_acts (given : req = .rapsNr → pdu.isSome = true) :
    FsmActs guard (fsmPostIdle lnk req pdu) := by
  cases req with
  | clear | clearSf | wtrExpires | wtrRunning | wtbExpires | wtbRunning | invalid => exact .pure _
  | fs | sf | ms => exact fsmFsSfMs_acts
  | rapsFs => exact fsmRapsFsCommon_acts
  | rapsSf => exact fsmRapsSfCommon_acts
  | rapsMs => exact fsmRapsMsCommon_acts
  | rapsNrRb => exact fsmRapsNrRbIdle_acts
  | rapsNr =>
    refine Built.bind (.read _) fun _ => .ite (fun _ => .pure _) fun _ => ?_
    exact fsmMaybeUnblockAndStop_acts (given rfl)

theorem fsmPostIdle_built : FsmBuilt guard (fsmPostIdle lnk req pdu) := by
  by_cases nr : req = .rapsNr
  · subst nr
    exact fsmRapsNrIdle_built
  · exact acts_built (fsmPostIdle_acts fun same => absurd same nr)

theorem fsmPostProtection_acts (allowed : NodeState.protection.startsGuard req → guard) :
    FsmActs guard (fsmPostProtection lnk req) := by
  cases req with
  | clear | rapsSf | rapsMs | ms | wtrExpires | wtrRunning | wtbExpires | wtbRunning | invalid =>
    exact .pure _
  | fs | sf => exact fsmFsSfMs_acts
  | rapsFs => exact fsmRapsFsCommon_acts
  | clearSf => exact fsmClearSfProtection_acts (allowed rfl)
  | rapsNrRb | rapsNr => exact fsmRapsNr_acts

theorem fsmPostManualSwitch_acts (allowed : NodeState.manualSwitch.startsGuard req → guard) :
    FsmActs guard (fsmPostManualSwitch lnk req) := by
  cases req with
  | clearSf | ms | wtrExpires | wtrRunning | wtbExpires | wtbRunning | invalid => exact .pure _
  | clear => exact fsmClearCommon_acts (allowed rfl)
  | fs | sf => exact fsmFsSfMs_acts
  | rapsFs => exact fsmRapsFsCommon_acts
  | rapsSf => exact fsmRapsSfCommon_acts
  | rapsMs => exact fsmRapsMsMs_acts (allowed rfl)
  | rapsNrRb | rapsNr => exact fsmRapsNr_acts

theorem fsmPostForcedSwitch_acts (allowed : NodeState.forcedSwitch.startsGuard req → guard) :
    FsmActs guard (fsmPostForcedSwitch lnk req) := by
  cases req with
  | rapsFs | sf | clearSf | rapsSf | rapsMs | ms | wtrExpires | wtrRunning | wtbExpires | wtbRunning
  | invalid => exact .pure _
  | clear => exact fsmClearCommon_acts (allowed rfl)
  | fs => exact fsmFsFs_acts
  | rapsNrRb | rapsNr => exact fsmRapsNr_acts

theorem fsmPostPending_acts (given : req = .rapsNr → pdu.isSome = true)
    (plain : req.byRole = false) : FsmActs guard (fsmPostPending lnk req pdu) := by
  cases req with
  | clearSf | wtrRunning | wtbRunning | invalid => exact .pure _
  | clear => exact fsmClearPending_acts
  | fs | sf => exact thenOwnerStopTimers_acts fsmFsSfMs_acts
  | rapsFs => exact thenOwnerStopTimers_acts fsmRapsFsCommon_acts
  | rapsSf => exact thenOwnerStopTimers_acts fsmRapsSfCommon_acts
  | rapsMs => exact thenOwnerStopTimers_acts fsmRapsMsCommon_acts
  | ms => exact ownerStopTimers_acts.bind fun _ => fsmFsSfMs_acts
  | rapsNr => exact fsmMaybeUnblockAndStop_acts (given rfl)
  | wtrExpires | wtbExpires | rapsNrRb => cases plain

theorem fsmPostPending_built : FsmBuilt guard (fsmPostPending lnk req pdu) := by
  cases req with
  | wtrExpires => exact timerExpires_built (t := .wtb)
  | wtbExpires => exact timerExpires_built (t := .wtr)
  | rapsNrRb => exact fsmRapsNrRbPending_built
  | rapsNr => exact fsmMaybeUnblockAndStop_built
  | _ => exact acts_built (fsmPostPending_acts nofun rfl)

/-- No assertion fails but in pending, where the role of the node matters. -/
theorem react_acts {st : NodeState} (allowed : st.startsGuard req → guard)
    (given : req = .rapsNr → pdu.isSome = true) (plain : st = .pending → req.byRole = false) :
    FsmActs guard (fsmReact st lnk req pdu) := by
  cases st with
  | idle => exact fsmPostIdle_acts given
  | protection => exact fsmPostProtection_acts allowed
  | manualSwitch => exact fsmPostManualSwitch_acts allowed
  | forcedSwitch => exact fsmPostForcedSwitch_acts allowed
  | pending => exact fsmPostPending_acts given (plain rfl)
  | uninit => exact .pure _

theorem react_built {st : NodeState} (allowed : st.startsGuard req → guard) :
    FsmBuilt guard (fsmReact st lnk req pdu) := by
  cases st with
  | idle => exact fsmPostIdle_built
  | protection => exact acts_built (fsmPostProtection_acts allowed)
  | manualSwitch => exact acts_built (fsmPostManualSwitch_acts allowed)
  | forcedSwitch => exact acts_built (fsmPostForcedSwitch_acts allowed)
  | pending => exact fsmPostPending_built
  | uninit => exact .pure _

theorem fsmPostLocked_built : FsmBuilt True (fsmPostLocked lnk req pdu) := by
  unfold fsmPostLocked
  refine .bindWhen (fun _ => .op (.stopTimer (.linkDown lnk))) ?_
  refine Built.bind (.op (.resolve req)) fun ret => .ite (fun _ => .pure _) fun _ => ?_
  refine Built.bind (.op (.markFailed lnk req)) fun _ => Built.bind (.read _) fun s => ?_
  refine .ite (fun _ => .pure _) fun _ => ?_
  cases s.node.state with
  | uninit => exact .pure _
  | idle => exact fsmPostIdle_built
  | protection => exact acts_built (fsmPostProtection_acts fun _ => trivial)
  | manualSwitch => exact acts_built (fsmPostManualSwitch_acts fun _ => trivial)
  | forcedSwitch => exact acts_built (fsmPostForcedSwitch_acts fun _ => trivial)
  | pending => exact fsmPostPending_built

theorem fsmPost_built : FsmBuilt True (fsmPost lnk req pdu) :=
  Built.bind (.call _) fun _ => .ite (fun _ => .pure _) fun _ => fsmPostLocked_built

theorem handler_built {t : Expiry} : FsmBuilt True t.handler := by
  cases t with
  | wtr | wtb => exact fsmPost_built.bind fun _ => .pure _
  | linkDown lnk =>
    refine Built.bind (.read _) fun dev => Built.bind ?_ fun found => ?_
    · exact Built.bind (.call _) fun _ => .pure _
    · exact .ite (fun _ => fsmPost_built.bind fun _ => .pure _) fun _ => .pure _

/-! ### Initialisation -/

theorem fsmInitRpl_acts {rplOwner : Bool} {rpl nonRpl : PortIdx} :
    FsmActs guard (fsmInitRpl rplOwner rpl nonRpl) := by
  refine Built.bind (.op (.block rpl)) fun _ => Built.bind (.ifOk (.op (.unblockForce _))) fun _ => ?_
  refine Built.bind (.ifOk (.op (.schedTx ..))) fun _ => Built.bind (.read _) fun _ => ?_
  exact .ite (fun _ => .op (.startTimer .wtr)) fun _ => .pure _

theorem fsmInitPlain_acts : FsmActs guard fsmInitPlain :=
  Built.bind (.op (.block _)) fun _ => Built.bind (.ifOk (.op (.unblockForce _))) fun _ =>
    .ifOk (.op (.schedTx ..))

/-- The initialisation resets the guard timer, which no request does. -/
theorem fsmInit_keeps {good : KernelCall → Int → Prop} {P : Sys → Prop}
    (resets : Keeps good P (write fun s => s.modNode fun n => { n with guardTimerExpiry := 0 }))
    (each : ∀ β (m : M β), FsmOp True β m → Keeps good P m) : Keeps good P fsmInit := by
  have last (ret : Int) : FsmBuilt True (do fsmTransition .pending; return ret) :=
    Built.bind (.op (.goto .pending)) fun _ => .pure ret
  refine resets.bind fun _ => Built.keeps (Built.bind (.read _) fun n => .ite (fun _ => ?_) fun _ => ?_) each
  · rcases n.getRpl with _ | rpl
    · exact Built.bind (.op .fault) last
    · exact (acts_built fsmInitRpl_acts).bind last
  · exact (acts_built fsmInitPlain_acts).bind last

end

end Erps
