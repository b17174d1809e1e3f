import Erps.Footprints
import Erps.Events

/-!
# Local events never open the node

A node with a blocked port keeps one at every point while it handles a local event,
whichever calls fail: a port is opened only once the other one is known to be
blocked.
-/
namespace Erps

open Calls

def Ports.Any (p : Ports Bool) : Prop := ∃ i, p.get i = true

theorem Ports.any_iff {p : Ports Bool} : p.Any ↔ (p.port0 || p.port1) = true := by
  rw [Bool.or_eq_true]
  constructor
  · rintro ⟨_ | _, on⟩
    · exact .inl on
    · exact .inr on
  · rintro (on | on)
    · exact ⟨.port0, on⟩
    · exact ⟨.port1, on⟩

variable {good : KernelCall → Int → Prop} {s : Sys} {lnk : PortIdx}

/-- Some port is flagged blocked, at every point while `m` runs and after it. -/
abbrev KeepsBlock {α : Type} (good : KernelCall → Int → Prop) (m : M α) : Prop :=
  Keeps good (fun t => t.blocked.Any) m

/-! ### Blocking and opening one port -/

theorem Sys.modLink_blocked (s : Sys) (lnk : PortIdx) (f : Link → Link)
    (same : ∀ l, (f l).blocked = l.blocked) : (s.modLink lnk f).blocked = s.blocked := by
  cases lnk <;> simp [Sys.blocked, Sys.ctl, Ports.modify, Ports.map, same]

theorem Sys.modLink_blocked_other (s : Sys) (lnk : PortIdx) (f : Link → Link) :
    (s.modLink lnk f).blocked.get lnk.other = s.blocked.get lnk.other := by
  cases lnk <;> rfl

theorem linkDeleteNodeIdBpr_blocked : Frames good Sys.blocked (linkDeleteNodeIdBpr lnk) :=
  frames_write fun s => s.modLink_blocked lnk _ fun _ => rfl

/-- The way both calls end, on the VLAN interface of the port. -/
theorem vlanIface_blocked {dev : Device} {up : Bool} : Frames good Sys.blocked (do
    let vid ← read fun s => s.node.trafficVid
    if !(← netEthGetVlanIface dev vid) then
      return -ENODEV
    netIfSetUp dev vid up
    return (0 : Int)) := by
  refine frames_read.bind fun vid => netEthGetVlanIface_frames.bind fun found => ?_
  refine frames_ite (fun _ => frames_pure) fun _ => ?_
  have sets : Frames good Sys.blocked (netIfSetUp dev vid up) := frames_write fun _ => rfl
  exact sets.bind fun _ => frames_pure

/-- A call to block a port that returns zero has done so. -/
theorem linkBlock_blocks (now : s.blocked.Any) :
    wp good (fun t => t.blocked.Any) (linkBlock lnk)
      (fun ret t => t.blocked.Any ∧ (ret = 0 → t.blocked.get lnk = true)) s := by
  refine wp_bind (wp_read ?_)
  refine wp_ite (fun blocked => wp_pure ⟨now, fun _ => ?_⟩) fun _ => ?_
  · exact (s.link_blocked lnk).symm.trans blocked
  refine wp_bind (wp_read ?_)
  refine netIfLookupByDev_frames.wp_bind now fun found t looked => ?_
  rw [← looked] at now
  refine wp_ite (fun _ => wp_pure ⟨now, fun bad => absurd bad (by decide)⟩) fun _ => ?_
  refine (netEthPortSetEnabled_frames fun _ => rfl).wp_bind now fun ret u disabled => ?_
  rw [← disabled] at now
  refine wp_ite (fun failed => wp_pure ⟨now, fun ok => absurd ok failed⟩) fun _ => ?_
  -- from here on the port is blocked, and nothing more happens to it
  have blocks : (u.modLink lnk fun l => { l with blocked := true }).blocked.get lnk = true := by
    cases lnk <;> rfl
  refine wp_bind (wp_write ⟨lnk, blocks⟩ ?_)
  generalize (u.modLink lnk fun l => { l with blocked := true }) = v at blocks
  refine linkDeleteNodeIdBpr_blocked.wp_bind ⟨lnk, blocks⟩ fun _ w same => ?_
  rw [← same] at blocks
  refine linkDeleteNodeIdBpr_blocked.wp_bind ⟨lnk, blocks⟩ fun _ x same => ?_
  rw [← same] at blocks
  refine wp_mono (vlanIface_blocked Ports.Any x ⟨lnk, blocks⟩) fun ret y same => ?_
  rw [← same] at blocks
  exact ⟨⟨lnk, blocks⟩, fun _ => blocks⟩

/-- Opening a port leaves the other one as it is. -/
theorem linkUnblock_other (held : s.blocked.get lnk.other = true) :
    wp good (fun t => t.blocked.Any) (linkUnblock lnk)
      (fun _ t => t.blocked.get lnk.other = true) s := by
  have fails : Frames good Sys.blocked
      (write fun s => s.modLink lnk fun l => { l with failed := false }) :=
    frames_write fun s => s.modLink_blocked lnk _ fun _ => rfl
  refine fails.wp_bind ⟨_, held⟩ fun _ t same => ?_
  rw [← same] at held
  refine wp_bind (wp_read ?_)
  refine wp_ite (fun _ => wp_pure held) fun _ => ?_
  refine wp_bind (wp_read ?_)
  refine netIfLookupByDev_frames.wp_bind ⟨_, held⟩ fun found u looked => ?_
  rw [← looked] at held
  refine wp_ite (fun _ => wp_pure held) fun _ => ?_
  refine (netEthPortSetEnabled_frames fun _ => rfl).wp_bind ⟨_, held⟩ fun ret v enabled => ?_
  rw [← enabled] at held
  refine wp_ite (fun _ => wp_pure held) fun _ => ?_
  rw [← v.modLink_blocked_other lnk fun l => { l with blocked := false }] at held
  refine wp_bind (wp_write ⟨_, held⟩ ?_)
  refine wp_mono (vlanIface_blocked Ports.Any _ ⟨_, held⟩) fun ret x same => ?_
  rwa [← same] at held

/-- What a handler knows while its calls return zero: the port is blocked. -/
def Held (lnk : PortIdx) (ret : Int) (s : Sys) : Prop :=
  s.blocked.Any ∧ (ret = 0 → s.blocked.get lnk = true)

theorem Held.after {ret : Int} {m : M Int} (h : Held lnk ret s) (frames : Frames good Sys.blocked m) :
    wp good (fun t => t.blocked.Any) (Calls.ifOk ret m) (Held lnk) s := by
  refine wp_ifOk (fun ok => ?_) fun _ => h
  refine wp_mono (frames Ports.Any s h.1) fun ret' t same => ?_
  have blocks : t.blocked.get lnk = true := by rw [same]; exact h.2 ok
  exact ⟨⟨lnk, blocks⟩, fun _ => blocks⟩

theorem Held.unblockOther {ret : Int} (h : Held lnk ret s) :
    wp good (fun t => t.blocked.Any) (Calls.ifOk ret (linkUnblock lnk.other))
      (fun _ t => t.blocked.Any) s := by
  refine wp_ifOk (fun ok => ?_) fun _ => h.1
  have blocks : s.blocked.get lnk.other.other = true := by
    rw [PortIdx.other_other]
    exact h.2 ok
  exact wp_mono (linkUnblock_other blocks) fun ret' t other => ⟨_, other⟩

/-- The port is blocked unless it is already. -/
theorem blockUnlessBlocked_held (now : s.blocked.Any) :
    wp good (fun t => t.blocked.Any) (if (s.link lnk).blocked then pure 0 else linkBlock lnk)
      (Held lnk) s := by
  refine wp_ite (fun blocked => wp_pure ⟨now, fun _ => ?_⟩) fun _ => linkBlock_blocks now
  exact (s.link_blocked lnk).symm.trans blocked

/-! ### Operations that do not open a port -/

theorem nodeSchedTx_blocked {reqState subcode status : UInt8} :
    Frames good Sys.blocked (nodeSchedTx reqState subcode status) :=
  offTx_muted.nodeSchedTx.through fun v => v.1.blocked

theorem flushFdb_blocked : Frames good Sys.blocked (flushFdb lnk) :=
  offTx_muted.flushFdb.through fun v => v.1.blocked

theorem nodeStartGuardTimer_blocked : Frames good Sys.blocked nodeStartGuardTimer :=
  nodeStartGuardTimer_muted.through fun v => v.1.blocked

theorem Sys.modWork_blocked (s : Sys) (w : WorkItem) (f : DelayableWork → DelayableWork) :
    (s.modWork w f).blocked = s.blocked := by
  cases w with
  | tx i | linkDown i => cases i <;> rfl
  | wtr | wtb => rfl

theorem kWorkCancelDelayable_blocked {w : WorkItem} :
    Frames good Sys.blocked (kWorkCancelDelayable w) :=
  frames_write fun s => s.modWork_blocked w _

theorem fsmTransition_blocked {next : NodeState} : Frames good Sys.blocked (fsmTransition next) :=
  frames_write fun _ => rfl

theorem fsmResolveReqPrio_blocked {req : Request} :
    Frames good Sys.blocked (fsmResolveReqPrio req) := by
  refine frames_read.bind fun n => frames_ite (fun _ => frames_pure) fun _ => ?_
  refine (frames_write fun s => ?_).bind fun _ => frames_read.bind fun topreq => ?_
  · change (if _ then _ else s.node).ports.map Link.blocked = s.node.ports.map Link.blocked
    split <;> rfl
  refine frames_ite (fun _ => ?_) fun _ => frames_pure
  refine (frames_write fun s => ?_).bind fun _ => frames_pure
  rfl

theorem nodeStartTimer_blocked {t : Timer} : Frames good Sys.blocked (nodeStartTimer t) := by
  have posts : Frames good Sys.blocked (fsmPostRunning t.running) :=
    fsmResolveReqPrio_blocked.bind fun _ => frames_pure
  refine frames_read.bind fun n => frames_ite (fun _ => frames_pure) fun _ => ?_
  refine posts.bind fun _ => ?_
  exact (kWorkReschedule_frames fun s f => s.modWork_blocked _ f).bind fun _ => frames_pure

theorem ownerStopTimers_blocked : Frames good Sys.blocked ownerStopTimers := by
  refine frames_read.bind fun owner => frames_ite (fun _ => ?_) fun _ => frames_pure
  exact kWorkCancelDelayable_blocked.bind fun _ => kWorkCancelDelayable_blocked

theorem finish_blocked {next : NodeState} : Frames good Sys.blocked (do
    fsmTransition next
    return (0 : Int)) :=
  fsmTransition_blocked.bind fun _ => frames_pure

/-! ### Handlers -/

theorem fsmFsSfMs_keeps {reqState : UInt8} {next : NodeState} :
    KeepsBlock good (fsmFsSfMs lnk reqState next) := by
  intro s now
  refine wp_bind (wp_read ?_)
  refine wp_bindIte (wp_mono (blockUnlessBlocked_held now) fun ret t held => ?_)
  refine wp_bind (wp_mono (held.after nodeSchedTx_blocked) fun ret u held => ?_)
  refine wp_bind (wp_mono held.unblockOther fun ret v now => ?_)
  have flushes : KeepsBlock good (if ret = 0 ∧ (if (s.link lnk).blocked then rapsDnf else 0) = 0
      then flushFdb lnk else pure ret) :=
    keeps_ite (fun _ => flushFdb_blocked.keeps) fun _ => keeps_pure
  refine wp_bindIte (wp_mono (flushes v now) fun ret w now => ?_)
  exact finish_blocked.ifOk.keeps w now

theorem fsmRevert_keeps {rpl : PortIdx} : KeepsBlock good (fsmRevert lnk rpl rpl.other) := by
  intro s now
  refine wp_bind (wp_read ?_)
  refine wp_bindIte (wp_mono (blockUnlessBlocked_held now) fun ret t held => ?_)
  refine wp_bind (wp_mono (held.after nodeSchedTx_blocked) fun ret u held => ?_)
  refine wp_bind (wp_mono held.unblockOther fun ret v now => ?_)
  exact wp_ite (fun _ => flushFdb_blocked.keeps v now) fun _ => wp_pure now

/-! ### Handlers that move no port -/

theorem fsmClearCommon_blocked : Frames good Sys.blocked fsmClearCommon := by
  refine frames_read.bind fun n => frames_ite (fun _ => ?_) fun _ => ?_
  · refine nodeStartGuardTimer_blocked.bind fun _ => nodeSchedTx_blocked.bind fun ret => ?_
    refine frames_ite (fun _ => ?_) fun _ => ?_
    · exact nodeStartTimer_blocked.bind fun _ => finish_blocked.ifOk
    · exact frames_pure.bind fun _ => finish_blocked.ifOk
  · exact frames_pure.bind fun _ => finish_blocked.ifOk

theorem fsmClearSfProtection_blocked : Frames good Sys.blocked fsmClearSfProtection := by
  refine nodeStartGuardTimer_blocked.bind fun _ => nodeSchedTx_blocked.bind fun ret => ?_
  refine frames_read.bind fun n => frames_ite (fun _ => ?_) fun _ => ?_
  · exact nodeStartTimer_blocked.bind fun _ => finish_blocked.ifOk
  · exact frames_pure.bind fun _ => finish_blocked.ifOk

/-! ### Handlers -/

theorem fsmFsFs_keeps : KeepsBlock good (fsmFsFs lnk) := by
  intro s now
  refine wp_bind (wp_mono (linkBlock_blocks now) fun ret t held => ?_)
  exact (nodeSchedTx_blocked.ifOk.bind fun _ => flushFdb_blocked.ifOk).keeps t held.1

theorem fsmClearPending_keeps : KeepsBlock good (fsmClearPending lnk) := by
  refine ownerStopTimers_blocked.keeps.bind fun _ => keeps_read fun n => ?_
  rcases rpl : n.getRpl with _ | i
  · exact (frames_pure.bind fun _ => finish_blocked.ifOk).keeps
  · exact fsmRevert_keeps.bind fun _ => finish_blocked.ifOk.keeps

theorem assertFails_blocked : Frames good Sys.blocked assertFails := by
  refine (frames_write fun s => ?_).bind fun _ => frames_pure
  rfl

theorem fsmTimerExpiresPending_keeps : KeepsBlock good (fsmTimerExpiresPending lnk) := by
  refine keeps_read fun n => ?_
  rcases rpl : n.getRpl with _ | i
  · exact assertFails_blocked.keeps
  · exact fsmRevert_keeps.bind fun _ => finish_blocked.ifOk.keeps

/-- Both expiries. -/
theorem timerExpires_keeps {item : WorkItem} : KeepsBlock good (do
    if ← read fun s => s.node.rplOwner then
      kWorkCancelDelayable item
      fsmTimerExpiresPending lnk
    else
      return 0) := by
  refine keeps_read fun owner => keeps_ite (fun _ => ?_) fun _ => keeps_pure
  exact kWorkCancelDelayable_blocked.keeps.bind fun _ => fsmTimerExpiresPending_keeps

theorem thenOwnerStopTimers_keeps {m : M Int} (h : KeepsBlock good m) :
    KeepsBlock good (thenOwnerStopTimers m) := by
  refine h.bind fun ret => Keeps.ifOk ?_
  exact (ownerStopTimers_blocked.bind fun _ => frames_pure).keeps

/-! ### Posting -/

/-- The requests that do not come from another node. -/
def Request.isLocal : Request → Bool
  | .rapsFs | .rapsSf | .rapsMs | .rapsNrRb | .rapsNr => false
  | _ => true

section
variable {req : Request} {pdu : Option RapsPdu}

theorem fsmPostIdle_keeps (here : req.isLocal = true) :
    KeepsBlock good (fsmPostIdle lnk req pdu) := by
  cases req with
  | clear | clearSf | wtrExpires | wtrRunning | wtbExpires | wtbRunning | invalid =>
    exact keeps_pure
  | fs | sf | ms => exact fsmFsSfMs_keeps
  | rapsFs | rapsSf | rapsMs | rapsNrRb | rapsNr => cases here

theorem fsmPostProtection_keeps (here : req.isLocal = true) :
    KeepsBlock good (fsmPostProtection lnk req) := by
  cases req with
  | clear | ms | wtrExpires | wtrRunning | wtbExpires | wtbRunning | invalid =>
    exact keeps_pure
  | fs | sf => exact fsmFsSfMs_keeps
  | clearSf => exact fsmClearSfProtection_blocked.keeps
  | rapsFs | rapsSf | rapsMs | rapsNrRb | rapsNr => cases here

theorem fsmPostManualSwitch_keeps (here : req.isLocal = true) :
    KeepsBlock good (fsmPostManualSwitch lnk req) := by
  cases req with
  | clearSf | ms | wtrExpires | wtrRunning | wtbExpires | wtbRunning | invalid =>
    exact keeps_pure
  | clear => exact fsmClearCommon_blocked.keeps
  | fs | sf => exact fsmFsSfMs_keeps
  | rapsFs | rapsSf | rapsMs | rapsNrRb | rapsNr => cases here

theorem fsmPostForcedSwitch_keeps (here : req.isLocal = true) :
    KeepsBlock good (fsmPostForcedSwitch lnk req) := by
  cases req with
  | sf | clearSf | ms | wtrExpires | wtrRunning | wtbExpires | wtbRunning | invalid =>
    exact keeps_pure
  | clear => exact fsmClearCommon_blocked.keeps
  | fs => exact fsmFsFs_keeps
  | rapsFs | rapsSf | rapsMs | rapsNrRb | rapsNr => cases here

theorem fsmPostPending_keeps (here : req.isLocal = true) :
    KeepsBlock good (fsmPostPending lnk req pdu) := by
  cases req with
  | clearSf | wtrRunning | wtbRunning | invalid => exact keeps_pure
  | clear => exact fsmClearPending_keeps
  | fs | sf => exact thenOwnerStopTimers_keeps fsmFsSfMs_keeps
  | ms => exact ownerStopTimers_blocked.keeps.bind fun _ => fsmFsSfMs_keeps
  | wtrExpires | wtbExpires => exact timerExpires_keeps
  | rapsFs | rapsSf | rapsMs | rapsNrRb | rapsNr => cases here

theorem fsmPost_keeps (here : req.isLocal = true) : KeepsBlock good (fsmPost lnk req pdu) := by
  refine frames_call.keeps.bind fun ret => keeps_ite (fun _ => keeps_pure) fun _ => ?_
  have marks : Frames good Sys.blocked (write fun s => if req = .sf then
      s.modLink lnk fun l => { l with failed := true } else s) := by
    refine frames_write fun s => ?_
    split
    · exact s.modLink_blocked lnk _ fun _ => rfl
    · rfl
  unfold fsmPostLocked
  refine keeps_bindWhen (fun _ => kWorkCancelDelayable_blocked.keeps) ?_
  refine fsmResolveReqPrio_blocked.keeps.bind fun ret => ?_
  refine keeps_ite (fun _ => keeps_pure) fun _ => marks.keeps.bind fun _ => ?_
  refine keeps_read fun s => keeps_ite (fun _ => keeps_pure) fun _ => ?_
  cases s.node.state with
  | idle => exact fsmPostIdle_keeps here
  | protection => exact fsmPostProtection_keeps here
  | manualSwitch => exact fsmPostManualSwitch_keeps here
  | forcedSwitch => exact fsmPostForcedSwitch_keeps here
  | pending => exact fsmPostPending_keeps here
  | uninit => exact keeps_pure

end

/-! ### Events -/

/-- The events that come from the node itself: control requests and timers. -/
def Event.isLocal : Event → Bool
  | .ctl _ _ | .expiry _ | .fire _ | .handle _ => true
  | .raps _ _ _ | .elapse _ | .iface _ _ => false

theorem Expiry.fire_blocked {t : Expiry} : Frames good Sys.blocked t.fire :=
  frames_write fun s => s.modWork_blocked t.item _

theorem Expiry.handle_keeps {t : Expiry} : KeepsBlock good t.handle := by
  have finishes : Frames good Sys.blocked t.finish :=
    frames_write fun s => s.modWork_blocked t.item _
  have posts {lnk : PortIdx} {req : Request} (here : req.isLocal = true) :
      KeepsBlock good (do let _ ← fsmPost lnk req none) :=
    (fsmPost_keeps here).bind fun _ => keeps_pure
  refine Keeps.bind ?_ fun _ => finishes.keeps
  cases t with
  | wtr | wtb => exact posts rfl
  | linkDown lnk =>
    refine keeps_read fun dev => netIfLookupByDev_frames.keeps.bind fun found => ?_
    exact keeps_ite (fun _ => posts rfl) fun _ => keeps_pure

theorem event_keeps {e : Event} (here : e.isLocal = true) : KeepsBlock good e.prog := by
  cases e with
  | ctl lnk ev =>
    have here : ev.request.isLocal = true := by cases ev <;> rfl
    exact (fsmPost_keeps here).bind fun _ => keeps_pure
  | expiry t => exact t.fire_blocked.keeps.bind fun _ => t.handle_keeps
  | fire t => exact t.fire_blocked.keeps
  | handle t => exact t.handle_keeps
  | raps lnk req pdu | elapse ms | iface lnk up => cases here

/-- Whatever the state of the node and whatever the calls answer, a local event that
finds a port blocked leaves one blocked at every point. -/
theorem local_event_keeps_block {s : Sys} {e : Event} (here : e.isLocal = true)
    (blocked : s.node.anyLinkBlocked = true) (ans : Answers KernelCall) :
    (∀ t ∈ e.prog.trace ans s, t.node.anyLinkBlocked = true) ∧
      (e.prog.final ans s).node.anyLinkBlocked = true := by
  have keeps : KeepsBlock anyAnswer e.prog := event_keeps here
  have runs := keeps s (Ports.any_iff.mpr blocked)
  constructor
  · intro t passed
    exact Ports.any_iff.mp (runs.passes ans (respects_any ans) t passed)
  · exact Ports.any_iff.mp (runs.post ans (respects_any ans))

/-- A manual switch on the RPL owner, which cannot then open the RPL. -/
theorem local_event_keeps_block_owner :
    (∀ t ∈ (Event.ctl .port0 .admManualSwitch).prog.trace refusesOpening
        (sampleNode true false (sampleDevice 0 1) (sampleDevice 1 2)).started,
      t.node.anyLinkBlocked = true) ∧
    ((Event.ctl .port0 .admManualSwitch).prog.final refusesOpening
        (sampleNode true false (sampleDevice 0 1) (sampleDevice 1 2)).started).node.anyLinkBlocked =
      true :=
  local_event_keeps_block rfl (by decide) refusesOpening

end Erps
