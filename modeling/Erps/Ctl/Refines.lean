import Erps.Ctl.Leads

/-!
# The program refines the state machine

Each program of the FSM, started in any system and with all its calls succeeding,
leads to the state that the function of the same name computes. From the handlers
this goes up to posts, events, steps and the initialisation.
-/
namespace Erps

open Calls

/-! ### Common handlers -/

theorem transition_leads (s : Sys) (next : NodeState) :
    Leads (fsmTransition next) s () (s.ctl.goto next) :=
  leads_write rfl

/-- The way a handler ends once its calls have succeeded. -/
theorem finish_leads (s : Sys) (next : NodeState) :
    Leads (do fsmTransition next; return (0 : Int)) s 0 (s.ctl.goto next) :=
  (transition_leads s next).bind fun _ same _ => leads_pure same

theorem blockUnlessBlocked_leads (s : Sys) (lnk : PortIdx) :
    Leads (if s.ctl.blocked.get lnk then pure 0 else linkBlock lnk) s 0 (s.ctl.block lnk) := by
  refine Leads.ite (fun blocked => leads_pure ?_) fun _ => linkBlock_leads s lnk
  rw [Ctl.block, Ports.modify_same blocked]

theorem flushIf_leads (s : Sys) (lnk : PortIdx) (p : Prop) [Decidable p] :
    Leads (if p then flushFdb lnk else pure 0) s 0 s.ctl :=
  Leads.ite (fun _ => flushFdb_leads s lnk) fun _ => leads_pure rfl

theorem fsmFsSfMs_leads (s : Sys) (lnk : PortIdx) {reqState : UInt8} (next : NodeState)
    (valid : validReqState reqState = true) :
    Leads (fsmFsSfMs lnk reqState next) s 0
      (s.ctl.fsSfMs s.setup.up lnk reqState next) := by
  refine leads_read ?_
  rw [Sys.link_blocked]
  refine (blockUnlessBlocked_leads s lnk).bindIte fun t blocks setup => ?_
  refine (nodeSchedTx_leads t _ valid).bindOk fun u sends setup' => ?_
  refine (linkUnblock_leads u lnk.other).bindOk fun v unblocks _ => ?_
  refine (flushIf_leads v lnk _).bindIte fun w same _ => ?_
  refine (finish_leads w next).ok.cast ?_
  rw [same, unblocks, sends, setup, blocks]
  rfl

theorem fsmUnblockAndStop_leads (s : Sys) (onlyNonFailed : Bool) (next : NodeState) :
    Leads (fsmUnblockAndStop onlyNonFailed next) s 0
      (s.ctl.unblockAndStop onlyNonFailed next) := by
  have opens : Leads (if onlyNonFailed = true then nodeUnblockNonFailed else nodeUnblockAll) s 0
      (if onlyNonFailed then s.ctl.unblockNonFailed else s.ctl.unblockAll) := by
    cases onlyNonFailed with
    | true => exact nodeUnblockNonFailed_leads s
    | false => exact nodeUnblockAll_leads s
  refine opens.bindIte fun t unblocks _ => Leads.ok ?_
  refine (nodeStopTx_leads t).bind fun u stops _ => ?_
  refine (finish_leads u next).cast ?_
  rw [stops, unblocks]
  rfl

theorem fsmMaybeUnblockAndStop_leads (s : Sys) (pdu : RapsPdu) :
    Leads (fsmMaybeUnblockAndStop (some pdu)) s 0
      (s.ctl.maybeUnblockAndStop (s.setup.outranked pdu)) := by
  refine (linkGetNodeId_leads s).bind fun t same setup => ?_
  refine Leads.ite (by simp) fun _ => ?_
  refine Leads.ite (fun lower => leads_pure ?_) fun higher => ?_
  · have outranks : s.setup.outranked pdu = false := by simpa [Setup.outranked] using lower
    simpa [Ctl.maybeUnblockAndStop, outranks] using same
  · have outranks : s.setup.outranked pdu = true := by simpa [Setup.outranked] using higher
    refine (nodeUnblockNonFailed_leads t).bind fun u unblocks _ => Leads.ok ?_
    refine (nodeStopTx_leads u).bind fun v stops _ => leads_pure ?_
    rw [stops, unblocks, same]
    simp [Ctl.maybeUnblockAndStop, outranks]

theorem nodeStartGuardTimer_leads (s : Sys) : Leads nodeStartGuardTimer s () s.ctl :=
  leads_write rfl

theorem startIfReverting_leads (s : Sys) (t : Timer) {p : Prop} [Decidable p]
    (p_iff : p ↔ s.ctl.role = .owner ∧ s.ctl.revertive = true) :
    Leads (if p then nodeStartTimer t else pure 0) s 0 (s.ctl.startIfReverting t) := by
  simp only [p_iff, Ctl.startIfReverting]
  refine Leads.ite (fun reverting => ?_) fun reverting => leads_pure ?_
  · rw [if_pos reverting]
    exact startTimer_leads s t
  · rw [if_neg reverting]

theorem fsmClearCommon_leads (s : Sys) :
    Leads fsmClearCommon s 0 (s.ctl.clearCommon s.setup.up) := by
  refine leads_read ?_
  refine Leads.ite (fun blocked => ?_) fun opened => ?_
  · have blocked' : s.ctl.anyBlocked = true := blocked
    refine (nodeStartGuardTimer_leads s).bind fun t same setup => ?_
    refine (nodeSchedTx_leads t 0 (by decide)).bind fun u sends _ => ?_
    rw [same, setup] at sends
    refine (startIfReverting_leads u .wtb ?_).bindIte fun v starts _ => ?_
    · rw [sends, eq_self, true_and]
      exact s.reverts_iff
    · refine (finish_leads v .pending).ok.cast ?_
      rw [starts, sends]
      simp [Ctl.clearCommon, blocked']
  · have opened' : s.ctl.anyBlocked = false := Bool.eq_false_iff.mpr opened
    refine (leads_pure rfl).bind fun t same _ => ?_
    refine (finish_leads t .pending).ok.cast ?_
    rw [same]
    simp [Ctl.clearCommon, opened']

/-! ### Handlers of the states -/

theorem fsmRapsNrRbIdle_leads (s : Sys) (formed : s.setup.WellFormed) :
    Leads fsmRapsNrRbIdle s 0 s.ctl.rapsNrRbIdle := by
  refine leads_read ?_
  rw [Sys.getRpl_eq s formed, Sys.owner_eq]
  cases role : s.ctl.role with
  | owner =>
    refine (linkUnblock_leads s .port0).bind fun t unblocks _ => ?_
    refine (Leads.ite (fun _ => leads_pure ?_) (by simp)).ok
    rw [unblocks, Ctl.rapsNrRbIdle, role]
  | nbr =>
    refine (linkUnblock_leads s .port0).bind fun t unblocks _ => ?_
    refine (Leads.ite (by simp) fun _ => ?_).ok
    refine (nodeStopTx_leads t).bind fun u stops _ => leads_pure ?_
    rw [stops, unblocks, Ctl.rapsNrRbIdle, role]
  | plain =>
    refine (leads_pure rfl).bind fun t same _ => ?_
    refine (Leads.ite (by simp) fun _ => ?_).ok
    refine (nodeStopTx_leads t).bind fun u stops _ => leads_pure ?_
    rw [stops, same, Ctl.rapsNrRbIdle, role]

theorem fsmRapsNrIdle_leads (s : Sys) (pdu : RapsPdu) :
    Leads (fsmRapsNrIdle (some pdu)) s 0 (s.ctl.rapsNrIdle (s.setup.outranked pdu)) := by
  refine leads_read ?_
  simp only [Sys.ringRole_iff]
  refine Leads.ite (fun ringRole => leads_pure ?_) fun plain => ?_
  · cases role : s.ctl.role <;> simp_all [Ctl.rapsNrIdle]
  · have role : s.ctl.role = .plain := not_not.mp plain
    exact (fsmMaybeUnblockAndStop_leads s pdu).cast (by simp [Ctl.rapsNrIdle, role])

theorem fsmClearSfProtection_leads (s : Sys) :
    Leads fsmClearSfProtection s 0 (s.ctl.clearSfProtection s.setup.up) := by
  refine (nodeStartGuardTimer_leads s).bind fun t same setup => ?_
  refine (nodeSchedTx_leads t 0 (by decide)).bind fun u sends _ => ?_
  rw [same, setup] at sends
  refine leads_read ?_
  refine (startIfReverting_leads u .wtr ?_).bindIte fun v starts _ => ?_
  · rw [eq_self, true_and]
    exact u.reverts_iff
  · refine (finish_leads v .pending).ok.cast ?_
    rw [starts, sends]
    rfl

theorem fsmRapsNr_leads (s : Sys) (t : Timer) (rb : Bool) :
    Leads (fsmRapsNr t rb) s 0 (s.ctl.rapsNrRest t rb) := by
  refine leads_read ?_
  have starts : Leads (if rb = false ∧ s.node.rplOwner = true ∧ s.node.revertive = true then
      nodeStartTimer t else pure 0) s 0 (if rb then s.ctl else s.ctl.startIfReverting t) := by
    cases rb with
    | true => exact Leads.ite (by simp) fun _ => leads_pure rfl
    | false =>
      refine startIfReverting_leads s t ?_
      rw [eq_self, true_and]
      exact s.reverts_iff
  refine starts.bindIte fun u same _ => ?_
  refine (finish_leads u .pending).ok.cast ?_
  rw [same]
  rfl

theorem fsmRapsMsMs_leads (s : Sys) : Leads fsmRapsMsMs s 0 (s.ctl.rapsMsMs s.setup.up) := by
  refine leads_read ?_
  refine Leads.ite (fun blocked => ?_) fun opened => ?_
  · have blocked' : s.ctl.anyBlocked = true := blocked
    refine (nodeStartGuardTimer_leads s).bind fun t same setup => ?_
    refine (nodeSchedTx_leads t 0 (by decide)).bind fun u sends _ => ?_
    rw [same, setup] at sends
    refine Leads.ite (fun reverting => ?_) fun staying => ?_
    · have reverting' := s.reverts_iff.mp reverting.2
      refine (startTimer_leads u .wtb).bind fun v starts _ => ?_
      refine (leads_pure rfl).bind fun w same' _ => ?_
      refine (finish_leads w .pending).ok.cast ?_
      rw [same', starts, sends]
      simp only [Ctl.rapsMsMs, blocked', if_true, Ctl.send, reverting', and_self]
    · have staying' := mt s.reverts_iff.mpr fun reverting => staying ⟨rfl, reverting⟩
      refine (leads_pure rfl).bind fun v same' _ => ?_
      refine (finish_leads v .manualSwitch).ok.cast ?_
      rw [same', sends]
      simp only [Ctl.rapsMsMs, blocked', if_true, Ctl.send, staying', if_false]
  · have opened' : s.ctl.anyBlocked = false := Bool.eq_false_iff.mpr opened
    refine (leads_pure rfl).bind fun t same _ => ?_
    refine (finish_leads t .manualSwitch).ok.cast ?_
    rw [same]
    simp [Ctl.rapsMsMs, opened']

theorem fsmFsFs_leads (s : Sys) (lnk : PortIdx) :
    Leads (fsmFsFs lnk) s 0 (s.ctl.fsFs s.setup.up lnk) := by
  refine (linkBlock_leads s lnk).bind fun t blocks setup => ?_
  refine (nodeSchedTx_leads t 0 (by decide)).bindOk fun u sends _ => ?_
  refine (flushFdb_leads u lnk).ok.cast ?_
  rw [sends, setup, blocks]
  rfl

theorem ownerStopTimers_leads (s : Sys) : Leads ownerStopTimers s () s.ctl.ownerStop := by
  refine leads_read ?_
  rw [Sys.owner_eq]
  refine Leads.ite (fun owner => ?_) fun other => leads_pure ?_
  · refine (stopTimer_leads s .wtr).bind fun t stops _ => ?_
    refine (stopTimer_leads t .wtb).cast ?_
    rw [stops, Ctl.ownerStop, if_pos (by simpa using owner)]
  · rw [Ctl.ownerStop, if_neg (by simpa using other)]

theorem fsmRevert_leads (s : Sys) (lnk : PortIdx) :
    Leads (fsmRevert lnk .port1 .port0) s 0 (s.ctl.revert s.setup.up) := by
  refine leads_read ?_
  rw [Sys.link_blocked]
  refine (blockUnlessBlocked_leads s .port1).bindIte fun t blocks setup => ?_
  refine (nodeSchedTx_leads t _ (by decide)).bindOk fun u sends setup' => ?_
  refine (linkUnblock_leads u .port0).bindOk fun v unblocks _ => ?_
  refine (flushIf_leads v lnk _).cast ?_
  rw [unblocks, sends, setup, blocks]
  rfl

theorem fsmClearPending_leads (s : Sys) (lnk : PortIdx) (formed : s.setup.WellFormed) :
    Leads (fsmClearPending lnk) s 0 (s.ctl.clearPending s.setup.up) := by
  refine (ownerStopTimers_leads s).bind fun t stops setup => ?_
  refine leads_read ?_
  rw [t.getRpl_eq (setup ▸ formed)]
  by_cases plain : t.ctl.role = .plain
  · rw [if_pos plain]
    refine (leads_pure rfl).bind fun u same _ => ?_
    refine (finish_leads u .idle).ok.cast ?_
    rw [stops] at plain same
    rw [same]
    simp [Ctl.clearPending, plain]
  · rw [if_neg plain]
    refine (fsmRevert_leads t lnk).bind fun u reverts _ => ?_
    refine (finish_leads u .idle).ok.cast ?_
    rw [stops] at plain
    rw [reverts, stops, setup]
    simp [Ctl.clearPending, plain]

theorem thenOwnerStopTimers_leads {s : Sys} {m : M Int} {c : Ctl} (h : Leads m s 0 c) :
    Leads (thenOwnerStopTimers m) s 0 c.ownerStop := by
  refine h.bind fun t same _ => Leads.ok ?_
  refine (ownerStopTimers_leads t).bind fun u stops _ => leads_pure ?_
  rw [stops, same]

theorem fsmMsPending_leads (s : Sys) (lnk : PortIdx) : Leads (fsmMsPending lnk) s 0
    (s.ctl.ownerStop.fsSfMs s.setup.up lnk rapsMs .manualSwitch) := by
  refine (ownerStopTimers_leads s).bind fun t stops setup => ?_
  refine (fsmFsSfMs_leads t lnk .manualSwitch (by decide)).cast ?_
  rw [stops, setup]

/-- Both expiries: the other timer is stopped before the ring reverts. -/
theorem timerExpires_leads (s : Sys) (lnk : PortIdx) (other : Timer)
    (formed : s.setup.WellFormed) :
    Leads (do
      if ← read fun s => s.node.rplOwner then
        kWorkCancelDelayable other.item
        fsmTimerExpiresPending lnk
      else
        return 0) s 0 (s.ctl.timerExpiresPending s.setup.up other) := by
  refine leads_read ?_
  rw [Sys.owner_eq]
  refine Leads.ite (fun owner => ?_) fun rest => leads_pure ?_
  · have owner' : s.ctl.role = .owner := by simpa using owner
    refine (stopTimer_leads s other).bind fun t stops setup => ?_
    refine leads_read ?_
    have rpl : t.node.getRpl = some .port1 := by
      rw [t.getRpl_eq (setup ▸ formed), stops]
      cases other <;> simp [Ctl.stop, Ctl.modTimer, owner']
    rw [rpl]
    refine (fsmRevert_leads t lnk).bind fun u reverts _ => ?_
    refine (finish_leads u .idle).ok.cast ?_
    rw [reverts, stops, setup]
    simp [Ctl.timerExpiresPending, owner']
  · rw [Ctl.timerExpiresPending, if_neg (by simpa using rest)]

theorem fsmRapsNrRbPending_leads (s : Sys) (formed : s.setup.WellFormed) :
    Leads fsmRapsNrRbPending s 0 s.ctl.rapsNrRbPending := by
  refine leads_read ?_
  have rpl := s.getRpl_eq formed
  have oneRole : (s.node.rplOwner && s.node.rplNbr) = false := formed.oneRole
  cases owns : s.node.rplOwner <;> cases neighbours : s.node.rplNbr
  case false.false =>
    have role : s.ctl.role = .plain := by simp [Sys.ctl, Setup.role, Sys.setup, owns, neighbours]
    refine (nodeUnblockAll_leads s).bind fun t unblocks _ => ?_
    have stops : Leads (do nodeStopTx; return (0 : Int)) t 0 t.ctl.silence :=
      (nodeStopTx_leads t).bind fun u same _ => leads_pure same
    refine stops.bindOk fun u stops _ => ?_
    refine (finish_leads u .idle).ok.cast ?_
    rw [stops, unblocks]
    simp [Ctl.rapsNrRbPending, role]
  case false.true =>
    have role : s.ctl.role = .nbr := by simp [Sys.ctl, Setup.role, Sys.setup, owns, neighbours]
    rw [rpl, role]
    refine (linkBlock_leads s .port1).bind fun t blocks _ => ?_
    refine (linkUnblock_leads t .port0).bindOk fun u unblocks _ => ?_
    have stops : Leads (do nodeStopTx; return (0 : Int)) u 0 u.ctl.silence :=
      (nodeStopTx_leads u).bind fun v same _ => leads_pure same
    refine stops.bindOk fun v stops _ => ?_
    refine (finish_leads v .idle).ok.cast ?_
    rw [stops, unblocks, blocks]
    simp [Ctl.rapsNrRbPending, role]
  case true.false =>
    have role : s.ctl.role = .owner := by simp [Sys.ctl, Setup.role, Sys.setup, owns]
    refine (stopTimer_leads s .wtr).bind fun t stops _ => ?_
    refine (stopTimer_leads t .wtb).bind fun u stops' _ => ?_
    refine (leads_pure rfl).bind fun v same _ => ?_
    refine (finish_leads v .idle).ok.cast ?_
    rw [same, stops', stops]
    simp [Ctl.rapsNrRbPending, role]
  case true.true =>
    simp [owns, neighbours] at oneRole

/-! ### Posting -/

/-- What the handlers need of the PDU: received requests carry one. -/
def Carries (req : Request) (pdu : Option RapsPdu) : Prop := req = .rapsNr → pdu.isSome = true

/-- What the state machine sees of a PDU and of the setup. -/
def Setup.seenWith (u : Setup) (pdu : Option RapsPdu) : Ctl.Seen :=
  ⟨pdu.any u.outranked, u.up⟩

theorem fsmPostIdle_leads (s : Sys) (lnk : PortIdx) (req : Request) (pdu : Option RapsPdu)
    (carries : Carries req pdu) (valid : req ≠ .invalid) (formed : s.setup.WellFormed) :
    Leads (fsmPostIdle lnk req pdu) s 0 (s.ctl.postIdle (s.setup.seenWith pdu) lnk req) := by
  cases req with
  | clear | clearSf | wtrExpires | wtrRunning | wtbExpires | wtbRunning => exact leads_pure rfl
  | fs => exact fsmFsSfMs_leads s lnk .forcedSwitch (by decide)
  | rapsFs => exact fsmUnblockAndStop_leads s false .forcedSwitch
  | sf => exact fsmFsSfMs_leads s lnk .protection (by decide)
  | rapsSf => exact fsmUnblockAndStop_leads s true .protection
  | rapsMs => exact fsmUnblockAndStop_leads s true .manualSwitch
  | ms => exact fsmFsSfMs_leads s lnk .manualSwitch (by decide)
  | rapsNrRb => exact fsmRapsNrRbIdle_leads s formed
  | rapsNr =>
    obtain ⟨received, rfl⟩ := Option.isSome_iff_exists.mp (carries rfl)
    exact fsmRapsNrIdle_leads s received
  | invalid => exact absurd rfl valid

theorem fsmPostProtection_leads (s : Sys) (pdu : Option RapsPdu) (lnk : PortIdx)
    (req : Request) (valid : req ≠ .invalid) :
    Leads (fsmPostProtection lnk req) s 0 (s.ctl.postProtection (s.setup.seenWith pdu) lnk req) := by
  cases req with
  | clear | rapsSf | rapsMs | ms | wtrExpires | wtrRunning | wtbExpires | wtbRunning =>
    exact leads_pure rfl
  | fs => exact fsmFsSfMs_leads s lnk .forcedSwitch (by decide)
  | rapsFs => exact fsmUnblockAndStop_leads s false .forcedSwitch
  | sf => exact fsmFsSfMs_leads s lnk .protection (by decide)
  | clearSf => exact fsmClearSfProtection_leads s
  | rapsNrRb => exact fsmRapsNr_leads s .wtr true
  | rapsNr => exact fsmRapsNr_leads s .wtr false
  | invalid => exact absurd rfl valid

theorem fsmPostManualSwitch_leads (s : Sys) (pdu : Option RapsPdu) (lnk : PortIdx)
    (req : Request) (valid : req ≠ .invalid) :
    Leads (fsmPostManualSwitch lnk req) s 0 (s.ctl.postManualSwitch (s.setup.seenWith pdu) lnk req) := by
  cases req with
  | clearSf | ms | wtrExpires | wtrRunning | wtbExpires | wtbRunning => exact leads_pure rfl
  | clear => exact fsmClearCommon_leads s
  | fs => exact fsmFsSfMs_leads s lnk .forcedSwitch (by decide)
  | rapsFs => exact fsmUnblockAndStop_leads s false .forcedSwitch
  | sf => exact fsmFsSfMs_leads s lnk .protection (by decide)
  | rapsSf => exact fsmUnblockAndStop_leads s true .protection
  | rapsMs => exact fsmRapsMsMs_leads s
  | rapsNrRb => exact fsmRapsNr_leads s .wtb true
  | rapsNr => exact fsmRapsNr_leads s .wtb false
  | invalid => exact absurd rfl valid

theorem fsmPostForcedSwitch_leads (s : Sys) (pdu : Option RapsPdu) (lnk : PortIdx)
    (req : Request) (valid : req ≠ .invalid) :
    Leads (fsmPostForcedSwitch lnk req) s 0 (s.ctl.postForcedSwitch (s.setup.seenWith pdu) lnk req) := by
  cases req with
  | rapsFs | sf | clearSf | rapsSf | rapsMs | ms | wtrExpires | wtrRunning | wtbExpires
  | wtbRunning => exact leads_pure rfl
  | clear => exact fsmClearCommon_leads s
  | fs => exact fsmFsFs_leads s lnk
  | rapsNrRb => exact fsmRapsNr_leads s .wtb true
  | rapsNr => exact fsmRapsNr_leads s .wtb false
  | invalid => exact absurd rfl valid

theorem fsmPostPending_leads (s : Sys) (lnk : PortIdx) (req : Request) (pdu : Option RapsPdu)
    (carries : Carries req pdu) (valid : req ≠ .invalid) (formed : s.setup.WellFormed) :
    Leads (fsmPostPending lnk req pdu) s 0
      (s.ctl.postPending (s.setup.seenWith pdu) lnk req) := by
  cases req with
  | clearSf | wtrRunning | wtbRunning => exact leads_pure rfl
  | clear => exact fsmClearPending_leads s lnk formed
  | fs => exact thenOwnerStopTimers_leads (fsmFsSfMs_leads s lnk .forcedSwitch (by decide))
  | rapsFs => exact thenOwnerStopTimers_leads (fsmUnblockAndStop_leads s false .forcedSwitch)
  | sf => exact thenOwnerStopTimers_leads (fsmFsSfMs_leads s lnk .protection (by decide))
  | rapsSf => exact thenOwnerStopTimers_leads (fsmUnblockAndStop_leads s true .protection)
  | rapsMs => exact thenOwnerStopTimers_leads (fsmUnblockAndStop_leads s true .manualSwitch)
  | ms => exact fsmMsPending_leads s lnk
  | wtrExpires => exact timerExpires_leads s lnk .wtb formed
  | wtbExpires => exact timerExpires_leads s lnk .wtr formed
  | rapsNrRb => exact fsmRapsNrRbPending_leads s formed
  | rapsNr =>
    obtain ⟨received, rfl⟩ := Option.isSome_iff_exists.mp (carries rfl)
    exact fsmMaybeUnblockAndStop_leads s received
  | invalid => exact absurd rfl valid

theorem react_leads (s : Sys) (lnk : PortIdx) (req : Request) (pdu : Option RapsPdu)
    (carries : Carries req pdu) (valid : req ≠ .invalid) (formed : s.setup.WellFormed) :
    Leads (match s.node.state with
      | .idle => fsmPostIdle lnk req pdu
      | .protection => fsmPostProtection lnk req
      | .manualSwitch => fsmPostManualSwitch lnk req
      | .forcedSwitch => fsmPostForcedSwitch lnk req
      | .pending => fsmPostPending lnk req pdu
      | .uninit => return 0) s 0 (s.ctl.react (s.setup.seenWith pdu) lnk req) := by
  have state : s.ctl.state = s.node.state := rfl
  rw [Ctl.react, state]
  cases s.node.state with
  | idle => exact fsmPostIdle_leads s lnk req pdu carries valid formed
  | protection => exact fsmPostProtection_leads s pdu lnk req valid
  | manualSwitch => exact fsmPostManualSwitch_leads s pdu lnk req valid
  | forcedSwitch => exact fsmPostForcedSwitch_leads s pdu lnk req valid
  | pending => exact fsmPostPending_leads s lnk req pdu carries valid formed
  | uninit => exact leads_pure rfl

theorem fsmPostLocked_leads (s : Sys) (lnk : PortIdx) (req : Request) (pdu : Option RapsPdu)
    (carries : Carries req pdu) (valid : req ≠ .invalid) (formed : s.setup.WellFormed) :
    Leads (fsmPostLocked lnk req pdu) s 0 (s.ctl.post (s.setup.seenWith pdu) lnk req) := by
  have cancels : Leads (if req = .clearSf then kWorkCancelDelayable (.linkDown lnk) else pure ())
      s () s.ctl := by
    refine Leads.ite (fun _ => ?_) fun _ => leads_pure rfl
    refine wp_write trivial ⟨rfl, ?_, ?_⟩ <;> cases lnk <;> rfl
  unfold fsmPostLocked
  refine wp_bindWhen (wp_mono cancels ?_)
  rintro _ t ⟨-, same, setup⟩
  rw [← same, ← setup]
  rw [← setup] at formed
  refine wp_bind (wp_mono (wp_resolve t req) ?_)
  rintro ret u ⟨rfl, rfl⟩
  by_cases passes : t.ctl.Passes req
  · simp only [passes, if_true]
    refine wp_ite (fun busy => absurd busy (by decide)) fun _ => ?_
    have marks : Leads (write fun s => if req = .sf then
        s.modLink lnk fun l => { l with failed := true } else s) (t.taken req) ()
        (t.ctl.take lnk req) := by
      refine wp_write trivial ⟨rfl, ?_, ?_⟩
      · simp only [Ctl.take]
        split <;> cases lnk <;> rfl
      · split <;> cases lnk <;> rfl
    refine marks.bind fun v takes setup' => leads_read ?_
    have sameSetup : v.setup = t.setup := setup'.trans rfl
    have ignores_iff : (req = .clearSf ∧ (v.link lnk).rpl = true ∧ v.node.state ≠ .protection) ↔
        (t.ctl.take lnk req).ignores lnk req := by
      have state : v.node.state = (t.ctl.take lnk req).state := congrArg Ctl.state takes
      have role : v.setup.role = (t.ctl.take lnk req).role := congrArg Ctl.role takes
      have rpl : (v.link lnk).rpl = true ↔ lnk = .port1 ∧ v.setup.role ≠ .plain := by
        have ports : v.node.ports.map Link.rpl = ⟨false, decide (v.setup.role ≠ .plain)⟩ :=
          (sameSetup ▸ formed).rpl
        cases lnk with
        | port0 =>
          have never : (v.link .port0).rpl = false := congrArg Ports.port0 ports
          simp [never]
        | port1 =>
          have exactly : (v.link .port1).rpl = decide (v.setup.role ≠ .plain) :=
            congrArg Ports.port1 ports
          simp [exactly]
      rw [rpl, state, role]
      simp only [Ctl.ignores, and_assoc]
    refine Leads.ite (fun ignored => leads_pure ?_) fun heard => ?_
    · rw [Ctl.post, if_pos passes, if_pos (ignores_iff.mp ignored)]
      exact takes
    · refine (react_leads v lnk req pdu carries valid (sameSetup ▸ formed)).cast ?_
      rw [Ctl.post, if_pos passes, if_neg (mt ignores_iff.mpr heard), takes, sameSetup]
  · simp only [passes, if_false]
    refine wp_ite (fun _ => wp_pure ⟨rfl, ?_, rfl⟩) fun ok => absurd trivial ok
    rw [Ctl.post, if_neg passes]

theorem fsmPost_leads (s : Sys) (lnk : PortIdx) (req : Request) (pdu : Option RapsPdu)
    (carries : Carries req pdu) (valid : req ≠ .invalid) (formed : s.setup.WellFormed) :
    Leads (fsmPost lnk req pdu) s 0 (s.ctl.post (s.setup.seenWith pdu) lnk req) := by
  refine wp_bind (wp_call fun ret locked => ?_)
  have locked' : ret = 0 := locked
  refine wp_ite (fun failed => absurd locked' failed) fun _ => ?_
  exact fsmPostLocked_leads s lnk req pdu carries valid formed

/-! ### Events -/

theorem fire_leads (s : Sys) (t : Expiry) : Leads t.fire s () (s.ctl.fireExpiry t) := by
  cases t with
  | wtr | wtb => exact leads_write rfl
  | linkDown lnk => refine wp_write trivial ⟨rfl, ?_, ?_⟩ <;> cases lnk <;> rfl

theorem finishTimer_leads (s : Sys) (t : Timer) :
    Leads (write fun s => s.modWork t.item fun w => { w with running := false }) s ()
      (s.ctl.finish t) := by
  refine wp_write trivial ⟨rfl, ?_, ?_⟩ <;> cases t <;> rfl

theorem handle_leads (s : Sys) (t : Expiry) (formed : s.setup.WellFormed) :
    Leads t.handle s () (s.ctl.handle (s.setup.seenWith none) t) := by
  have posts (lnk : PortIdx) (req : Request) (valid : req ≠ .invalid) (silent : req ≠ .rapsNr) :
      Leads (do let _ ← fsmPost lnk req none) s ()
        (s.ctl.post (s.setup.seenWith none) lnk req) :=
    (fsmPost_leads s lnk req none (fun received => absurd received silent) valid formed).bind
      fun _ same _ => leads_pure same
  cases t with
  | wtr =>
    refine (posts .port0 .wtrExpires (by decide) (by decide)).bind fun u same _ => ?_
    exact (finishTimer_leads u .wtr).cast (by rw [same]; rfl)
  | wtb =>
    refine (posts .port0 .wtbExpires (by decide) (by decide)).bind fun u same _ => ?_
    exact (finishTimer_leads u .wtb).cast (by rw [same]; rfl)
  | linkDown lnk =>
    have handler : Leads (linkDownWork lnk) s ()
        (s.ctl.post (s.setup.seenWith none) lnk .sf) := by
      refine wp_bind (wp_read (wp_bind (wp_lookup ?_)))
      exact posts lnk .sf (by decide) (by decide)
    refine handler.bind fun u same _ => ?_
    refine wp_write trivial ⟨rfl, ?_, ?_⟩
    · rw [Ctl.handle, ← same]
      cases lnk <;> rfl
    · cases lnk <;> rfl

/-- An event leads to the state the state machine steps to. -/
theorem event_leads (s : Sys) (e : Event) (formed : s.setup.WellFormed)
    (kept : ∀ lnk up, e ≠ .iface lnk up) :
    Leads e.prog s () (s.ctl.step (s.setup.seen e) e) := by
  cases e with
  | ctl lnk ev =>
    refine (fsmPost_leads s lnk ev.request none ?_ ?_ formed).bind fun _ same _ => leads_pure same
    · cases ev <;> simp [Carries, ErpsEvent.request]
    · cases ev <;> decide
  | raps lnk req pdu =>
    refine (fsmPost_leads s lnk req.request (some pdu) (fun _ => rfl) ?_ formed).bind
      fun _ same _ => leads_pure same
    cases req <;> decide
  | expiry t =>
    refine (fire_leads s t).bind fun u fired setup => ?_
    refine (handle_leads u t (setup ▸ formed)).cast ?_
    rw [fired, setup]
    rfl
  | fire t => exact fire_leads s t
  | handle t => exact handle_leads s t formed
  | elapse ms => exact leads_write rfl
  | iface lnk up => exact absurd rfl (kept lnk up)

/-- An interface going up or down is no event of the state machine, and of the setup it
changes only which interfaces are up. -/
theorem iface_leads (s : Sys) (lnk : PortIdx) (up : Bool) :
    wp Success anyState (Event.iface lnk up).prog (fun _ t => t.ctl = s.ctl ∧
      t.setup = { s.setup with ifUp := t.setup.ifUp }) s := by
  unfold Event.prog
  exact wp_write trivial ⟨rfl, rfl⟩

/-! ### Steps -/

section
variable {s : Sys} {x : Step}

/-- The state machine follows every step whose calls all succeed. -/
theorem Sys.step_ctl (formed : s.setup.WellFormed) (succeeds : x.Succeeds) :
    (s.step x).ctl = s.ctl.step (s.setup.seen x.1) x.1 := by
  obtain ⟨e, ans⟩ := x
  by_cases iface : ∃ lnk up, e = .iface lnk up
  · obtain ⟨lnk, up, rfl⟩ := iface
    exact ((iface_leads s lnk up).post ans succeeds).1
  · have kept : ∀ lnk up, e ≠ .iface lnk up := fun lnk up same => iface ⟨lnk, up, same⟩
    exact ((event_leads s e formed kept).post ans succeeds).2.1

theorem Sys.step_setup (formed : s.setup.WellFormed) (succeeds : x.Succeeds)
    (kept : ∀ lnk up, x.1 ≠ .iface lnk up) : (s.step x).setup = s.setup :=
  ((event_leads s x.1 formed kept).post x.2 succeeds).2.2

theorem Sys.step_formed (formed : s.setup.WellFormed) (succeeds : x.Succeeds) :
    (s.step x).setup.WellFormed := by
  obtain ⟨e, ans⟩ := x
  by_cases iface : ∃ lnk up, e = .iface lnk up
  · obtain ⟨lnk, up, rfl⟩ := iface
    have setup := ((iface_leads s lnk up).post ans succeeds).2
    exact setup ▸ ⟨formed.rpl, formed.oneRole⟩
  · rw [Sys.step_setup formed succeeds fun lnk up same => iface ⟨lnk, up, same⟩]
    exact formed

end

/-! ### Initialisation -/

theorem fsmInitRpl_leads (s : Sys) : Leads (fsmInitRpl s.node.rplOwner .port1 .port0) s 0
    ((((s.ctl.block .port1).unblock .port0).send s.setup.up rapsNr 0).startIfReverting .wtr) := by
  refine (linkBlock_leads s .port1).bind fun t blocks setup => ?_
  refine (linkUnblockForce_leads t .port0).bindOk fun u unblocks setup' => ?_
  refine (nodeSchedTx_leads u 0 (by decide)).bindOk fun v sends _ => ?_
  rw [unblocks, blocks, setup', setup] at sends
  refine leads_read ?_
  rw [Sys.owner_eq]
  refine (startIfReverting_leads v .wtr ?_).cast (by rw [sends])
  have revertive : v.node.revertive = v.ctl.revertive := rfl
  rw [eq_self, true_and, beq_iff_eq, revertive, sends]
  exact Iff.rfl

theorem fsmInitPlain_leads (s : Sys) : Leads fsmInitPlain s 0
    (((s.ctl.block .port0).unblock .port1).send s.setup.up rapsNr 0) := by
  refine (linkBlock_leads s .port0).bind fun t blocks setup => ?_
  refine (linkUnblockForce_leads t .port1).bindOk fun u unblocks setup' => ?_
  refine (nodeSchedTx_leads u 0 (by decide)).ok.cast ?_
  rw [unblocks, blocks, setup', setup]

/-- A node that is configured and not initialised, in the terms of the state machine. -/
structure Ctl.Fresh (c : Ctl) : Prop where
  state : c.state = .uninit
  topreq : c.topreq = .invalid
  blocked : c.blocked = ⟨false, false⟩
  failed : c.failed = ⟨false, false⟩
  wtr : c.wtr = ⟨false, false⟩
  wtb : c.wtb = ⟨false, false⟩

theorem Sys.Booted.fresh {s : Sys} (h : s.Booted) : s.ctl.Fresh := by
  obtain ⟨n, linkDown, configured, node, -⟩ := h
  have untouched := configured.untouched
  constructor
  · exact (congrArg Node.state node).trans untouched.uninit
  · simp [Sys.ctl, node, Node.prepared]
  · simpa [Sys.ctl, node, Node.prepared, Ports.map] using untouched.blocked
  · simpa [Sys.ctl, node, Node.prepared, Ports.map] using untouched.failed
  · simp [Sys.ctl, node, Node.prepared, DelayableWork.armed, DelayableWork.init,
      DelayableWork.scheduled]
  · simp [Sys.ctl, node, Node.prepared, DelayableWork.armed, DelayableWork.init,
      DelayableWork.scheduled]

theorem Sys.Booted.formed {s : Sys} (h : s.Booted) : s.setup.WellFormed := by
  obtain ⟨n, linkDown, configured, node, -⟩ := h
  obtain ⟨notPort0, role, oneRole, -, -⟩ := configured.wellFormed
  constructor
  · simp only [Sys.setup, node, Node.prepared, Ports.map, notPort0, role, Setup.role]
    cases n.rplOwner <;> cases n.rplNbr <;> rfl
  · simpa [Sys.setup, node, Node.prepared] using oneRole

theorem Ctl.Fresh.initRpl {c : Ctl} (fresh : c.Fresh) (up : Ports Bool)
    (ringRole : c.role ≠ .plain) :
    ((((c.block .port1).unblock .port0).send up rapsNr 0).startIfReverting .wtr).goto .pending =
      Ctl.booted c.role c.revertive up := by
  obtain ⟨role, revertive, state, topreq, blocked, failed, tx, rsSc, status, wtr, wtb⟩ := c
  obtain ⟨rfl, rfl, rfl, rfl, rfl, rfl⟩ := fresh
  cases role with
  | plain => exact absurd rfl ringRole
  | owner | nbr => rfl

theorem Ctl.Fresh.initPlain {c : Ctl} (fresh : c.Fresh) (up : Ports Bool)
    (plain : c.role = .plain) :
    (((c.block .port0).unblock .port1).send up rapsNr 0).goto .pending =
      Ctl.booted c.role c.revertive up := by
  obtain ⟨role, revertive, state, topreq, blocked, failed, tx, rsSc, status, wtr, wtb⟩ := c
  obtain ⟨rfl, rfl, rfl, rfl, rfl, rfl⟩ := fresh
  cases plain
  rfl

theorem fsmInit_leads (s : Sys) (formed : s.setup.WellFormed) (fresh : s.ctl.Fresh) :
    Leads fsmInit s 0 (Ctl.booted s.ctl.role s.ctl.revertive s.setup.up) := by
  refine (leads_write rfl).bind fun t same setup => ?_
  have same' : t.ctl = s.ctl := same
  rw [← same'] at fresh ⊢
  rw [← setup] at formed ⊢
  refine leads_read ?_
  simp only [Sys.ringRole_iff, t.getRpl_eq formed]
  refine Leads.ite (fun ringRole => ?_) fun plain => ?_
  · rw [if_neg ringRole]
    refine (fsmInitRpl_leads t).bind fun u inits _ => ?_
    refine (finish_leads u .pending).cast ?_
    rw [inits]
    exact fresh.initRpl t.setup.up ringRole
  · refine (fsmInitPlain_leads t).bind fun u inits _ => ?_
    refine (finish_leads u .pending).cast ?_
    rw [inits]
    exact fresh.initPlain t.setup.up (not_not.mp plain)

/-- What a successful `erps_fsm_init` leaves: a well-formed node that holds a block and
announces R-APS(NR). -/
theorem Initialised.booted {s : Sys} (h : Initialised s) :
    s.setup.WellFormed ∧ s.ctl = Ctl.booted s.setup.role s.setup.revertive s.setup.up := by
  obtain ⟨boot, ans, booted, succeeds, rfl⟩ := h
  obtain ⟨-, same, setup⟩ := (fsmInit_leads boot booted.formed booted.fresh).post ans succeeds
  have same' : (boot.initialise ans).ctl = _ := same
  have setup' : (boot.initialise ans).setup = boot.setup := setup
  rw [same', setup']
  exact ⟨booted.formed, rfl⟩

end Erps
