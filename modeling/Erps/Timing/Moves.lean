import Erps.Ctl.Refines
import Erps.Footprints

/-!
# What can happen to the timers

The state, the remembered request and the timers of a node after any request,
whichever calls fail: `Moves` lists the ways, `Posts` adds what comes before a
handler is reached. As in `Erps.Ctl.Reacts`, invariants are proved by one case for
each way.
-/
namespace Erps

open Calls

def Timer.other : Timer → Timer
  | wtr => wtb
  | wtb => wtr

def Timer.expires : Timer → Request
  | wtr => .wtrExpires
  | wtb => .wtbExpires

variable {good : KernelCall → Int → Prop}

namespace Ctl

/-- The ways in which a handler of `req` moves the state and the timers. -/
inductive Moves (good : KernelCall → Int → Prop) (c : Ctl) (req : Request) : Ctl → Prop where
  | stays : Moves good c req c
  | leaves {next : NodeState} (stopped : c.state = .pending → c.role ≠ .owner) :
      Moves good c req (c.goto next)
  | stops : Moves good c req c.ownerStop
  | stopsAndLeaves {next : NodeState} : Moves good c req (c.ownerStop.goto next)
  | expires {t : Timer} (posted : req = t.expires) : Moves good c req (c.stop t.other)
  | expiresAndLeaves {t : Timer} (posted : req = t.expires) :
      Moves good c req ((c.stop t.other).goto .idle)
  | starts {t : Timer} (reverting : c.role = .owner ∧ c.revertive = true)
      (elsewhere : c.state ≠ .pending) : Moves good c req ((c.start t).goto .pending)
  | startFails {t : Timer} {v : Int} (answered : good (.kWorkReschedule t.item) v) (refused : v < 0)
      (elsewhere : c.state ≠ .pending) : Moves good c req (c.rearm t false)

theorem timing_rearm (c : Ctl) (t : Timer) (scheduled : Bool) :
    (c.rearm t scheduled).timing = c.timing.rearm t scheduled := by
  have busy_eq : (c.timing.timer t).busy = (c.timer t).busy := by cases t <;> rfl
  simp only [rearm, busy_eq]
  split
  · rfl
  · have topreq : c.timing.topreq = c.topreq := rfl
    rw [topreq]
    split <;> cases t <;> rfl

theorem timing_start (c : Ctl) (t : Timer) : (c.start t).timing = c.timing.start t :=
  c.timing_rearm t true

/-- A handler that may or may not reach its transition. -/
def Ends (next : NodeState) (c : Ctl) (ret : Int) (d : Ctl) : Prop :=
  (ret = 0 ∧ d = c.goto next) ∨ (ret ≠ 0 ∧ d = c)

/-- One that may also start a timer before it leaves for pending. -/
inductive Starts (good : KernelCall → Int → Prop) (t : Timer) (c : Ctl) : Ctl → Prop where
  | stays : Starts good t c c
  | leaves {next : NodeState} : Starts good t c (c.goto next)
  | starts (reverting : c.role = .owner ∧ c.revertive = true) :
      Starts good t c ((c.start t).goto .pending)
  | startFails {v : Int} (answered : good (.kWorkReschedule t.item) v) (refused : v < 0) :
      Starts good t c (c.rearm t false)

end Ctl

/-- One that starts a timer only moves the state if it succeeds. -/
def Ctl.Begins (good : KernelCall → Int → Prop) (t : Timer) (c : Ctl) (ret : Int) (d : Ctl) : Prop :=
  c.Starts good t d ∧ (ret ≠ 0 → d.state = c.state)

/-- What a program does to the timers, as a relation on what it returns. -/
abbrev Times {α : Type} (good : KernelCall → Int → Prop) (R : Ctl → α → Ctl → Prop) (m : M α) :
    Prop :=
  Acts good Sys.timing (fun v a w => w.2 = v.2 ∧ R v.1 a w.1) m

/-! ### Operations -/

section
variable {lnk : PortIdx}

theorem nodeStartGuardTimer_timing : Frames good Sys.timing nodeStartGuardTimer :=
  nodeStartGuardTimer_muted.through fun v => (v.1.timing, v.2)

theorem assertFails_timing : Frames good Sys.timing assertFails := by
  refine (frames_write fun s => ?_).bind fun _ => frames_pure
  rfl

theorem finish_times {next : NodeState} {ret : Int} :
    Times good (Ctl.Ends next) (ifOk ret do fsmTransition next; return 0) := by
  refine acts_ite (fun _ => ?_) fun failed => acts_pure fun v => ⟨rfl, .inr ⟨failed, rfl⟩⟩
  intro s
  exact wp_bind (wp_write trivial (wp_pure ⟨rfl, .inl ⟨rfl, rfl⟩⟩))

theorem stopTimer_times (t : Timer) :
    Times good (fun c _ d => d = c.stop t) (kWorkCancelDelayable t.item) := by
  intro s
  cases t <;> exact wp_write trivial ⟨rfl, rfl⟩

theorem ownerStopTimers_times : Times good (fun c _ d => d = c.ownerStop) ownerStopTimers := by
  intro s
  refine wp_bind (wp_read ?_)
  rw [Sys.owner_eq]
  refine wp_ite (fun owner => ?_) fun other => wp_pure ⟨rfl, ?_⟩
  · refine wp_bind (wp_mono (stopTimer_times .wtr s) ?_)
    rintro _ t ⟨setup, stopped⟩
    refine wp_mono (stopTimer_times .wtb t) ?_
    rintro _ u ⟨setup', stopped'⟩
    have both : s.timing.1.ownerStop = (s.timing.1.stop .wtr).stop .wtb :=
      if_pos (beq_iff_eq.mp owner)
    have done : u.timing.1 = s.timing.1.ownerStop := by rw [stopped', stopped, both]
    exact ⟨setup'.trans setup, done⟩
  · exact (if_neg (mt beq_iff_eq.mpr other)).symm

end

/-! ### Handlers -/

section
variable {lnk : PortIdx}

theorem fsmFsSfMs_times {reqState : UInt8} {next : NodeState} :
    Times good (Ctl.Ends next) (fsmFsSfMs lnk reqState next) := by
  refine frames_read.thenActs fun blocked => ?_
  have rest (status : UInt8) (ret : Int) : Times good (Ctl.Ends next) (do
      let ret ← ifOk ret (nodeSchedTx reqState 0 status)
      let ret ← ifOk ret (linkUnblock lnk.other)
      let ret ← if ret = 0 ∧ status = 0 then flushFdb lnk else pure ret
      ifOk ret do
        fsmTransition next
        return 0) := by
    refine offTx_timing.nodeSchedTx.ifOk.thenActs fun _ => offPorts_timing.linkUnblock.ifOk.thenActs fun _ => ?_
    refine acts_ite (fun _ => ?_) fun _ => ?_
    · exact offTx_timing.flushFdb.thenActs fun _ => finish_times
    · exact frames_pure.thenActs fun _ => finish_times
  refine acts_ite (fun _ => ?_) fun _ => ?_
  · exact frames_pure.thenActs (rest _)
  · exact offPorts_timing.linkBlock.thenActs (rest _)

theorem fsmUnblockAndStop_times {onlyNonFailed : Bool} {next : NodeState} :
    Times good (Ctl.Ends next) (fsmUnblockAndStop onlyNonFailed next) := by
  have rest (ret : Int) : Times good (Ctl.Ends next) (ifOk ret do
      nodeStopTx
      fsmTransition next
      return 0) := by
    refine acts_ite (fun _ => ?_) fun failed => acts_pure fun v => ⟨rfl, .inr ⟨failed, rfl⟩⟩
    refine offTx_timing.nodeStopTx.thenActs fun _ s => ?_
    exact wp_bind (wp_write trivial (wp_pure ⟨rfl, .inl ⟨rfl, rfl⟩⟩))
  refine acts_ite (fun _ => ?_) fun _ => ?_
  · exact offPorts_timing.nodeUnblockNonFailed.thenActs rest
  · exact offPorts_timing.nodeUnblockAll.thenActs rest

theorem fsmMaybeUnblockAndStop_timing {pdu : Option RapsPdu} :
    Frames good Sys.timing (fsmMaybeUnblockAndStop pdu) := by
  cases pdu with
  | none => exact assertFails_timing
  | some pdu =>
    refine linkGetNodeId_frames.bind fun _ => frames_ite (fun _ => frames_pure) fun _ => ?_
    refine frames_ite (fun _ => frames_pure) fun _ => offPorts_timing.nodeUnblockNonFailed.bind fun _ => ?_
    exact (offTx_timing.nodeStopTx.bind fun _ => frames_pure).ifOk

theorem fsmRapsNrRbIdle_timing : Frames good Sys.timing fsmRapsNrRbIdle := by
  refine frames_read.bind fun n => ?_
  have rest (ret : Int) : Frames good Sys.timing (ifOk ret do
      if n.rplOwner then
        return 0
      nodeStopTx
      return 0) := by
    refine (frames_ite (fun _ => frames_pure) fun _ => ?_).ifOk
    exact offTx_timing.nodeStopTx.bind fun _ => frames_pure
  rcases nodeOtherLink n.getRpl with _ | nonRpl
  · exact frames_pure.bind rest
  · exact offPorts_timing.linkUnblock.bind rest

theorem fsmRapsNrIdle_timing {pdu : Option RapsPdu} :
    Frames good Sys.timing (fsmRapsNrIdle pdu) :=
  frames_read.bind fun _ => frames_ite (fun _ => frames_pure) fun _ =>
    fsmMaybeUnblockAndStop_timing

theorem fsmFsFs_timing : Frames good Sys.timing (fsmFsFs lnk) :=
  offPorts_timing.linkBlock.bind fun _ => offTx_timing.nodeSchedTx.ifOk.bind fun _ => offTx_timing.flushFdb.ifOk

theorem fsmRevert_timing {rpl nonRpl : PortIdx} :
    Frames good Sys.timing (fsmRevert lnk rpl nonRpl) := by
  refine frames_read.bind fun blocked => ?_
  have rest (status : UInt8) (ret : Int) : Frames good Sys.timing (do
      let ret ← ifOk ret (nodeSchedTx rapsNr 0 status)
      let ret ← ifOk ret (linkUnblock nonRpl)
      if ret = 0 ∧ status &&& rapsDnf = 0 then flushFdb lnk else pure ret) := by
    refine offTx_timing.nodeSchedTx.ifOk.bind fun _ => offPorts_timing.linkUnblock.ifOk.bind fun _ => ?_
    exact frames_ite (fun _ => offTx_timing.flushFdb) fun _ => frames_pure
  refine frames_ite (fun _ => ?_) fun _ => ?_
  · exact frames_pure.bind (rest _)
  · exact offPorts_timing.linkBlock.bind (rest _)

/-! ### Handlers that start a timer -/

theorem Ctl.rearm_state (c : Ctl) (t : Timer) (scheduled : Bool) :
    (c.rearm t scheduled).state = c.state := by
  unfold rearm
  split
  · rfl
  · split <;> cases t <;> rfl

theorem Ctl.Ends.begins {t : Timer} {next : NodeState} {c d : Ctl} {ret : Int}
    (h : c.Ends next ret d) : c.Begins good t ret d := by
  rcases h with ⟨ok, rfl⟩ | ⟨-, rfl⟩
  · exact ⟨.leaves, fun failed => absurd ok failed⟩
  · exact ⟨.stays, fun _ => rfl⟩

/-- The way the handlers that start a timer end. -/
theorem startThenGoto_times (t : Timer) (s : Sys) (reverting : s.ctl.role = .owner ∧
    s.ctl.revertive = true) : wp good anyState (do
      let ret ← nodeStartTimer t
      ifOk ret do
        fsmTransition .pending
        return 0) (fun ret u => u.timing.2 = s.timing.2 ∧
          s.timing.1.Begins good t ret u.timing.1) s := by
  refine wp_bind (wp_mono (wp_startTimer s t) ?_)
  rintro ret u ⟨setup, ⟨rfl, same⟩ | ⟨-, answered, refused, same⟩⟩
  · refine wp_bind (wp_write trivial (wp_pure ⟨setup, ?_, fun failed => absurd rfl failed⟩))
    have starts : u.ctl.timing = s.ctl.timing.start t :=
      (congrArg Ctl.timing same).trans (s.ctl.timing_start t)
    have same' : (u.modNode fun n => { n with state := .pending }).timing.1 =
      (s.ctl.timing.start t).goto .pending := by rw [← starts]; rfl
    rw [same']
    exact .starts reverting
  · have failed : ret ≠ 0 := by omega
    refine wp_ite (fun ok => absurd ok failed) fun _ => wp_pure ⟨setup, ?_⟩
    have same' : u.timing.1 = s.timing.1.rearm t false :=
      (congrArg Ctl.timing same).trans (s.ctl.timing_rearm t false)
    rw [same']
    exact ⟨.startFails answered refused, fun _ => s.timing.1.rearm_state t false⟩

/-- The timer is started where the ring reverts. -/
theorem startIf_times (t : Timer) {s : Sys} {p : Prop} [Decidable p] (ret : Int)
    (p_iff : p → s.ctl.role = .owner ∧ s.ctl.revertive = true) :
    wp good anyState (if p then nodeStartTimer t >>= fun ret => ifOk ret do
        fsmTransition .pending
        return 0
      else pure ret >>= fun ret => ifOk ret do
        fsmTransition .pending
        return 0) (fun ret u => u.timing.2 = s.timing.2 ∧
          s.timing.1.Begins good t ret u.timing.1) s := by
  refine wp_ite (fun reverting => startThenGoto_times t s (p_iff reverting)) fun _ => ?_
  refine wp_bind (wp_pure (wp_mono (finish_times s) ?_))
  rintro ret u ⟨setup, ends⟩
  exact ⟨setup, ends.begins⟩

theorem fsmClearCommon_times : Times good (Ctl.Begins good .wtb) fsmClearCommon := by
  intro s
  refine wp_bind (wp_read (wp_ite (fun _ => ?_) fun _ => ?_))
  · refine wp_bind (wp_mono (nodeStartGuardTimer_timing.ends s) fun _ t same => ?_)
    refine wp_bind (wp_mono (offTx_timing.nodeSchedTx.ends t) fun ret u same' => ?_)
    rw [← same, ← same']
    refine startIf_times .wtb ret fun reverting => ?_
    have owner : u.timing.1.role = .owner ∧ u.timing.1.revertive = true := by
      rw [same', same]
      exact s.reverts_iff.mp reverting.2
    exact owner
  · refine wp_bind (wp_pure (wp_mono (finish_times s) ?_))
    rintro ret u ⟨setup, ends⟩
    exact ⟨setup, ends.begins⟩

theorem fsmClearSfProtection_times : Times good (Ctl.Begins good .wtr) fsmClearSfProtection := by
  refine nodeStartGuardTimer_timing.thenActs fun _ => offTx_timing.nodeSchedTx.thenActs fun ret => ?_
  intro s
  refine wp_bind (wp_read (startIf_times .wtr ret fun reverting => ?_))
  exact s.reverts_iff.mp reverting.2

theorem fsmRapsNr_times {t : Timer} {rb : Bool} : Times good (Ctl.Begins good t) (fsmRapsNr t rb) := by
  intro s
  refine wp_bind (wp_read (startIf_times t 0 fun reverting => ?_))
  exact s.reverts_iff.mp reverting.2

theorem fsmRapsMsMs_times : Times good (Ctl.Begins good .wtb) fsmRapsMsMs := by
  intro s
  refine wp_bind (wp_read (wp_ite (fun _ => ?_) fun _ => ?_))
  · refine wp_bind (wp_mono (nodeStartGuardTimer_timing.ends s) fun _ t same => ?_)
    refine wp_bind (wp_mono (offTx_timing.nodeSchedTx.ends t) fun ret u same' => ?_)
    rw [← same, ← same']
    refine wp_ite (fun reverting => ?_) fun _ => ?_
    · have owner : u.timing.1.role = .owner ∧ u.timing.1.revertive = true := by
        rw [same', same]
        exact s.reverts_iff.mp reverting.2
      exact startThenGoto_times .wtb u owner
    · refine wp_mono (finish_times u) ?_
      rintro ret v ⟨setup, ends⟩
      exact ⟨setup, ends.begins⟩
  · refine wp_bind (wp_pure (wp_mono (finish_times s) ?_))
    rintro ret u ⟨setup, ends⟩
    exact ⟨setup, ends.begins⟩

/-! ### Handlers of pending -/

theorem Ctl.goto_ownerStop (c : Ctl) (next : NodeState) :
    (c.goto next).ownerStop = c.ownerStop.goto next := by
  have role : (c.goto next).role = c.role := rfl
  unfold ownerStop
  rw [role]
  split <;> rfl

/-- Both timers of the RPL owner are stopped once the handler has succeeded. -/
def Ctl.StopsLast (next : NodeState) (c : Ctl) (ret : Int) (d : Ctl) : Prop :=
  (ret = 0 ∧ d = c.ownerStop.goto next) ∨ (ret ≠ 0 ∧ d = c)

theorem thenOwnerStopTimers_times {next : NodeState} {m : M Int}
    (h : Times good (Ctl.Ends next) m) : Times good (Ctl.StopsLast next) (thenOwnerStopTimers m) := by
  intro s
  refine wp_bind (wp_mono (h s) ?_)
  rintro ret t ⟨setup, ⟨rfl, left⟩ | ⟨failed, same⟩⟩
  · refine wp_bind (wp_mono (ownerStopTimers_times t) ?_)
    rintro _ u ⟨setup', stopped⟩
    refine wp_pure ⟨setup'.trans setup, .inl ⟨rfl, ?_⟩⟩
    rw [stopped, left, Ctl.goto_ownerStop]
  · exact wp_ite (fun ok => absurd ok failed) fun _ => wp_pure ⟨setup, .inr ⟨failed, same⟩⟩

/-- The handlers that stop the timers of the RPL owner first. -/
theorem ownerStopTimersThen_times {next : NodeState} {m : M Int} (h : Times good (Ctl.Ends next) m) :
    Times good (fun c => c.ownerStop.Ends next) (do ownerStopTimers; m) := by
  intro s
  refine wp_bind (wp_mono (ownerStopTimers_times s) ?_)
  rintro _ t ⟨setup, stopped⟩
  refine wp_mono (h t) ?_
  rintro ret u ⟨setup', ends⟩
  rw [stopped] at ends
  exact ⟨setup'.trans setup, ends⟩

theorem fsmClearPending_times :
    Times good (fun c => c.ownerStop.Ends .idle) (fsmClearPending lnk) := by
  refine ownerStopTimersThen_times (frames_read.thenActs fun n => ?_)
  rcases n.getRpl with _ | rpl
  · exact frames_pure.thenActs fun _ => finish_times
  · exact fsmRevert_timing.thenActs fun _ => finish_times

/-- Nothing happens on a node without an RPL, which is an assertion that fails. -/
theorem fsmTimerExpiresPending_times : Times good (fun c ret d =>
    c.Ends .idle ret d ∨ (ret = 0 ∧ d = c)) (fsmTimerExpiresPending lnk) := by
  refine frames_read.thenActs fun n => ?_
  rcases n.getRpl with _ | rpl
  · intro s
    exact wp_bind (wp_write trivial (wp_pure ⟨rfl, .inr ⟨rfl, rfl⟩⟩))
  · refine (fsmRevert_timing.thenActs fun _ => finish_times).mono ?_
    exact fun v ret w ends => ⟨ends.1, .inl ends.2⟩

/-- Both expiries: an RPL owner stops the other timer first. -/
theorem timerExpires_times (other : Timer) : Times good (fun c ret d =>
    (c.role = .owner ∧ ((c.stop other).Ends .idle ret d ∨ (ret = 0 ∧ d = c.stop other))) ∨
      (ret = 0 ∧ d = c)) (do
      if ← read fun s => s.node.rplOwner then
        kWorkCancelDelayable other.item
        fsmTimerExpiresPending lnk
      else
        return 0) := by
  intro s
  refine wp_bind (wp_read ?_)
  rw [Sys.owner_eq]
  refine wp_ite (fun owner => ?_) fun _ => wp_pure ⟨rfl, .inr ⟨rfl, rfl⟩⟩
  refine wp_bind (wp_mono (stopTimer_times other s) ?_)
  rintro _ t ⟨setup, stopped⟩
  refine wp_mono (fsmTimerExpiresPending_times t) ?_
  rintro ret u ⟨setup', ends⟩
  rw [stopped] at ends
  exact ⟨setup'.trans setup, .inl ⟨beq_iff_eq.mp owner, ends⟩⟩

/-- An RPL owner stops its timers; the others have none. -/
theorem fsmRapsNrRbPending_times (s : Sys) (oneRole : (s.node.rplOwner && s.node.rplNbr) = false) :
    wp good anyState fsmRapsNrRbPending (fun ret t => t.timing.2 = s.timing.2 ∧
      ((ret = 0 ∧ t.timing.1 = s.timing.1.ownerStop.goto .idle) ∨
        (s.timing.1.role ≠ .owner ∧ s.timing.1.Ends .idle ret t.timing.1))) s := by
  have notOwner (owns : s.node.rplOwner = false) {ret : Int} {t : Sys}
      (h : t.timing.2 = s.timing.2 ∧ s.timing.1.Ends .idle ret t.timing.1) :
      t.timing.2 = s.timing.2 ∧ ((ret = 0 ∧ t.timing.1 = s.timing.1.ownerStop.goto .idle) ∨
        (s.timing.1.role ≠ .owner ∧ s.timing.1.Ends .idle ret t.timing.1)) := by
    have role : s.ctl.role ≠ .owner := by
      rw [Sys.owner_eq] at owns
      simpa using owns
    exact ⟨h.1, .inr ⟨role, h.2⟩⟩
  refine wp_bind (wp_read ?_)
  cases owns : s.node.rplOwner <;> cases neighbours : s.node.rplNbr
  case false.false =>
    have ends : Times good (Ctl.Ends .idle) (do
        let ret ← nodeUnblockAll
        let ret ← ifOk ret do
          nodeStopTx
          return 0
        ifOk ret do
          fsmTransition .idle
          return 0) := by
      refine offPorts_timing.nodeUnblockAll.thenActs fun _ => ?_
      refine (Frames.ifOk ?_).thenActs fun _ => finish_times
      exact offTx_timing.nodeStopTx.bind fun _ => frames_pure
    exact wp_mono (ends s) fun ret t => notOwner owns
  case false.true =>
    rcases s.node.getRpl with _ | rpl
    · exact wp_mono ((assertFails_timing.thenActs fun _ => finish_times) s) fun ret t =>
        notOwner owns
    · have ends : Times good (Ctl.Ends .idle) (do
          let ret ← linkBlock rpl
          let ret ← ifOk ret (linkUnblock rpl.other)
          let ret ← ifOk ret do
            nodeStopTx
            return 0
          ifOk ret do
            fsmTransition .idle
            return 0) := by
        refine offPorts_timing.linkBlock.thenActs fun _ => offPorts_timing.linkUnblock.ifOk.thenActs fun _ => ?_
        refine (Frames.ifOk ?_).thenActs fun _ => finish_times
        exact offTx_timing.nodeStopTx.bind fun _ => frames_pure
      exact wp_mono (ends s) fun ret t => notOwner owns
  case true.false =>
    refine wp_bind (wp_mono (stopTimer_times .wtr s) ?_)
    rintro _ t ⟨setup, stopped⟩
    refine wp_bind (wp_mono (stopTimer_times .wtb t) ?_)
    rintro _ u ⟨setup', stopped'⟩
    have both : s.timing.1.ownerStop = (s.timing.1.stop .wtr).stop .wtb := by
      refine if_pos (beq_iff_eq.mp ?_)
      rw [← owns]
      exact s.owner_eq.symm
    have left : (u.modNode fun n => { n with state := .idle }).timing.1 =
        s.timing.1.ownerStop.goto .idle := by
      rw [both, ← stopped, ← stopped']
      rfl
    exact wp_bind (wp_pure (wp_bind (wp_write trivial
      (wp_pure ⟨setup'.trans setup, .inl ⟨rfl, left⟩⟩))))
  case true.true => simp [owns, neighbours] at oneRole

end

end Erps
