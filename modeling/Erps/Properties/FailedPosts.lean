import Erps.Ctl.Reacts
import Erps.Guard
import Erps.Timing.Posts

/-!
# What a failing post leaves behind

The state machine moves last, so a post that fails leaves the state as it is. What has
happened before stands: the priority logic has taken the request, and the guard timer has
been started. The timers of the RPL owner are stopped before anything can fail where
pending is left for idle or a manual switch; everywhere else they are as before.
-/
namespace Erps

open Calls Runs

/-- The timer that a request starts, on the RPL owner of a revertive ring. -/
def NodeState.startsTimer : NodeState → Request → Option Timer
  | .protection, .clearSf | .protection, .rapsNr => some .wtr
  | .manualSwitch, .clear | .manualSwitch, .rapsMs | .manualSwitch, .rapsNr
  | .forcedSwitch, .clear | .forcedSwitch, .rapsNr => some .wtb
  | _, _ => none

/-- The requests for which the RPL owner in pending stops timers first. -/
def Request.stopsFirst : Request → Bool
  | clear | ms | wtrExpires | wtbExpires => true
  | _ => false

variable {good : KernelCall → Int → Prop}

namespace Ctl

/-- The ways in which a handler that fails leaves the state and the timers. -/
inductive Failed (c : Ctl) (req : Request) : Ctl → Prop where
  | stays : Failed c req c
  | startFails {t : Timer} (starts : c.state.startsTimer req = some t) :
      Failed c req (c.rearm t false)
  | stopped {d : Ctl} (state : c.state = .pending) (owner : c.role = .owner)
      (first : req.stopsFirst = true) (keeps : d.state = c.state ∧ d.topreq = c.topreq) :
      Failed c req d

variable {c d : Ctl} {req : Request} {ret : Int}

theorem Ends.failed {next : NodeState} (h : c.Ends next ret d) (failed : ret ≠ 0) : d = c := by
  rcases h with ⟨ok, -⟩ | ⟨-, same⟩
  · exact absurd ok failed
  · exact same

/-- A handler that fails although it has started its timer has not been in pending. -/
theorem Begins.failed {t : Timer} (h : c.Begins good t ret d) (failed : ret ≠ 0)
    (starts : c.state.startsTimer req = some t) : c.Failed req d := by
  obtain ⟨begins, kept⟩ := h
  have state := kept failed
  cases begins with
  | stays => exact .stays
  | @leaves next =>
    -- the state is as it was, so `next` is where the node has been
    have same : c.goto next = c := by
      have next_eq : next = c.state := state
      rw [next_eq]
      rfl
    rw [same]
    exact .stays
  | starts reverting =>
    have pending : c.state = .pending := state.symm
    -- a timer that was started took the node to pending, where none is started
    rw [pending] at starts
    cases req <;> cases starts
  | startFails answered refused => exact .startFails starts

end Ctl

/-- A program that handles `req` in the state `st`. -/
abbrev FailsIn (good : KernelCall → Int → Prop) (st : NodeState) (req : Request) (m : M Int) : Prop :=
  Times good (fun c ret d => c.state = st → ret ≠ 0 → c.Failed req d) m

section
variable {st : NodeState} {lnk : PortIdx} {req : Request} {pdu : Option RapsPdu} {m : M Int}

theorem fails_frames (h : Frames good Sys.timing m) : FailsIn good st req m :=
  h.acts fun _ _ => ⟨rfl, fun _ _ => .stays⟩

theorem fails_ends {next : NodeState} (h : Times good (Ctl.Ends next) m) : FailsIn good st req m := by
  refine h.mono fun v ret w ends => ⟨ends.1, fun _ failed => ?_⟩
  rw [ends.2.failed failed]
  exact .stays

theorem fails_begins {t : Timer} (h : Times good (Ctl.Begins good t) m)
    (starts : st.startsTimer req = some t) : FailsIn good st req m :=
  h.mono fun _ _ _ begins => ⟨begins.1, fun state failed =>
    begins.2.failed failed (state ▸ starts)⟩

/-- R-APS(NR,RB) starts no timer. -/
theorem fsmRapsNrRb_ends {t : Timer} : Times good (Ctl.Ends .pending) (fsmRapsNr t true) := by
  refine frames_read.thenActs fun n => acts_ite (fun starts => absurd starts.1 (by decide)) fun _ => ?_
  exact frames_pure.thenActs fun _ => finish_times

theorem fsmPostIdle_fails : FailsIn good .idle req (fsmPostIdle lnk req pdu) := by
  cases req with
  | clear | clearSf | wtrExpires | wtrRunning | wtbExpires | wtbRunning | invalid =>
    exact fails_frames frames_pure
  | fs | sf | ms => exact fails_ends fsmFsSfMs_times
  | rapsFs | rapsSf | rapsMs => exact fails_ends fsmUnblockAndStop_times
  | rapsNrRb => exact fails_frames fsmRapsNrRbIdle_timing
  | rapsNr => exact fails_frames fsmRapsNrIdle_timing

theorem fsmPostProtection_fails : FailsIn good .protection req (fsmPostProtection lnk req) := by
  cases req with
  | clear | rapsSf | rapsMs | ms | wtrExpires | wtrRunning | wtbExpires | wtbRunning | invalid =>
    exact fails_frames frames_pure
  | fs | sf => exact fails_ends fsmFsSfMs_times
  | rapsFs => exact fails_ends fsmUnblockAndStop_times
  | clearSf => exact fails_begins fsmClearSfProtection_times rfl
  | rapsNrRb => exact fails_ends fsmRapsNrRb_ends
  | rapsNr => exact fails_begins fsmRapsNr_times rfl

theorem fsmPostManualSwitch_fails : FailsIn good .manualSwitch req (fsmPostManualSwitch lnk req) := by
  cases req with
  | clearSf | ms | wtrExpires | wtrRunning | wtbExpires | wtbRunning | invalid =>
    exact fails_frames frames_pure
  | clear => exact fails_begins fsmClearCommon_times rfl
  | fs | sf => exact fails_ends fsmFsSfMs_times
  | rapsFs | rapsSf => exact fails_ends fsmUnblockAndStop_times
  | rapsMs => exact fails_begins fsmRapsMsMs_times rfl
  | rapsNrRb => exact fails_ends fsmRapsNrRb_ends
  | rapsNr => exact fails_begins fsmRapsNr_times rfl

theorem fsmPostForcedSwitch_fails : FailsIn good .forcedSwitch req (fsmPostForcedSwitch lnk req) := by
  cases req with
  | rapsFs | sf | clearSf | rapsSf | rapsMs | ms | wtrExpires | wtrRunning | wtbExpires
  | wtbRunning | invalid => exact fails_frames frames_pure
  | clear => exact fails_begins fsmClearCommon_times rfl
  | fs => exact fails_frames fsmFsFs_timing
  | rapsNrRb => exact fails_ends fsmRapsNrRb_ends
  | rapsNr => exact fails_begins fsmRapsNr_times rfl

/-- Timers have been stopped, and nothing else has happened. -/
theorem Ctl.failed_ownerStop {c : Ctl} (state : c.state = .pending) (first : req.stopsFirst = true) :
    c.Failed req c.ownerStop := by
  by_cases owner : c.role = .owner
  · obtain ⟨w, b, same⟩ := c.ownerStop_eq
    rw [same]
    exact .stopped state owner first ⟨rfl, rfl⟩
  · rw [Ctl.ownerStop, if_neg owner]
    exact .stays

theorem fsmPostPending_fails (s : Sys) (oneRole : (s.node.rplOwner && s.node.rplNbr) = false)
    (state : s.node.state = .pending) :
    wp good anyState (fsmPostPending lnk req pdu) (fun ret t => t.timing.2 = s.timing.2 ∧
      (ret ≠ 0 → s.timing.1.Failed req t.timing.1)) s := by
  have plain {m : M Int} (h : FailsIn good .pending req m) : wp good anyState m (fun ret t =>
      t.timing.2 = s.timing.2 ∧ (ret ≠ 0 → s.timing.1.Failed req t.timing.1)) s :=
    wp_mono (h s) fun _ _ fails => ⟨fails.1, fails.2 state⟩
  have stopsLast {m : M Int} {next : NodeState} (h : Times good (Ctl.Ends next) m) :
      FailsIn good .pending req (thenOwnerStopTimers m) := by
    refine (thenOwnerStopTimers_times h).mono ?_
    rintro v ret w ⟨setup, ⟨ok, -⟩ | ⟨-, same⟩⟩
    · exact ⟨setup, fun _ failed => absurd ok failed⟩
    · exact ⟨setup, fun _ _ => same ▸ .stays⟩
  have stopsFirst {m : M Int} {next : NodeState}
      (h : Times good (fun c => c.ownerStop.Ends next) m) (first : req.stopsFirst = true) :
      FailsIn good .pending req m := by
    refine h.mono fun v ret w ends => ⟨ends.1, fun state failed => ?_⟩
    rw [ends.2.failed failed]
    exact Ctl.failed_ownerStop state first
  have expires {other : Timer} {m : M Int} (h : Times good (fun c ret d => (c.role = .owner ∧
      ((c.stop other).Ends .idle ret d ∨ (ret = 0 ∧ d = c.stop other))) ∨ (ret = 0 ∧ d = c)) m)
      (first : req.stopsFirst = true) : FailsIn good .pending req m := by
    refine h.mono ?_
    rintro v ret w ⟨setup, moved⟩
    refine ⟨setup, fun state failed => ?_⟩
    rcases moved with ⟨owner, ends | ⟨ok, -⟩⟩ | ⟨ok, -⟩
    · rw [ends.failed failed]
      exact .stopped state owner first (by cases other <;> exact ⟨rfl, rfl⟩)
    · exact absurd ok failed
    · exact absurd ok failed
  -- fs and the remote switches stop the timers last, after what can fail
  cases req with
  | clearSf | wtrRunning | wtbRunning | invalid => exact plain (fails_frames frames_pure)
  | clear => exact plain (stopsFirst fsmClearPending_times rfl)
  | fs | sf => exact plain (stopsLast fsmFsSfMs_times)
  | rapsFs | rapsSf | rapsMs => exact plain (stopsLast fsmUnblockAndStop_times)
  | ms => exact plain (stopsFirst (ownerStopTimersThen_times fsmFsSfMs_times) rfl)
  | wtrExpires => exact plain (expires (timerExpires_times .wtb) rfl)
  | wtbExpires => exact plain (expires (timerExpires_times .wtr) rfl)
  | rapsNrRb =>
    refine wp_mono (fsmRapsNrRbPending_times s oneRole) ?_
    rintro ret t ⟨setup, ⟨ok, -⟩ | ⟨-, ends⟩⟩
    · exact ⟨setup, fun failed => absurd ok failed⟩
    · exact ⟨setup, fun failed => ends.failed failed ▸ .stays⟩
  | rapsNr => exact plain (fails_frames fsmMaybeUnblockAndStop_timing)

theorem react_fails (s : Sys) (oneRole : (s.node.rplOwner && s.node.rplNbr) = false) :
    wp good anyState (fsmReact s.node.state lnk req pdu) (fun ret t => t.timing.2 = s.timing.2 ∧
      (ret ≠ 0 → s.timing.1.Failed req t.timing.1)) s := by
  have plain {st : NodeState} (state : s.node.state = st) {m : M Int} (h : FailsIn good st req m) :
      wp good anyState m (fun ret t => t.timing.2 = s.timing.2 ∧
        (ret ≠ 0 → s.timing.1.Failed req t.timing.1)) s :=
    wp_mono (h s) fun _ _ fails => ⟨fails.1, fails.2 state⟩
  cases state : s.node.state with
  | idle => exact plain state fsmPostIdle_fails
  | protection => exact plain state fsmPostProtection_fails
  | manualSwitch => exact plain state fsmPostManualSwitch_fails
  | forcedSwitch => exact plain state fsmPostForcedSwitch_fails
  | pending => exact fsmPostPending_fails s oneRole state
  | uninit => exact plain state (fails_frames frames_pure)

end

/-! ### Posts -/

/-- What a post of `req` that fails in `s` has left of what decides later requests. -/
structure Sys.KeptBy (s : Sys) (req : Request) (t : Sys) : Prop where
  state : t.node.state = s.node.state
  topreq : t.node.localTopreq = s.node.localTopreq ∨ (s.ctl.Passes req ∧
    (t.node.localTopreq = req.remembered ∨
      ∃ u, s.node.state.startsTimer req = some u ∧ t.node.localTopreq = u.running))
  guard : t.node.guardTimerExpiry = s.node.guardTimerExpiry ∨ (s.StartsGuard req ∧
    t.node.guardTimerExpiry = s.uptime + s.node.guardTimerDuration.toNat)
  timers : ¬(s.node.state = .pending ∧ s.node.rplOwner = true ∧ req.stopsFirst = true) →
    ∀ u : Timer, (t.node.work u.item).isPending = (s.node.work u.item).isPending

namespace Ctl

variable {c d : Ctl} {req : Request}

/-- A timer that was not pending is not after it could not be scheduled. -/
theorem rearm_busy (c : Ctl) (t u : Timer) : ((c.rearm t false).timer u).busy = (c.timer u).busy := by
  by_cases busy : (c.timer t).busy = true
  · rw [rearm, if_pos busy]
  have idle : (c.timer t).scheduled = false ∧ (c.timer t).running = false := by
    simpa [Armed.busy] using busy
  rw [rearm, if_neg busy]
  split <;> cases t <;> cases u <;> simp_all [timer, modTimer, Armed.busy]

theorem rearm_topreq (c : Ctl) (t : Timer) : (c.rearm t false).topreq = c.topreq ∨
    (c.rearm t false).topreq = t.running := by
  unfold rearm
  split
  · exact .inl rfl
  · split <;> cases t <;> first | exact .inl rfl | exact .inr rfl

theorem Failed.state (h : c.Failed req d) : d.state = c.state := by
  cases h with
  | stays => rfl
  | startFails starts => exact rearm_state c _ false
  | stopped state owner first keeps => exact keeps.1

theorem Failed.topreq (h : c.Failed req d) : d.topreq = c.topreq ∨
    ∃ u, c.state.startsTimer req = some u ∧ d.topreq = u.running := by
  cases h with
  | stays => exact .inl rfl
  | @startFails t starts => exact (rearm_topreq c t).imp_right fun same => ⟨t, starts, same⟩
  | stopped state owner first keeps => exact .inl keeps.2

theorem Failed.timers (h : c.Failed req d)
    (keeps : ¬(c.state = .pending ∧ c.role = .owner ∧ req.stopsFirst = true)) (u : Timer) :
    (d.timer u).busy = (c.timer u).busy := by
  cases h with
  | stays => rfl
  | startFails starts => exact rearm_busy c _ u
  | stopped state owner first => exact absurd ⟨state, owner, first⟩ keeps

end Ctl

theorem Guard.kept {s t : Sys} {req : Request}
    (guard : t.guard = s.guard ∨ (s.StartsGuard req ∧ t.guard = s.guard.start)) :
    t.node.guardTimerExpiry = s.node.guardTimerExpiry ∨ (s.StartsGuard req ∧
      t.node.guardTimerExpiry = s.uptime + s.node.guardTimerDuration.toNat) := by
  rcases guard with same | ⟨starts, started⟩
  · exact .inl (congrArg Guard.expiry same)
  · exact .inr ⟨starts, congrArg Guard.expiry started⟩

/-- A post that fails either has not been taken, or its handler has failed. -/
theorem fsmPost_failed (s : Sys) (formed : s.setup.WellFormed) {lnk : PortIdx} {req : Request}
    {pdu : Option RapsPdu} : wp good anyState (fsmPost lnk req pdu) (fun ret t => ret ≠ 0 →
      t.timing.1 = s.timing.1 ∨
        (s.ctl.Passes req ∧ (s.timing.1.remember req).Failed req t.timing.1)) s := by
  refine fsmPost_ways s (fun _ _ _ _ => .inl rfl) ?_ ?_ ?_
  · exact fun _ t _ failed => absurd rfl failed
  · exact fun _ t _ failed => absurd rfl failed
  · intro passes t took
    obtain ⟨taken, setup⟩ := Prod.ext_iff.mp took
    have oneRole : (t.node.rplOwner && t.node.rplNbr) = false := by
      have kept : t.setup = s.setup := setup
      have formed' : t.setup.WellFormed := kept ▸ formed
      exact formed'.oneRole
    refine wp_mono (react_fails t oneRole) ?_
    rintro ret u ⟨-, fails⟩ failed
    have fails' := fails failed
    rw [taken] at fails'
    exact .inr ⟨passes, fails'⟩

theorem Ctl.Failed.keptBy {s t : Sys} {req : Request} (passes : s.ctl.Passes req)
    (failed : (s.timing.1.remember req).Failed req t.timing.1)
    (guard : t.guard = s.guard ∨ (s.StartsGuard req ∧ t.guard = s.guard.start)) :
    s.KeptBy req t where
  state := failed.state
  topreq := .inr ⟨passes, failed.topreq⟩
  guard := Guard.kept guard
  timers := by
    intro keeps u
    have keeps' : ¬(s.ctl.state = .pending ∧ s.ctl.role = .owner ∧ req.stopsFirst = true) := by
      rintro ⟨state, owner, first⟩
      exact keeps ⟨state, s.owner_eq.trans (beq_iff_eq.mpr owner), first⟩
    have busy := failed.timers keeps' u
    cases u <;> exact busy

/-- Whatever the calls answer, in every state a run of the node reaches. -/
theorem failed_post_keeps {s : Sys} {xs : List Step} {lnk : PortIdx} {req : Request}
    {pdu : Option RapsPdu} {ans : Answers KernelCall} (init : InitialisedWith anyAnswer s)
    (failed : (fsmPost lnk req pdu).result ans (s.run xs) ≠ 0) :
    (s.run xs).KeptBy req ((fsmPost lnk req pdu).final ans (s.run xs)) := by
  have formed : EachState Sys.step s xs fun _ t => t.setup.WellFormed :=
    eachState_of_eachStep init.formed (C := fun _ _ _ => True) (fun _ _ _ => trivial)
      fun _ t x _ _ before => ((event_happens t x.1 before).post x.2 (respects_any x.2)).1
  obtain ⟨fails, guard⟩ := ((fsmPost_failed (s.run xs) formed.last).and
    (fsmPost_guard (s.run xs))).post ans (respects_any ans)
  rcases fails failed with same | ⟨passes, failed'⟩
  · refine ⟨?_, .inl ?_, Guard.kept guard, fun _ u => ?_⟩
    · exact congrArg Ctl.state same
    · exact congrArg Ctl.topreq same
    · have timers := congrArg (fun c => (c.timer u).busy) same
      cases u <;> exact timers
  · exact failed'.keptBy passes guard

/-- The port that has not failed cannot be opened. -/
theorem failed_post_keeps_sample :
    let t := samplePlain.run (succeeding [.elapse 500])
    t.KeptBy .sf ((fsmPost .port1 .sf none).final refusesOpening t) :=
  failed_post_keeps samplePlain_initialised.any (by decide)

/-- The failure is remembered although it has not been acted on. -/
theorem failed_post_remembered : ¬∀ (s : Sys) (xs : List Step) (lnk : PortIdx) (req : Request)
    (pdu : Option RapsPdu) (ans : Answers KernelCall), InitialisedWith anyAnswer s →
      (fsmPost lnk req pdu).result ans (s.run xs) ≠ 0 →
        ((fsmPost lnk req pdu).final ans (s.run xs)).node.localTopreq =
          (s.run xs).node.localTopreq := by
  intro unchanged
  have here := unchanged samplePlain [] .port1 .sf none refusesOpening samplePlain_initialised.any
    (by decide)
  exact absurd here (by decide)

end Erps
