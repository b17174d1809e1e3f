import Erps.Timing.Moves

/-!
# Posts and events, seen from the timers

What a post of a request and what an event of a run can do to the state and the
timers, whichever calls fail.
-/
namespace Erps

open Calls

variable {good : KernelCall → Int → Prop}

/-! ### Posting -/

namespace Ctl

variable {c d : Ctl} {req : Request}

theorem Ends.moves {next : NodeState} {ret : Int} (h : c.Ends next ret d)
    (elsewhere : c.state ≠ .pending) : c.Moves good req d := by
  rcases h with ⟨-, rfl⟩ | ⟨-, rfl⟩
  · exact .leaves fun state => absurd state elsewhere
  · exact .stays

theorem Starts.moves {t : Timer} (h : c.Starts good t d) (elsewhere : c.state ≠ .pending) :
    c.Moves good req d := by
  cases h with
  | stays => exact .stays
  | leaves => exact .leaves fun state => absurd state elsewhere
  | starts reverting => exact .starts reverting elsewhere
  | startFails answered refused => exact .startFails answered refused elsewhere

/-- A request that has passed, seen from the timers. -/
def remember (c : Ctl) (req : Request) : Ctl := { c with topreq := req.remembered }

/-- The ways in which a post of `req` moves the state and the timers. -/
inductive Posts (good : KernelCall → Int → Prop) (c : Ctl) (req : Request) : Ctl → Prop where
  | missed {v : Int} (answered : good .kMutexLock v) (busy : v ≠ 0) : Posts good c req c
  | outranked (stopped : ¬c.Passes req) : Posts good c req c
  | answers {d : Ctl} (passes : c.Passes req) (moves : (c.remember req).Moves good req d) :
      Posts good c req d

end Ctl

/-- A program that handles `req` outside pending. -/
abbrev Handles {α : Type} (good : KernelCall → Int → Prop) (req : Request) (m : M α) : Prop :=
  Times good (fun c _ d => c.state ≠ .pending → c.Moves good req d) m

section
variable {α : Type} {lnk : PortIdx} {req : Request} {pdu : Option RapsPdu}

theorem handles_frames {m : M α} (h : Frames good Sys.timing m) : Handles good req m :=
  h.acts fun _ _ => ⟨rfl, fun _ => .stays⟩

theorem handles_ends {m : M Int} {next : NodeState} (h : Times good (Ctl.Ends next) m) :
    Handles good req m :=
  h.mono fun _ _ _ ends => ⟨ends.1, ends.2.moves⟩

theorem handles_starts {m : M Int} {t : Timer} (h : Times good (Ctl.Begins good t) m) :
    Handles good req m :=
  h.mono fun _ _ _ begins => ⟨begins.1, begins.2.1.moves⟩

theorem fsmPostIdle_handles : Handles good req (fsmPostIdle lnk req pdu) := by
  cases req with
  | clear | clearSf | wtrExpires | wtrRunning | wtbExpires | wtbRunning | invalid =>
    exact handles_frames frames_pure
  | fs | sf | ms => exact handles_ends fsmFsSfMs_times
  | rapsFs | rapsSf | rapsMs => exact handles_ends fsmUnblockAndStop_times
  | rapsNrRb => exact handles_frames fsmRapsNrRbIdle_timing
  | rapsNr => exact handles_frames fsmRapsNrIdle_timing

theorem fsmPostProtection_handles : Handles good req (fsmPostProtection lnk req) := by
  cases req with
  | clear | rapsSf | rapsMs | ms | wtrExpires | wtrRunning | wtbExpires | wtbRunning | invalid =>
    exact handles_frames frames_pure
  | fs | sf => exact handles_ends fsmFsSfMs_times
  | rapsFs => exact handles_ends fsmUnblockAndStop_times
  | clearSf => exact handles_starts fsmClearSfProtection_times
  | rapsNrRb | rapsNr => exact handles_starts fsmRapsNr_times

theorem fsmPostManualSwitch_handles : Handles good req (fsmPostManualSwitch lnk req) := by
  cases req with
  | clearSf | ms | wtrExpires | wtrRunning | wtbExpires | wtbRunning | invalid =>
    exact handles_frames frames_pure
  | clear => exact handles_starts fsmClearCommon_times
  | fs | sf => exact handles_ends fsmFsSfMs_times
  | rapsFs | rapsSf => exact handles_ends fsmUnblockAndStop_times
  | rapsMs => exact handles_starts fsmRapsMsMs_times
  | rapsNrRb | rapsNr => exact handles_starts fsmRapsNr_times

theorem fsmPostForcedSwitch_handles : Handles good req (fsmPostForcedSwitch lnk req) := by
  cases req with
  | rapsFs | sf | clearSf | rapsSf | rapsMs | ms | wtrExpires | wtrRunning | wtbExpires
  | wtbRunning | invalid => exact handles_frames frames_pure
  | clear => exact handles_starts fsmClearCommon_times
  | fs => exact handles_frames fsmFsFs_timing
  | rapsNrRb | rapsNr => exact handles_starts fsmRapsNr_times

theorem fsmPostPending_moves (s : Sys) (oneRole : (s.node.rplOwner && s.node.rplNbr) = false) :
    wp good anyState (fsmPostPending lnk req pdu) (fun _ t => t.timing.2 = s.timing.2 ∧
      s.timing.1.Moves good req t.timing.1) s := by
  have stays {m : M Int} (h : Frames good Sys.timing m) : wp good anyState m (fun _ t =>
      t.timing.2 = s.timing.2 ∧ s.timing.1.Moves good req t.timing.1) s :=
    h.acts (R := fun v _ w => w.2 = v.2 ∧ v.1.Moves good req w.1) (fun _ _ => ⟨rfl, .stays⟩) s
  have stopsLast {m : M Int} {next : NodeState} (h : Times good (Ctl.Ends next) m) :
      wp good anyState (thenOwnerStopTimers m) (fun _ t => t.timing.2 = s.timing.2 ∧
        s.timing.1.Moves good req t.timing.1) s := by
    refine wp_mono (thenOwnerStopTimers_times h s) ?_
    rintro ret t ⟨setup, ⟨-, left⟩ | ⟨-, same⟩⟩
    · exact ⟨setup, left ▸ .stopsAndLeaves⟩
    · exact ⟨setup, same ▸ .stays⟩
  have stopsFirst {next : NodeState} {ret : Int} {d : Ctl}
      (h : s.timing.1.ownerStop.Ends next ret d) : s.timing.1.Moves good req d := by
    rcases h with ⟨-, rfl⟩ | ⟨-, rfl⟩
    · exact .stopsAndLeaves
    · exact .stops
  have expires (t : Timer) (posted : req = t.expires) {ret : Int} {d : Ctl}
      (h : (s.timing.1.role = .owner ∧ ((s.timing.1.stop t.other).Ends .idle ret d ∨
        (ret = 0 ∧ d = s.timing.1.stop t.other))) ∨ (ret = 0 ∧ d = s.timing.1)) :
      s.timing.1.Moves good req d := by
    rcases h with ⟨-, (⟨-, rfl⟩ | ⟨-, rfl⟩) | ⟨-, rfl⟩⟩ | ⟨-, rfl⟩
    · exact .expiresAndLeaves posted
    · exact .expires posted
    · exact .expires posted
    · exact .stays
  cases req with
  | clearSf | wtrRunning | wtbRunning | invalid => exact stays frames_pure
  | clear =>
    refine wp_mono (fsmClearPending_times s) ?_
    exact fun _ t moved => ⟨moved.1, stopsFirst moved.2⟩
  | fs | sf => exact stopsLast fsmFsSfMs_times
  | rapsFs | rapsSf | rapsMs => exact stopsLast fsmUnblockAndStop_times
  | ms =>
    refine wp_mono (ownerStopTimersThen_times fsmFsSfMs_times s) ?_
    exact fun _ t moved => ⟨moved.1, stopsFirst moved.2⟩
  | wtrExpires =>
    refine wp_mono (timerExpires_times .wtb s) ?_
    exact fun _ t moved => ⟨moved.1, expires .wtr rfl moved.2⟩
  | wtbExpires =>
    refine wp_mono (timerExpires_times .wtr s) ?_
    exact fun _ t moved => ⟨moved.1, expires .wtb rfl moved.2⟩
  | rapsNrRb =>
    refine wp_mono (fsmRapsNrRbPending_times s oneRole) ?_
    rintro ret t ⟨setup, ⟨-, left⟩ | ⟨notOwner, ⟨-, left⟩ | ⟨-, same⟩⟩⟩
    · exact ⟨setup, left ▸ .stopsAndLeaves⟩
    · exact ⟨setup, left ▸ .leaves fun _ => notOwner⟩
    · exact ⟨setup, same ▸ .stays⟩
  | rapsNr => exact stays fsmMaybeUnblockAndStop_timing

/-- The handler of the state, once the request has passed. -/
theorem react_moves (s : Sys) (oneRole : (s.node.rplOwner && s.node.rplNbr) = false) :
    wp good anyState (fsmReact s.node.state lnk req pdu) (fun _ t => t.timing.2 = s.timing.2 ∧
      s.timing.1.Moves good req t.timing.1) s := by
  have elsewhere {m : M Int} (h : Handles good req m) (state : s.node.state ≠ .pending) :
      wp good anyState m (fun _ t => t.timing.2 = s.timing.2 ∧
        s.timing.1.Moves good req t.timing.1) s :=
    wp_mono (h s) fun _ t moved => ⟨moved.1, moved.2 state⟩
  cases state : s.node.state with
  | idle => exact elsewhere fsmPostIdle_handles (by simp [state])
  | protection => exact elsewhere fsmPostProtection_handles (by simp [state])
  | manualSwitch => exact elsewhere fsmPostManualSwitch_handles (by simp [state])
  | forcedSwitch => exact elsewhere fsmPostForcedSwitch_handles (by simp [state])
  | pending => exact fsmPostPending_moves s oneRole
  | uninit => exact wp_pure ⟨rfl, .stays⟩

/-- The four ways of a post: the mutex is missed, the request is outranked, it passes and is
ignored, or it passes and the handler of the state runs. -/
theorem fsmPost_ways (s : Sys) {Q : Int → Sys → Prop}
    (missed : ∀ v, good .kMutexLock v → v ≠ 0 → Q v s)
    (outranked : ¬s.ctl.Passes req → ∀ t, t.timing = s.timing → Q 0 t)
    (ignored : s.ctl.Passes req → ∀ t, t.timing = (s.timing.1.remember req, s.timing.2) → Q 0 t)
    (reacts : s.ctl.Passes req → ∀ t, t.timing = (s.timing.1.remember req, s.timing.2) →
      wp good anyState (fsmReact t.node.state lnk req pdu) Q t) :
    wp good anyState (fsmPost lnk req pdu) Q s := by
  have cancels : Frames good Sys.timing (if req = .clearSf then
      kWorkCancelDelayable (.linkDown lnk) else pure ()) := by
    refine frames_ite (fun _ => frames_write fun s => ?_) fun _ => frames_pure
    cases lnk <;> rfl
  have marks : Frames good Sys.timing (write fun s => if req = .sf then
      s.modLink lnk fun l => { l with failed := true } else s) := by
    refine frames_write fun s => ?_
    split
    · exact offPorts_timing.link s lnk _ fun _ => ⟨rfl, rfl, rfl, rfl, rfl⟩
    · rfl
  refine wp_bind (wp_call fun v answered => ?_)
  refine wp_ite (fun busy => wp_pure (missed v answered busy)) fun _ => ?_
  unfold fsmPostLocked
  refine wp_bindWhen (wp_mono (cancels.ends s) fun _ t same => ?_)
  refine wp_bind (wp_mono (wp_resolve t req) ?_)
  rintro ret u ⟨rfl, rfl⟩
  have passes_iff : t.ctl.Passes req ↔ s.ctl.Passes req := by
    have here : t.timing.1.Passes req ↔ s.timing.1.Passes req := by rw [same]
    exact here
  by_cases passes : t.ctl.Passes req
  · simp only [passes, if_true]
    refine wp_ite (fun busy => absurd busy (by decide)) fun _ => ?_
    refine wp_bind (wp_mono (marks.ends _) fun _ v same' => ?_)
    have took : v.timing = (s.timing.1.remember req, s.timing.2) := by rw [same', ← same]; rfl
    have passes' := passes_iff.mp passes
    exact wp_bind (wp_read (wp_ite (fun _ => wp_pure (ignored passes' v took)) fun _ =>
      reacts passes' v took))
  · simp only [passes, if_false]
    refine wp_ite (fun _ => wp_pure ?_) fun ok => absurd trivial ok
    exact outranked (mt passes_iff.mpr passes) t same

theorem fsmPost_posts (s : Sys) (formed : s.setup.WellFormed) :
    wp good anyState (fsmPost lnk req pdu) (fun _ t => t.timing.2 = s.timing.2 ∧
      s.timing.1.Posts good req t.timing.1) s := by
  have answers (passes : s.ctl.Passes req) {c d : Ctl} (took : c = s.timing.1.remember req)
      (moves : c.Moves good req d) : s.timing.1.Posts good req d := by
    rw [took] at moves
    exact .answers passes moves
  refine fsmPost_ways s ?_ ?_ ?_ ?_
  · exact fun v answered busy => ⟨rfl, .missed answered busy⟩
  · intro stopped t same
    rw [same]
    exact ⟨rfl, .outranked stopped⟩
  · intro passes t took
    obtain ⟨changed, setup⟩ := Prod.ext_iff.mp took
    exact ⟨setup, answers passes changed .stays⟩
  · intro passes t took
    obtain ⟨changed, setup⟩ := Prod.ext_iff.mp took
    have oneRole : (t.node.rplOwner && t.node.rplNbr) = false := by
      have kept : t.setup = s.setup := setup
      have formed' : t.setup.WellFormed := kept ▸ formed
      exact formed'.oneRole
    refine wp_mono (react_moves t oneRole) ?_
    exact fun _ w moved => ⟨moved.1.trans setup, answers passes changed moved.2⟩

end

/-! ### Events -/

def Timer.expiry : Timer → Expiry
  | wtr => .wtr
  | wtb => .wtb

/-- The ways in which an event moves the state and the timers. -/
inductive Ctl.Happens (good : KernelCall → Int → Prop) (c : Ctl) : Event → Ctl → Prop where
  | nothing {e : Event} : Ctl.Happens good c e c
  | requested {e : Event} {lnk : PortIdx} {req : Request} {d : Ctl}
      (posts : e.posts = some (lnk, req)) (noTimer : ∀ t : Timer, req ≠ t.expires)
      (posted : c.Posts good req d) : Ctl.Happens good c e d
  | fired (t : Timer) : Ctl.Happens good c (.fire t.expiry) (c.fire t)
  | handled (t : Timer) {d : Ctl} (posted : c.Posts good t.expires d) :
      Ctl.Happens good c (.handle t.expiry) (d.finish t)
  | expired (t : Timer) {d : Ctl} (posted : (c.fire t).Posts good t.expires d) :
      Ctl.Happens good c (.expiry t.expiry) (d.finish t)

/-- A timer handler posts the expiry of its timer. -/
theorem handle_posts (s : Sys) (t : Timer) (formed : s.setup.WellFormed) :
    wp good anyState t.expiry.handle (fun _ u => u.setup = s.setup ∧
      ∃ d, s.timing.1.Posts good t.expires d ∧ u.timing.1 = d.finish t) s := by
  have handler : wp good anyState t.expiry.handler (fun _ u => u.timing.2 = s.timing.2 ∧
      s.timing.1.Posts good t.expires u.timing.1) s := by
    cases t <;> exact wp_bind (wp_mono (fsmPost_posts s formed) fun _ _ posted => wp_pure posted)
  refine wp_bind (wp_mono handler ?_)
  rintro _ u ⟨setup, posted⟩
  have finishes : Times good (fun c _ d => d = c.finish t) t.expiry.finish := by
    intro v
    cases t <;> exact wp_write trivial ⟨rfl, rfl⟩
  refine wp_mono (finishes u) ?_
  rintro _ v ⟨setup', finished⟩
  exact ⟨setup'.trans setup, _, posted, finished⟩

theorem Expiry.linkDownFire_timing {lnk : PortIdx} :
    Frames good Sys.timing (Expiry.linkDown lnk).fire :=
  frames_write fun s => by cases lnk <;> rfl

theorem Expiry.linkDownFinish_timing {lnk : PortIdx} :
    Frames good Sys.timing (Expiry.linkDown lnk).finish :=
  frames_write fun s => by cases lnk <;> rfl

theorem linkDown_posts (s : Sys) (lnk : PortIdx) (formed : s.setup.WellFormed) :
    wp good anyState (Expiry.linkDown lnk).handle (fun _ u => u.setup = s.setup ∧
      (u.timing.1 = s.timing.1 ∨ s.timing.1.Posts good .sf u.timing.1)) s := by
  have handler : wp good anyState (linkDownWork lnk) (fun _ u => u.timing.2 = s.timing.2 ∧
      (u.timing.1 = s.timing.1 ∨ s.timing.1.Posts good .sf u.timing.1)) s := by
    have looks : Frames good Sys.timing (netIfLookupByDev (s.link lnk).dev) :=
      netIfLookupByDev_frames
    refine wp_bind (wp_read (wp_bind (wp_mono (looks.ends s) ?_)))
    intro found t same
    have setup : t.setup = s.setup := congrArg Prod.snd same
    have formed' : t.setup.WellFormed := setup ▸ formed
    rw [← same]
    refine wp_ite (fun _ => ?_) fun _ => wp_pure ⟨rfl, .inl rfl⟩
    refine wp_bind (wp_mono (fsmPost_posts t formed') ?_)
    exact fun _ _ posted => wp_pure ⟨posted.1, .inr posted.2⟩
  refine wp_bind (wp_mono handler ?_)
  rintro _ u ⟨setup, posted⟩
  refine wp_mono (Expiry.linkDownFinish_timing.ends u) fun _ v same => ?_
  have same' : v.timing = u.timing := same
  exact ⟨(congrArg Prod.snd same').trans setup, by rw [same']; exact posted⟩

/-- What is proved of each event. -/
abbrev Leaves (good : KernelCall → Int → Prop) (s : Sys) (e : Event) (t : Sys) : Prop :=
  t.setup.WellFormed ∧ s.timing.1.Happens good e t.timing.1

theorem post_happens (s : Sys) {e : Event} {lnk : PortIdx} {req : Request} {pdu : Option RapsPdu}
    (formed : s.setup.WellFormed) (posts : e.posts = some (lnk, req))
    (noTimer : ∀ t : Timer, req ≠ t.expires) :
    wp good anyState (do let _ ← fsmPost lnk req pdu) (fun _ t => Leaves good s e t) s := by
  refine wp_bind (wp_mono (fsmPost_posts s formed) ?_)
  rintro ret t ⟨setup, posted⟩
  have setup' : t.setup = s.setup := setup
  exact wp_pure ⟨setup' ▸ formed, .requested posts noTimer posted⟩

theorem timer_happens (s : Sys) (t : Timer) (formed : s.setup.WellFormed) :
    wp good anyState (Event.fire t.expiry).prog (fun _ u => Leaves good s (.fire t.expiry) u) s ∧
      wp good anyState (Event.handle t.expiry).prog
        (fun _ u => Leaves good s (.handle t.expiry) u) s ∧
      wp good anyState (Event.expiry t.expiry).prog
        (fun _ u => Leaves good s (.expiry t.expiry) u) s := by
  have fires : Times good (fun c _ d => d = c.fire t) t.expiry.fire := by
    intro v
    cases t <;> exact wp_write trivial ⟨rfl, rfl⟩
  refine ⟨?_, ?_, wp_bind ?_⟩
  · refine wp_mono (fires s) ?_
    rintro _ u ⟨setup, fired⟩
    have setup' : u.setup = s.setup := setup
    exact ⟨setup' ▸ formed, fired ▸ .fired t⟩
  · refine wp_mono (handle_posts s t formed) ?_
    rintro _ u ⟨setup, d, posted, finished⟩
    exact ⟨setup ▸ formed, finished ▸ .handled t posted⟩
  · refine wp_mono (fires s) ?_
    rintro _ u ⟨setup, fired⟩
    have setup' : u.setup = s.setup := setup
    refine wp_mono (handle_posts u t (setup' ▸ formed)) ?_
    rintro _ v ⟨kept, d, posted, finished⟩
    rw [fired] at posted
    exact ⟨(kept.trans setup') ▸ formed, finished ▸ .expired t posted⟩

/-- A link-down timer posts SF at most, whenever its handler runs. -/
theorem linkDown_happens (s : Sys) (lnk : PortIdx) (formed : s.setup.WellFormed) :
    wp good anyState (Event.fire (.linkDown lnk)).prog
        (fun _ u => Leaves good s (.fire (.linkDown lnk)) u) s ∧
      wp good anyState (Event.handle (.linkDown lnk)).prog
        (fun _ u => Leaves good s (.handle (.linkDown lnk)) u) s ∧
      wp good anyState (Event.expiry (.linkDown lnk)).prog
        (fun _ u => Leaves good s (.expiry (.linkDown lnk)) u) s := by
  have downs {e : Event} {d : Ctl} (posts : e.posts = some (lnk, .sf))
      (posted : d = s.timing.1 ∨ s.timing.1.Posts good .sf d) : s.timing.1.Happens good e d := by
    rcases posted with rfl | posted
    · exact .nothing
    · exact .requested posts (fun t => by cases t <;> decide) posted
  refine ⟨?_, ?_, wp_bind ?_⟩
  · refine wp_mono (Expiry.linkDownFire_timing.ends s) fun _ t same => ?_
    have same' : t.timing = s.timing := same
    have setup : t.setup = s.setup := congrArg Prod.snd same'
    exact ⟨setup ▸ formed, by rw [same']; exact .nothing⟩
  · refine wp_mono (linkDown_posts s lnk formed) ?_
    rintro _ u ⟨setup, posted⟩
    exact ⟨setup ▸ formed, downs rfl posted⟩
  · refine wp_mono (Expiry.linkDownFire_timing.ends s) fun _ t same => ?_
    have same' : t.timing = s.timing := same
    have setup : t.setup = s.setup := congrArg Prod.snd same'
    refine wp_mono (linkDown_posts t lnk (setup ▸ formed)) ?_
    rintro _ u ⟨setup', posted⟩
    rw [same'] at posted
    exact ⟨(setup'.trans setup) ▸ formed, downs rfl posted⟩

theorem event_happens (s : Sys) (e : Event) (formed : s.setup.WellFormed) :
    wp good anyState e.prog (fun _ t => t.setup.WellFormed ∧
      s.timing.1.Happens good e t.timing.1) s := by
  cases e with
  | ctl lnk ev => exact post_happens s formed rfl fun t => by cases ev <;> cases t <;> decide
  | raps lnk req pdu => exact post_happens s formed rfl fun t => by cases req <;> cases t <;> decide
  | expiry t =>
    cases t with
    | wtr => exact (timer_happens s .wtr formed).2.2
    | wtb => exact (timer_happens s .wtb formed).2.2
    | linkDown lnk => exact (linkDown_happens s lnk formed).2.2
  | fire t =>
    cases t with
    | wtr => exact (timer_happens s .wtr formed).1
    | wtb => exact (timer_happens s .wtb formed).1
    | linkDown lnk => exact (linkDown_happens s lnk formed).1
  | handle t =>
    cases t with
    | wtr => exact (timer_happens s .wtr formed).2.1
    | wtb => exact (timer_happens s .wtb formed).2.1
    | linkDown lnk => exact (linkDown_happens s lnk formed).2.1
  | elapse ms =>
    unfold Event.prog
    exact wp_write trivial ⟨formed, .nothing⟩
  | iface lnk up =>
    unfold Event.prog
    exact wp_write trivial ⟨⟨formed.rpl, formed.oneRole⟩, .nothing⟩

/-! ### Initialisation -/

/-- The timer the RPL owner of a revertive ring starts at boot, if it is scheduled. -/
inductive Ctl.Boots (good : KernelCall → Int → Prop) (c : Ctl) : Ctl → Prop where
  | without : Ctl.Boots good c c
  | starts (reverting : c.role = .owner ∧ c.revertive = true) : Ctl.Boots good c (c.start .wtr)
  | startFails {v : Int} (answered : good (.kWorkReschedule .wtr) v) (refused : v < 0) :
      Ctl.Boots good c (c.rearm .wtr false)

theorem fsmInitRpl_boots (s : Sys) (rpl nonRpl : PortIdx) :
    wp good anyState (fsmInitRpl s.node.rplOwner rpl nonRpl) (fun _ t =>
      t.timing.2 = s.timing.2 ∧ s.timing.1.Boots good t.timing.1) s := by
  refine wp_bind (wp_mono (offPorts_timing.linkBlock.ends s) fun ret t blocks => ?_)
  refine wp_bind (wp_mono (offPorts_timing.linkUnblockForce.ifOk.ends t) fun ret u opens => ?_)
  refine wp_bind (wp_mono (offTx_timing.nodeSchedTx.ifOk.ends u) fun ret v sends => ?_)
  have same : v.timing = s.timing := sends.trans (opens.trans blocks)
  rw [← same]
  refine wp_bind (wp_read (wp_ite (fun starting => ?_) fun _ => wp_pure ⟨rfl, .without⟩))
  obtain ⟨-, owner, revertive⟩ := starting
  have reverting : v.timing.1.role = .owner ∧ v.timing.1.revertive = true := by
    refine ⟨?_, revertive⟩
    rw [same]
    rw [Sys.owner_eq] at owner
    exact beq_iff_eq.mp owner
  refine wp_mono (wp_startTimer v .wtr) ?_
  rintro ret w ⟨setup, ⟨-, started⟩ | ⟨-, answered, refused, failed⟩⟩
  · have started' : w.timing.1 = v.timing.1.start .wtr :=
      (congrArg Ctl.timing started).trans (v.ctl.timing_start .wtr)
    exact ⟨setup, started' ▸ .starts reverting⟩
  · have failed' : w.timing.1 = v.timing.1.rearm .wtr false :=
      (congrArg Ctl.timing failed).trans (v.ctl.timing_rearm .wtr false)
    exact ⟨setup, failed' ▸ .startFails answered refused⟩

theorem fsmInitPlain_timing : Frames good Sys.timing fsmInitPlain :=
  offPorts_timing.linkBlock.bind fun _ => offPorts_timing.linkUnblockForce.ifOk.bind fun _ =>
    offTx_timing.nodeSchedTx.ifOk

theorem fsmInit_boots (s : Sys) :
    wp good anyState fsmInit (fun _ t => t.setup = s.setup ∧
      ∃ d, s.timing.1.Boots good d ∧ t.timing.1 = d.goto .pending) s := by
  refine wp_bind (wp_write trivial ?_)
  have same : (s.modNode fun n => { n with guardTimerExpiry := 0 }).timing = s.timing := rfl
  generalize (s.modNode fun n => { n with guardTimerExpiry := 0 }) = t at same
  have finishes (ret : Int) {u : Sys} (h : u.timing.2 = t.timing.2 ∧ t.timing.1.Boots good u.timing.1) :
      wp good anyState (do fsmTransition .pending; return ret) (fun _ v => v.setup = s.setup ∧
        ∃ d, s.timing.1.Boots good d ∧ v.timing.1 = d.goto .pending) u := by
    rw [same] at h
    exact wp_bind (wp_write trivial (wp_pure ⟨h.1, u.timing.1, h.2, rfl⟩))
  refine wp_bind (wp_read (wp_ite (fun _ => ?_) fun _ => ?_))
  · rcases t.node.getRpl with _ | rpl
    · refine wp_bind (wp_mono (assertFails_timing.ends t) fun ret u kept => finishes ret ?_)
      exact ⟨congrArg Prod.snd kept, by rw [kept]; exact .without⟩
    · exact wp_bind (wp_mono (fsmInitRpl_boots t rpl rpl.other) fun ret u => finishes ret)
  · refine wp_bind (wp_mono (fsmInitPlain_timing.ends t) fun ret u kept => finishes ret ?_)
    exact ⟨congrArg Prod.snd kept, by rw [kept]; exact .without⟩

theorem InitialisedWith.formed {s : Sys} (init : InitialisedWith good s) : s.setup.WellFormed := by
  obtain ⟨boot, ans, booted, answers, rfl⟩ := init
  obtain ⟨setup, -⟩ := (fsmInit_boots boot).post ans answers
  exact setup ▸ booted.formed

/-- Whatever the calls answer, a node stays well formed. -/
theorem eachState_formedAny {s : Sys} {xs : List Step} (init : InitialisedWith anyAnswer s) :
    Runs.EachState Sys.step s xs fun _ t => t.setup.WellFormed :=
  Runs.eachState_of_eachStep init.formed (C := fun _ _ _ => True) (fun _ _ _ => trivial)
    fun _ t x _ _ formed => ((event_happens t x.1 formed).post x.2 (respects_any x.2)).1

end Erps
