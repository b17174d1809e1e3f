import Erps.Properties.Timers

/-!
# The timers and the remembered request

While a timer runs, its running signal is the local top priority request, and while a
running signal is, its timer runs. Each fails in one way: the priority logic lets a
clear SF through and forgets the signal, and the signal is posted before it is known
whether the timer is scheduled and stays when its expiry is dropped.
-/
namespace Erps

open Calls

/-! ## A running signal does not outlive its timer -/

namespace Ctl

variable {good : KernelCall → Int → Prop} {c d : Ctl} {req : Request}

/-- No timer is refused. -/
def Schedules (good : KernelCall → Int → Prop) : Prop :=
  ∀ (t : Timer) v, good (.kWorkReschedule t.item) v → 0 ≤ v

def RunningTimed (c : Ctl) : Prop := ∀ t : Timer, c.topreq = t.running → (c.timer t).busy = true

/-- A handler that remembers a running signal has scheduled the timer. -/
theorem Moves.scheduled (schedules : Schedules good) (moves : c.Moves good req d)
    (before : ∀ t : Timer, c.topreq ≠ t.running) (t : Timer) (after : d.topreq = t.running) :
    (d.timer t).scheduled = true := by
  have notWtr := before .wtr
  have notWtb := before .wtb
  cases moves with
  | stays | leaves stopped => exact absurd after (before t)
  | stops | stopsAndLeaves => cases t <;> grind
  | @expires u posted | @expiresAndLeaves u posted => cases t <;> cases u <;> grind
  | @starts u reverting elsewhere => cases t <;> cases u <;> grind
  | startFails answered refused elsewhere =>
    have accepted := schedules _ _ answered
    omega

theorem RunningTimed.answers (schedules : Schedules good) (moves : (c.remember req).Moves good req d)
    (notRunning : ∀ t : Timer, req ≠ t.running) (t : Timer) (after : d.topreq = t.running) :
    (d.timer t).scheduled = true := by
  refine moves.scheduled schedules (fun u same => ?_) t after
  have same' : req.remembered = u.running := same
  have notWtr := notRunning .wtr
  have notWtb := notRunning .wtb
  cases req <;> cases u <;> simp_all [Request.remembered, Timer.running]

theorem RunningTimed.posts (h : c.RunningTimed) (schedules : Schedules good)
    (notRunning : ∀ t : Timer, req ≠ t.running) (posted : c.Posts good req d) :
    d.RunningTimed := by
  cases posted with
  | missed answered busy => exact h
  | outranked stopped => exact h
  | answers passes moves =>
    intro t after
    have on := RunningTimed.answers schedules moves notRunning t after
    rw [Armed.busy, on, Bool.true_or]

theorem RunningTimed.fire (h : c.RunningTimed) (t : Timer) : (c.fire t).RunningTimed := by
  intro u same
  have same' : c.topreq = u.running := by cases t <;> exact same
  have busy := h u same'
  cases t <;> cases u <;> grind [Ctl.fire]

/-- The expiry of a timer, seen to its end: if its running signal is remembered the
handler has obtained the mutex. -/
theorem RunningTimed.handled (h : c.RunningTimed) (schedules : Schedules good) {t : Timer}
    (obtains : c.topreq = t.running → ∀ v, good .kMutexLock v → v = 0)
    (posted : c.Posts good t.expires d) : (d.finish t).RunningTimed := by
  -- once the signal of `t` is gone, the end of its handler does not matter
  have forgotten (gone : c.topreq ≠ t.running) : (c.finish t).RunningTimed := by
    intro u same
    have same' : c.topreq = u.running := by cases t <;> exact same
    have busy := h u same'
    cases t <;> cases u <;> first | exact absurd same' gone | exact busy
  cases posted with
  | missed answered busy => exact forgotten fun same => busy (obtains same _ answered)
  | outranked stopped =>
    refine forgotten fun same => stopped ⟨?_, .inl ?_⟩
    · cases t <;> nofun
    · rw [same]
      cases t <;> decide
  | answers passes moves =>
    have notRunning (u : Timer) : t.expires ≠ u.running := by cases t <;> cases u <;> decide
    intro u after
    have after' : d.topreq = u.running := by cases t <;> exact after
    have on := RunningTimed.answers schedules moves notRunning u after'
    cases t <;> cases u <;> grind [Ctl.finish]

theorem posts_notRunning {e : Event} {lnk : PortIdx} (posts : e.posts = some (lnk, req))
    (t : Timer) : req ≠ t.running := by
  cases e with
  | ctl lnk' ev =>
    cases posts
    cases ev <;> cases t <;> decide
  | raps lnk' req' pdu =>
    cases posts
    cases req' <;> cases t <;> decide
  | expiry u | handle u => cases u <;> cases posts <;> cases t <;> decide
  | fire u | elapse ms | iface lnk' up => cases posts

/-- The event runs the handler of the timer. -/
def handles (e : Event) (t : Timer) : Prop := e = .expiry t.expiry ∨ e = .handle t.expiry

theorem RunningTimed.happens {e : Event} (h : c.RunningTimed) (schedules : Schedules good)
    (obtains : ∀ t, handles e t → c.topreq = t.running → ∀ v, good .kMutexLock v → v = 0)
    (happens : c.Happens good e d) : d.RunningTimed := by
  cases happens with
  | nothing => exact h
  | requested posts noTimer posted => exact h.posts schedules (posts_notRunning posts) posted
  | fired t => exact h.fire t
  | handled t posted => exact h.handled schedules (obtains t (.inr rfl)) posted
  | expired t posted =>
    refine (h.fire t).handled schedules (fun same => ?_) posted
    exact obtains t (.inl rfl) (by cases t <;> exact same)

/-- At boot the topmost request is the running signal of a timer just scheduled. -/
theorem RunningTimed.boots (fresh : c.Fresh) (schedules : Schedules good)
    (boots : c.Boots good d) : (d.goto .pending).RunningTimed := by
  obtain ⟨-, topreq, -, -, wtr, wtb⟩ := fresh
  cases boots with
  | without => intro t same; cases t <;> grind
  | starts reverting => intro t same; cases t <;> grind
  | startFails answered refused =>
    have accepted := schedules .wtr _ answered
    omega

end Ctl

/-- Whenever a running signal is the local top priority request, its timer is pending. -/
def Node.RunningTimed (n : Node) : Prop :=
  ∀ t : Timer, n.localTopreq = t.running → (n.work t.item).isPending = true

/-- No call that schedules WTR or WTB is refused. -/
def schedulesTimers : KernelCall → Int → Prop
  | .kWorkReschedule .wtr, v | .kWorkReschedule .wtb, v => 0 ≤ v
  | _, _ => True

/-- In addition the handler of a timer whose running signal is the local top priority
request obtains the mutex. -/
def reliedOn (n : Node) (e : Event) (c : KernelCall) (v : Int) : Prop :=
  schedulesTimers c v ∧
    (c = .kMutexLock → (∃ t, Ctl.handles e t ∧ n.localTopreq = t.running) → v = 0)

theorem schedulesTimers_schedules : Ctl.Schedules schedulesTimers := by
  intro t v accepted
  cases t <;> exact accepted

theorem reliedOn_schedules (n : Node) (e : Event) : Ctl.Schedules (reliedOn n e) :=
  fun t v accepted => schedulesTimers_schedules t v accepted.1

theorem Sys.runningTimed {s : Sys} (h : s.timing.1.RunningTimed) : s.node.RunningTimed := by
  intro t same
  rw [s.isPending_eq]
  have busy : (s.timing.1.timer t).busy = true := h t same
  cases t <;> exact busy

/-- With timers that are never refused and expiries that are never dropped while their
running signal counts, a running signal never outlives its timer, whatever the other
calls answer and however the events interleave. -/
theorem running_timed {s : Sys} {xs : List Step} (init : InitialisedWith schedulesTimers s)
    (relied : Runs.EachStep Sys.step s xs fun _ t x => Respects (reliedOn t.node x.1) x.2) :
    Runs.EachState Sys.step s xs fun _ t => t.node.RunningTimed := by
  obtain ⟨boot, ans, booted, answers, rfl⟩ := init
  obtain ⟨setup, d, boots, inits⟩ := (fsmInit_boots boot).post ans answers
  have formed : (boot.initialise ans).setup.WellFormed := setup ▸ booted.formed
  have start : (boot.initialise ans).timing.1.RunningTimed :=
    inits ▸ Ctl.RunningTimed.boots booted.fresh.timing schedulesTimers_schedules boots
  have run : Runs.EachState Sys.step (boot.initialise ans) xs fun _ t =>
      t.setup.WellFormed ∧ t.timing.1.RunningTimed := by
    refine Runs.eachState_of_eachStep ⟨formed, start⟩ relied ?_
    rintro pre t x - answers ⟨formed, before⟩
    obtain ⟨formed', happens⟩ := (event_happens t x.1 formed).post x.2 answers
    refine ⟨formed', before.happens (reliedOn_schedules _ _) ?_ happens⟩
    exact fun u handler same v locked => locked.2 rfl ⟨u, handler, same⟩
  exact run.mono fun _ _ h => Sys.runningTimed h.2

theorem allSucceed_reliedOn (n : Node) (e : Event) : Respects (reliedOn n e) allSucceed := by
  intro k c
  refine ⟨?_, ?_⟩
  · cases c with
    | kWorkReschedule w => cases w <;> first | trivial | exact Int.le_refl 0
    | _ => trivial
  · rintro rfl -
    rfl

/-- A signal fail, its end and the expiry of WTR, with no call failing. -/
theorem running_timed_owner :
    Runs.EachState Sys.step (sampleNode true false (sampleDevice 0 1) (sampleDevice 1 2)).started
      (succeeding [.ctl .port0 .signalFail, .ctl .port0 .clearSignalFail, .expiry .wtr])
      fun _ t => t.node.RunningTimed := by
  have succeeds : ∀ x ∈ succeeding [.ctl .port0 .signalFail, .ctl .port0 .clearSignalFail,
      .expiry .wtr], x.2 = allSucceed := by
    simp [succeeding]
  refine running_timed ⟨_, allSucceed, DtNode.boot_booted _, ?_, rfl⟩ ?_
  · exact fun k c => (allSucceed_reliedOn (sampleNode true false (sampleDevice 0 1)
      (sampleDevice 1 2)).node (.elapse 0) k c).1
  · refine (Runs.eachStep_of_forall succeeds).mono fun pre t x same => ?_
    rw [same]
    exact allSucceed_reliedOn t.node x.1

/-- WTR expires on a node that has just booted, and its handler does not obtain the mutex:
the node stays in pending with a running signal and no timer. -/
theorem expiry_dropped : ¬∀ (s : Sys) (xs : List Step), InitialisedWith anyAnswer s →
    (s.run xs).node.RunningTimed := by
  intro timed
  have here := timed (sampleNode true false (sampleDevice 0 1) (sampleDevice 1 2)).started
    [(.expiry .wtr, missesMutex)] ⟨_, _, DtNode.boot_booted _, respects_any _, rfl⟩
  have pending := here .wtr (by decide)
  exact absurd pending (by decide)

/-! ## A running timer keeps its priority -/

namespace Ctl

-- here the priorities themselves matter
attribute [local grind] Request.toNat

variable {c : Ctl} {o : Seen} {lnk : PortIdx} {req : Request}

def TimersFirst (c : Ctl) : Prop :=
  ∀ t : Timer, (c.timer t).scheduled = true → c.topreq = t.running

section
variable {d : Ctl}

/-- A timer that is started is started with its running signal. -/
theorem TimersFirst.starting (wtr : c.wtr.scheduled = false) (wtb : c.wtb.scheduled = false)
    (reacts : Reacts o lnk (c.take lnk req) req d) : d.TimersFirst := by
  cases reacts with
  | idles quiet => rintro (_ | _) <;> grind
  | switches row => rintro (_ | _) <;> cases row <;> cases lnk <;> grind
  | yields row => rintro (_ | _) <;> cases row <;> grind
  | @returns t row | @returnsRb t row => rintro (_ | _) <;> cases t <;> grind
  | forces state | clears state | reverts state | recovers state | conflicts state
  | electsIdle state | settlesIdle state | electsPending state | settlesPending state
  | wtrExpires state | wtbExpires state => rintro (_ | _) <;> grind

/-- Over a running signal nothing passes that the RPL owner could answer in pending
without stopping its timers, but a clear SF and the expiry of the timer itself. -/
theorem TimersFirst.stopping {t : Timer} (topreq : c.topreq = t.running)
    (state : c.state = .pending) (owner : c.role = .owner) (passes : c.Passes req)
    (heard : req ≠ .clearSf) (notRunning : ∀ t : Timer, req ≠ t.running)
    (fired : ∀ t : Timer, req = t.expires → (c.timer t).scheduled = false)
    (reacts : Reacts o lnk (c.take lnk req) req d) (u : Timer) :
    (d.timer u).scheduled = false := by
  obtain ⟨-, higher⟩ := passes
  have notWtr := notRunning .wtr
  have notWtb := notRunning .wtb
  have state' : (c.take lnk req).state = .pending := state
  cases reacts with
  | idles quiet => cases t <;> cases req <;> grind
  | switches row => cases u <;> cases row <;> cases lnk <;> grind
  | yields row => cases u <;> cases row <;> grind
  | @returns t row | @returnsRb t row => grind
  | forces elsewhere | recovers elsewhere | conflicts elsewhere | electsIdle elsewhere
  | settlesIdle elsewhere => grind
  | clears elsewhere => grind
  | reverts _ => cases u <;> grind
  | electsPending _ | settlesPending _ => cases t <;> grind
  | wtrExpires _ =>
    have off := fired .wtr rfl
    cases u <;> grind
  | wtbExpires _ =>
    have off := fired .wtb rfl
    cases u <;> grind

end

theorem TimersFirst.post (h : c.TimersFirst) (placed : c.Placed)
    (fired : ∀ t : Timer, req = t.expires → (c.timer t).scheduled = false)
    (spared : req = .clearSf → ∀ t, (c.timer t).scheduled = false)
    (notRunning : ∀ t : Timer, req ≠ t.running) : (c.post o lnk req).TimersFirst := by
  by_cases passes : c.Passes req
  case neg => rwa [post_of_not_passes passes]
  have reacts := post_reacts o lnk passes
  by_cases timing : ∃ t, (c.timer t).scheduled = true
  · obtain ⟨t, on⟩ := timing
    obtain ⟨state, owner, -⟩ := placed.pending t on
    have heard : req ≠ .clearSf := fun same => by simp [spared same t] at on
    intro u on'
    have off := TimersFirst.stopping (h t on) state owner passes heard notRunning fired reacts u
    rw [off] at on'
    cases on'
  · have off (t : Timer) : (c.timer t).scheduled = false :=
      Bool.eq_false_iff.mpr fun on => timing ⟨t, on⟩
    exact TimersFirst.starting (off .wtr) (off .wtb) reacts

theorem TimersFirst.fire (h : c.TimersFirst) (t : Timer) : (c.fire t).TimersFirst := by
  intro u on
  have wtr := h .wtr
  have wtb := h .wtb
  cases t <;> cases u <;> grind [Ctl.fire]

theorem TimersFirst.finish (h : c.TimersFirst) (t : Timer) : (c.finish t).TimersFirst := by
  intro u on
  have on' : (c.timer u).scheduled = true := by cases t <;> cases u <;> exact on
  cases t <;> exact h u on'

/-- The end of a timer, seen from its start. -/
theorem TimersFirst.expire (h : c.TimersFirst) (placed : c.Placed) (t : Timer) :
    (((c.fire t).post o .port0 t.expires).finish t).TimersFirst := by
  refine TimersFirst.finish ((h.fire t).post (placed.fire t) ?_ ?_ ?_) t
  · intro u same
    have same' : t = u := by cases t <;> cases u <;> first | rfl | cases same
    subst same'
    cases t <;> rfl
  · cases t <;> nofun
  · intro u
    cases t <;> cases u <;> decide

/-- A clear SF is posted while a timer is scheduled. -/
def ClearsWhileTiming (c : Ctl) (e : Event) : Prop :=
  ∃ lnk t, e.posts = some (lnk, .clearSf) ∧ (c.timer t).scheduled = true

theorem post_clearSf_pending (state : c.state = .pending) (passes : c.Passes .clearSf) :
    c.post o lnk .clearSf = c.take lnk .clearSf := by
  rw [post, if_pos passes]
  have reacts : (c.take lnk .clearSf).react o lnk .clearSf = c.take lnk .clearSf := by
    have state' : (c.take lnk .clearSf).state = .pending := state
    rw [react, state']
    rfl
  by_cases ignored : (c.take lnk .clearSf).ignores lnk .clearSf
  · exact if_pos ignored
  · exact (if_neg ignored).trans reacts

theorem timersFirst_step {e : Event} (h : c.TimersFirst) (placed : c.TimersPlaced)
    (prompt : e.prompt = true) : (c.step o e).TimersFirst ↔ ¬c.ClearsWhileTiming e := by
  constructor
  · rintro after ⟨lnk, t, posts, on⟩
    -- the node is in pending, so the clear SF is remembered and nothing else happens
    have state := (placed.placed.pending t on).1
    have topreq := h t on
    have passes : c.Passes .clearSf := by
      refine ⟨nofun, .inl ?_⟩
      rw [topreq]
      cases t <;> decide
    have same : c.step o e = c.take lnk .clearSf := by
      rw [posts_clearSf posts]
      exact post_clearSf_pending state passes
    rw [same] at after
    have running : Request.invalid = t.running := after t (by cases t <;> exact on)
    cases t <;> cases running
  · intro spared
    have other {lnk : PortIdx} {req : Request} (posts : e.posts = some (lnk, req))
        (noTimer : ∀ t : Timer, req ≠ t.expires) : (c.post o lnk req).TimersFirst := by
      refine h.post placed.placed (fun t same => absurd same (noTimer t)) ?_
        (posts_notRunning posts)
      rintro rfl t
      exact Bool.eq_false_iff.mpr fun on => spared ⟨lnk, t, posts, on⟩
    cases e with
    | ctl lnk ev => exact other rfl (by rintro (_ | _) <;> cases ev <;> decide)
    | raps lnk req pdu => exact other rfl (by rintro (_ | _) <;> cases req <;> decide)
    | expiry t =>
      cases t with
      | wtr => exact h.expire placed.placed .wtr
      | wtb => exact h.expire placed.placed .wtb
      | linkDown lnk => exact other rfl (by rintro (_ | _) <;> decide)
    | fire t | handle t => cases prompt
    | elapse ms | iface lnk up => exact h

theorem TimersFirst.booted (role : Role) (revertive : Bool) (up : Ports Bool) :
    (Ctl.booted role revertive up).TimersFirst := by
  rintro (_ | _) on <;> cases role <;> cases revertive <;> first | rfl | cases on

end Ctl

/-- A request that the priority logic stops changes nothing. -/
theorem fsmPost_outranked {good : KernelCall → Int → Prop} (s : Sys) {lnk : PortIdx}
    {req : Request} {pdu : Option RapsPdu} (other : req ≠ .clearSf)
    (outranked : ¬s.ctl.Passes req) :
    wp good anyState (fsmPost lnk req pdu) (fun _ t => t = s) s := by
  refine wp_bind (wp_call fun v _ => wp_ite (fun _ => wp_pure rfl) fun _ => ?_)
  unfold fsmPostLocked
  refine wp_bindWhen ?_
  refine wp_ite (fun clears => absurd clears other) fun _ => wp_pure ?_
  refine wp_bind (wp_mono (wp_resolve s req) ?_)
  rintro ret t ⟨rfl, rfl⟩
  rw [if_neg outranked, if_neg outranked]
  exact wp_ite (fun _ => wp_pure rfl) fun ok => absurd rfl ok

/-- A timer that is pending has its running signal remembered, and R-APS(NR) and
R-APS(NR,RB) change nothing. -/
structure Sys.TimersFirst (s : Sys) : Prop where
  first : ∀ t : Timer, (s.node.work t.item).isPending = true → s.node.localTopreq = t.running
  undisturbed : ∀ t : Timer, (s.node.work t.item).isPending = true →
    ∀ lnk req pdu ans, req = .nr ∨ req = .nrRb → s.step (.raps lnk req pdu, ans) = s

theorem Sys.timersFirst_iff {s : Sys} (placed : s.ctl.TimersPlaced) :
    s.TimersFirst ↔ s.ctl.TimersFirst := by
  have pending_iff (t : Timer) : (s.node.work t.item).isPending = true ↔
      (s.ctl.timer t).scheduled = true := by
    rw [s.isPending_eq, placed.busy_iff]
  constructor
  · intro h t on
    exact h.first t ((pending_iff t).mpr on)
  · intro h
    refine ⟨fun t pending => h t ((pending_iff t).mp pending), ?_⟩
    intro t pending lnk req pdu ans which
    have topreq := h t ((pending_iff t).mp pending)
    have outranked : ¬s.ctl.Passes req.request := by
      rw [Ctl.Passes, topreq]
      rcases which with rfl | rfl <;> cases t <;>
        simp [RapsRequest.request, Request.toNat, Timer.running]
    have other : req.request ≠ .clearSf := by rcases which with rfl | rfl <;> decide
    have unchanged : wp anyAnswer anyState (Event.raps lnk req pdu).prog (fun _ t => t = s) s :=
      wp_bind (wp_mono (fsmPost_outranked s other outranked) fun _ _ same => wp_pure same)
    exact unchanged.post ans (respects_any ans)

/-- No clear SF is posted while WTR or WTB is pending. -/
def SparesTimers (_ : List Step) (s : Sys) (x : Step) : Prop :=
  ∀ lnk (t : Timer), x.1.posts = some (lnk, .clearSf) → (s.node.work t.item).isPending = false

/-- With every call succeeding and expiries handled at once, a timer keeps its priority
all along a run if and only if no clear SF of the run is posted while one is pending. -/
theorem timers_first_iff {s : Sys} {xs : List Step} (init : Initialised s)
    (succeeds : ∀ x ∈ xs, x.Succeeds) (prompt : ∀ x ∈ xs, x.1.prompt = true) :
    Runs.EachState Sys.step s xs (fun _ t => t.TimersFirst) ↔
      Runs.EachStep Sys.step s xs SparesTimers := by
  have placed := timersPlaced_run init.any prompt
  have formed := eachState_formed init succeeds
  have invariants : Runs.EachState Sys.step s xs fun _ t =>
      t.setup.WellFormed ∧ t.ctl.TimersPlaced :=
    fun pre member => ⟨formed pre member, placed pre member⟩
  refine Runs.eachState_iff_eachStep invariants ?_ ?_
  · rw [Sys.timersFirst_iff placed.start, init.booted.2]
    exact Ctl.TimersFirst.booted _ _ _
  · rintro pre t x same member ⟨formed', placed'⟩ before
    have succeeds' : x.Succeeds := succeeds x (member.subset (by simp))
    have prompt' : x.1.prompt = true := prompt x (member.subset (by simp))
    have after : (t.step x).ctl.TimersPlaced := by
      have concat : s.run (pre ++ [x]) = t.step x := by rw [Sys.run, Runs.run_concat, same]
      exact concat ▸ placed (pre ++ [x]) member
    rw [Sys.timersFirst_iff placed'] at before
    rw [Sys.timersFirst_iff after, Sys.step_ctl formed' succeeds',
      Ctl.timersFirst_step before placed' prompt']
    simp only [Ctl.ClearsWhileTiming, SparesTimers, Sys.isPending_eq, placed'.busy_iff, not_exists,
      not_and, Bool.not_eq_true]

/-- WTB does not run here, so its expiry finds WTR running. -/
theorem timers_first_iff_owner :
    let s := (sampleNode true false (sampleDevice 0 1) (sampleDevice 1 2)).started
    let xs := succeeding [.ctl .port0 .signalFail, .expiry .wtb]
    Runs.EachState Sys.step s xs (fun _ t => t.TimersFirst) ↔
      Runs.EachStep Sys.step s xs SparesTimers :=
  timers_first_iff (DtNode.started_initialised _) (succeeding_succeeds _)
    (by simp [succeeding, Event.prompt])

/-- A clear SF on a node that has just booted: WTR runs on, and the node has forgotten its
running signal. -/
theorem signal_forgotten : ¬∀ (s : Sys) (xs : List Step), Initialised s →
    (∀ x ∈ xs, x.Succeeds) → (∀ x ∈ xs, x.1.prompt = true) → (s.run xs).TimersFirst := by
  intro first
  have here := first (sampleNode true false (sampleDevice 0 1) (sampleDevice 1 2)).started
    (succeeding [.ctl .port0 .clearSignalFail]) (DtNode.started_initialised _)
    (succeeding_succeeds _) (by simp [succeeding, Event.prompt])
  have signal := here.first .wtr (by decide)
  exact absurd signal (by decide)

end Erps
