import Erps.Ctl.Reacts
import Erps.Timing.Posts

/-!
# Where the timers run

WTR and WTB are scheduled in pending only, by the RPL owner of a revertive ring only,
and never both, whichever calls fail.
-/
namespace Erps

open Calls

namespace Ctl

attribute [grind] Timer.other Timer.expires rearm remember

variable {good : KernelCall → Int → Prop} {c d : Ctl} {req : Request}

/-- No handler starts or ends the handler of a timer. -/
theorem Moves.running (moves : c.Moves good req d) (t : Timer) :
    (d.timer t).running = (c.timer t).running := by
  cases moves with
  | stays | leaves stopped => rfl
  | stops | stopsAndLeaves => cases t <;> grind
  | @expires u posted | @expiresAndLeaves u posted => cases t <;> cases u <;> rfl
  | @starts u reverting elsewhere => cases t <;> cases u <;> grind
  | @startFails u v answered refused elsewhere => cases t <;> cases u <;> grind

structure Placed (c : Ctl) : Prop where
  pending : ∀ t, (c.timer t).scheduled = true →
    c.state = .pending ∧ c.role = .owner ∧ c.revertive = true
  single : ∀ t, (c.timer t).scheduled = true → (c.timer t.other).scheduled = false

theorem Placed.of_none (none : ∀ t, (c.timer t).scheduled ≠ true) : c.Placed :=
  ⟨fun t on => absurd on (none t), fun t on => absurd on (none t)⟩

/-- In the same state with fewer timers scheduled. -/
theorem Placed.fewer (h : c.Placed)
    (same : d.state = c.state ∧ d.role = c.role ∧ d.revertive = c.revertive)
    (fewer : ∀ t, (d.timer t).scheduled = true → (c.timer t).scheduled = true) : d.Placed := by
  obtain ⟨state, role, revertive⟩ := same
  constructor
  · intro t on
    rw [state, role, revertive]
    exact h.pending t (fewer t on)
  · intro t on
    have off : (c.timer t.other).scheduled = false := h.single t (fewer t on)
    exact Bool.eq_false_iff.mpr fun on' => by simp [fewer t.other on'] at off

/-- A handler keeps the timers in place, provided that an expiry is handled after its
timer has fired. -/
theorem Placed.moves (h : c.Placed) (fired : ∀ t : Timer, req = t.expires →
    (c.timer t).scheduled = false) (moves : c.Moves good req d) : d.Placed := by
  cases moves with
  | stays => exact h
  | leaves stopped =>
    -- nothing is scheduled: in pending this is no RPL owner
    refine .of_none fun t on => ?_
    have on' : (c.timer t).scheduled = true := by cases t <;> exact on
    exact stopped (h.pending t on').1 (h.pending t on').2.1
  | stops => exact h.fewer (by grind) (by rintro (_ | _) <;> grind)
  | stopsAndLeaves =>
    refine .of_none fun t on => ?_
    by_cases owner : c.role = .owner
    · cases t <;> grind
    · have on' : (c.timer t).scheduled = true := by cases t <;> grind
      exact owner (h.pending t on').2.1
  | @expires u posted =>
    refine h.fewer ?_ (by rintro (_ | _) <;> cases u <;> grind)
    cases u <;> exact ⟨rfl, rfl, rfl⟩
  | @expiresAndLeaves u posted =>
    -- the timer that expired has fired, and the other one is stopped
    have off := fired u posted
    exact .of_none (by rintro (_ | _) <;> cases u <;> grind)
  | @starts u reverting elsewhere | @startFails u v answered refused elsewhere =>
    have off (t : Timer) : (c.timer t).scheduled ≠ true := fun on => elsewhere (h.pending t on).1
    have wtr := off .wtr
    have wtb := off .wtb
    constructor <;> rintro (_ | _) <;> cases u <;> grind

theorem Placed.posts (h : c.Placed) (fired : ∀ t : Timer, req = t.expires →
    (c.timer t).scheduled = false) (posted : c.Posts good req d) : d.Placed := by
  cases posted with
  | missed answered busy => exact h
  | outranked stopped => exact h
  | answers passes moves =>
    have remembered : (c.remember req).Placed :=
      h.fewer ⟨rfl, rfl, rfl⟩ (by rintro (_ | _) <;> exact id)
    refine remembered.moves (fun t posted => ?_) moves
    cases t
    · exact fired .wtr posted
    · exact fired .wtb posted

theorem Posts.running (posted : c.Posts good req d) (t : Timer) :
    (d.timer t).running = (c.timer t).running := by
  cases posted with
  | missed answered busy => rfl
  | outranked stopped => rfl
  | answers passes moves =>
    rw [moves.running]
    cases t <;> rfl

theorem Placed.fire (h : c.Placed) (t : Timer) : (c.fire t).Placed := by
  refine h.fewer ?_ ?_
  · cases t <;> exact ⟨rfl, rfl, rfl⟩
  · rintro (_ | _) <;> cases t <;> grind [Ctl.fire]

theorem Placed.finish (h : c.Placed) (t : Timer) : (c.finish t).Placed := by
  refine h.fewer ?_ ?_
  · cases t <;> exact ⟨rfl, rfl, rfl⟩
  · rintro (_ | _) <;> cases t <;> exact id

/-- Between requests: the timers are in place and no handler of a timer runs. -/
structure TimersPlaced (c : Ctl) : Prop where
  placed : c.Placed
  returned : ∀ t, (c.timer t).running = false

theorem TimersPlaced.happens {e : Event} (h : c.TimersPlaced) (prompt : e.prompt = true)
    (happens : c.Happens good e d) : d.TimersPlaced := by
  obtain ⟨placed, returned⟩ := h
  cases happens with
  | nothing => exact ⟨placed, returned⟩
  | requested posts noTimer posted =>
    refine ⟨placed.posts (fun t posted => absurd posted (noTimer t)) posted, fun t => ?_⟩
    rw [posted.running]
    exact returned t
  | fired t => cases t <;> cases prompt
  | handled t posted => cases t <;> cases prompt
  | @expired t d posted =>
    have fired : ((c.fire t).timer t).scheduled = false := by cases t <;> rfl
    have placed' : d.Placed := by
      refine (placed.fire t).posts (fun u posted => ?_) posted
      have same : t = u := by cases t <;> cases u <;> first | rfl | cases posted
      exact same ▸ fired
    refine ⟨placed'.finish t, fun u => ?_⟩
    have kept := posted.running u
    have returned' := returned u
    cases t <;> cases u <;> grind [Ctl.finish, Ctl.fire]

/-- At boot at most WTR is started. -/
theorem TimersPlaced.boots (fresh : c.Fresh) (boots : c.Boots good d) :
    (d.goto .pending).TimersPlaced := by
  obtain ⟨state, -, -, -, wtr, wtb⟩ := fresh
  cases boots with
  | without | startFails answered refused =>
    refine ⟨.of_none ?_, ?_⟩ <;> rintro (_ | _) <;> grind
  | starts reverting =>
    refine ⟨⟨?_, ?_⟩, ?_⟩ <;> rintro (_ | _) <;> grind

theorem Fresh.timing (fresh : c.Fresh) : c.timing.Fresh :=
  ⟨fresh.state, fresh.topreq, rfl, rfl, fresh.wtr, fresh.wtb⟩

theorem TimersPlaced.of_timing (h : c.timing.TimersPlaced) : c.TimersPlaced := by
  refine ⟨h.placed.fewer ⟨rfl, rfl, rfl⟩ (by rintro (_ | _) <;> exact id), ?_⟩
  rintro (_ | _)
  · exact h.returned .wtr
  · exact h.returned .wtb

end Ctl

/-- WTR and WTB run only where they belong. -/
structure Node.TimersPlaced (n : Node) : Prop where
  placed : n.wtrDwork.isPending = true ∨ n.wtbDwork.isPending = true →
    n.state = .pending ∧ n.rplOwner = true ∧ n.revertive = true
  single : ¬(n.wtrDwork.isPending = true ∧ n.wtbDwork.isPending = true)

/-- The timers of the state machine are those of the node. -/
theorem Sys.isPending_eq (s : Sys) (t : Timer) :
    (s.node.work t.item).isPending = (s.ctl.timer t).busy := by
  cases t <;> rfl

theorem Ctl.TimersPlaced.busy_iff {c : Ctl} (h : c.TimersPlaced) (t : Timer) :
    (c.timer t).busy = (c.timer t).scheduled := by
  rw [Armed.busy, h.returned t, Bool.or_false]

theorem Sys.timersPlaced {s : Sys} (h : s.ctl.TimersPlaced) : s.node.TimersPlaced := by
  have scheduled (t : Timer) (pending : (s.node.work t.item).isPending = true) :
      (s.ctl.timer t).scheduled = true := by
    rwa [s.isPending_eq, h.busy_iff] at pending
  have placed (t : Timer) (pending : (s.node.work t.item).isPending = true) :
      s.node.state = .pending ∧ s.node.rplOwner = true ∧ s.node.revertive = true := by
    obtain ⟨state, role, revertive⟩ := h.placed.pending t (scheduled t pending)
    exact ⟨state, s.owner_eq.trans (beq_iff_eq.mpr role), revertive⟩
  constructor
  · rintro (pending | pending)
    · exact placed .wtr pending
    · exact placed .wtb pending
  · rintro ⟨wtr, wtb⟩
    have off := h.placed.single .wtr (scheduled .wtr wtr)
    rw [Timer.other, scheduled .wtb wtb] at off
    cases off

/-- The timers are in place along every run whose expiries are handled at once. -/
theorem timersPlaced_run {s : Sys} {xs : List Step} (init : InitialisedWith anyAnswer s)
    (prompt : ∀ x ∈ xs, x.1.prompt = true) :
    Runs.EachState Sys.step s xs fun _ t => t.ctl.TimersPlaced := by
  obtain ⟨boot, ans, booted, answers, rfl⟩ := init
  obtain ⟨setup, d, boots, inits⟩ := (fsmInit_boots boot).post ans answers
  have formed : (boot.initialise ans).setup.WellFormed := setup ▸ booted.formed
  have start : (boot.initialise ans).timing.1.TimersPlaced :=
    inits ▸ Ctl.TimersPlaced.boots booted.fresh.timing boots
  have run : Runs.EachState Sys.step (boot.initialise ans) xs fun _ t =>
      t.setup.WellFormed ∧ t.timing.1.TimersPlaced := by
    refine Runs.eachState_of_eachStep ⟨formed, start⟩ (Runs.eachStep_of_forall prompt) ?_
    rintro pre t x - now ⟨formed, before⟩
    obtain ⟨formed', happens⟩ := (event_happens t x.1 formed).post x.2 (respects_any x.2)
    exact ⟨formed', before.happens now happens⟩
  exact run.mono fun _ _ h => h.2.of_timing

/-- Whatever the calls answer, also those made by `erps_fsm_init`: a timer that is
pending is that of the RPL owner of a revertive ring in pending, and the other one is
not. -/
theorem timers_placed {s : Sys} {xs : List Step} (init : InitialisedWith anyAnswer s)
    (prompt : ∀ x ∈ xs, x.1.prompt = true) : (s.run xs).node.TimersPlaced :=
  Sys.timersPlaced (timersPlaced_run init prompt).last

/-- A protection switch and back on the RPL owner, with a driver that refuses to open
ports. -/
theorem timers_placed_owner :
    ((sampleNode true false (sampleDevice 0 1) (sampleDevice 1 2)).started.run
      [(.ctl .port0 .signalFail, refusesOpening), (.ctl .port0 .clearSignalFail, allSucceed),
        (.expiry .wtr, refusesOpening)]).node.TimersPlaced := by
  refine timers_placed ⟨_, _, DtNode.boot_booted _, respects_any _, rfl⟩ ?_
  intro x member
  simp only [List.mem_cons, List.not_mem_nil, or_false] at member
  rcases member with rfl | rfl | rfl <;> rfl

end Erps
