import Erps.Ctl.Reacts

/-!
# Signal fails, remembered and forgotten

A signal fail leaves two traces, the failed flag of the link and the remembered
request. Neither is exact. The flag is set by a signal fail that passes the
priority logic and cleared by whatever hands the link to `erps_link_unblock`,
which a clear signal fail does not do. The remembered request protects until
another request that passes takes its place.
-/
namespace Erps

open Runs

/-- The link has had a signal fail and no clear signal fail since. -/
def Outstanding (lnk : PortIdx) (past : List Step) : Prop :=
  Since (fun x => x.1.posts = some (lnk, .sf)) (fun x => x.1.posts = some (lnk, .clearSf)) past

/-! ## The failed flag -/

namespace Ctl

/-- The links a request that passes opens, failed or not. -/
def opens (c : Ctl) (lnk : PortIdx) (req : Request) (j : PortIdx) : Bool :=
  match c.state, req with
  | .idle, .fs | .idle, .sf | .idle, .ms => j == lnk.other
  | .idle, .rapsFs => true
  | .idle, .rapsNrRb => c.role != .plain && j == .port0
  | .protection, .fs | .protection, .sf => j == lnk.other
  | .protection, .rapsFs => true
  | .manualSwitch, .fs | .manualSwitch, .sf => j == lnk.other
  | .manualSwitch, .rapsFs => true
  | .pending, .fs | .pending, .sf | .pending, .ms => j == lnk.other
  | .pending, .rapsFs => true
  | .pending, .clear => c.role != .plain && j == .port0
  | .pending, .wtrExpires | .pending, .wtbExpires => c.role == .owner && j == .port0
  | .pending, .rapsNrRb => c.role == .plain || (c.role == .nbr && j == .port0)
  | _, _ => false

variable {c : Ctl} {o : Seen} {lnk : PortIdx} {req : Request}

theorem opens_of_quiet (j : PortIdx)
    (quiet : c.state.noAction req = true ∨ c.ignores lnk req) : c.opens lnk req j = false := by
  unfold opens
  rcases quiet with quiet | ⟨rfl, -, -, -⟩
  · cases state : c.state <;> rw [state] at quiet <;> cases req <;>
      simp_all [NodeState.noAction]
  · cases c.state <;> rfl

theorem opens_of_switch {reqState : UInt8} {next : NodeState} (j : PortIdx)
    (row : Switch c.state req reqState next) : c.opens lnk req j = (j == lnk.other) := by
  unfold opens
  generalize c.state = state at row
  cases row with
  | fs notForced notUninit | sf notForced notUninit => cases state <;> simp_all
  | ms from_ => rcases from_ with rfl | rfl <;> rfl

/-- Only R-APS(FS) opens failed ports; the others spare them. -/
theorem opens_of_yield {onlyNonFailed : Bool} {next : NodeState} (j : PortIdx)
    (row : Yield c.state req onlyNonFailed next) : c.opens lnk req j = !onlyNonFailed := by
  unfold opens
  generalize c.state = state at row
  cases row with
  | fs notForced notUninit => cases state <;> simp_all
  | sf from_ => rcases from_ with rfl | rfl | rfl <;> rfl
  | ms from_ => rcases from_ with rfl | rfl <;> rfl

theorem opens_of_return {t : Timer} (rb : Bool) (j : PortIdx)
    (row : c.state.returnTimer = some t) :
    c.opens lnk (if rb then .rapsNrRb else .rapsNr) j = false := by
  unfold opens
  generalize c.state = state at row
  cases state <;> cases rb <;> simp_all [NodeState.returnTimer]

theorem post_failed (passes : c.Passes req) (j : PortIdx) :
    (c.post o lnk req).failed.get j =
      if c.opens lnk req j then false
      else if req = .sf ∧ j = lnk then true
      else c.failed.get j := by
  have reacts := post_reacts o lnk passes
  generalize c.post o lnk req = d at reacts
  cases reacts with
  | idles quiet =>
    have none : c.opens lnk req j = false := opens_of_quiet j quiet
    rw [none]
    cases lnk <;> cases j <;> grind
  | switches row =>
    have other : c.opens lnk req j = (j == lnk.other) := opens_of_switch j row
    rw [other]
    cases row <;> cases lnk <;> cases j <;> grind
  | @yields _ onlyNonFailed _ row =>
    have all : c.opens lnk req j = !onlyNonFailed := opens_of_yield j row
    rw [all]
    cases row <;> cases j <;> grind
  | @returns t row =>
    have none : c.opens lnk .rapsNr j = false := opens_of_return false j row
    cases t <;> cases j <;> grind
  | @returnsRb t row =>
    have none : c.opens lnk .rapsNrRb j = false := opens_of_return true j row
    cases t <;> cases j <;> grind
  | forces state | clears state | reverts state | recovers state | conflicts state
  | electsIdle state | settlesIdle state | electsPending state | settlesPending state
  | wtrExpires state | wtbExpires state => cases j <;> grind [opens]

/-- The link of a signal fail is not one that it opens. -/
theorem opens_sf (c : Ctl) (lnk : PortIdx) : c.opens lnk .sf lnk = false := by
  unfold opens
  cases c.state <;> cases lnk <;> rfl

theorem opens_clearSf (j : PortIdx) : c.opens lnk .clearSf j = false := by
  unfold opens
  cases c.state <;> rfl

theorem modTimer_failed (f : Armed → Armed) (t : Timer) :
    (c.modTimer f t).failed = c.failed := by
  cases t <;> rfl

theorem modTimer_passes (f : Armed → Armed) (t : Timer) :
    (c.modTimer f t).Passes req ↔ c.Passes req := by
  cases t <;> rfl

theorem modTimer_opens (f : Armed → Armed) (t : Timer) (j : PortIdx) :
    (c.modTimer f t).opens lnk req j = c.opens lnk req j := by
  cases t <;> rfl

/-- The failed flags after an event that posts a request. -/
theorem step_failed {e : Event} (posts : e.posts = some (lnk, req)) (j : PortIdx) :
    (c.step o e).failed.get j =
      if c.Passes req then
        if c.opens lnk req j then false
        else if req = .sf ∧ j = lnk then true
        else c.failed.get j
      else c.failed.get j := by
  obtain ⟨f, g, t, same⟩ := step_posts (c := c) (o := o) posts
  rw [same, modTimer_failed]
  split
  · next passes =>
    rw [post_failed ((modTimer_passes f t).mpr passes), modTimer_opens, modTimer_failed]
  · next outranked =>
    rw [post_of_not_passes (mt (modTimer_passes f t).mp outranked), modTimer_failed]

end Ctl

/-- The failed flags say exactly which links have an outstanding signal fail. -/
def FailedExact (past : List Step) (s : Sys) : Prop :=
  ∀ j, (s.link j).failed = true ↔ Outstanding j past

/-- The step clears no outstanding signal fail, raises none that the priority logic
stops, and opens no link that has one. -/
def KeepsFlags (past : List Step) (s : Sys) (x : Step) : Prop :=
  ∀ lnk req, x.1.posts = some (lnk, req) →
    (req = .clearSf → ¬Outstanding lnk past) ∧
      (req = .sf → s.ctl.Passes .sf ∨ Outstanding lnk past) ∧
        (s.ctl.Passes req → ∀ j, s.ctl.opens lnk req j = true → ¬Outstanding j past)

theorem outstanding_concat (j : PortIdx) (past : List Step) (x : Step) :
    Outstanding j (past ++ [x]) ↔ x.1.posts = some (j, .sf) ∨
      (Outstanding j past ∧ x.1.posts ≠ some (j, .clearSf)) :=
  since_concat x

theorem failedExact_step {past : List Step} {s : Sys} {x : Step} (formed : s.setup.WellFormed)
    (succeeds : x.Succeeds) (exactly : FailedExact past s) :
    FailedExact (past ++ [x]) (s.step x) ↔ KeepsFlags past s x := by
  unfold FailedExact at exactly ⊢
  simp only [Sys.link_failed, outstanding_concat] at exactly ⊢
  rw [Sys.step_ctl formed succeeds]
  cases posts : x.1.posts with
  | none =>
    obtain ⟨f, t, same⟩ := Ctl.step_silent (c := s.ctl) (o := s.setup.seen x.1) posts
    rw [same, Ctl.modTimer_failed]
    simp [KeepsFlags, posts, exactly]
  | some posted =>
    obtain ⟨lnk, req⟩ := posted
    simp only [KeepsFlags, posts, Ctl.step_failed posts]
    constructor
    · rintro after lnk' req' same
      cases same
      refine ⟨?_, ?_, ?_⟩
      · rintro rfl outstanding
        -- nothing that answers a clear signal fail clears the flag
        have here := after lnk
        simp [Ctl.opens_clearSf, exactly, outstanding] at here
      · rintro rfl
        by_contra neither
        push Not at neither
        have here := after lnk
        simp [neither.1, exactly, neither.2] at here
      · intro passes j opened outstanding
        have here := after j
        have notClear : req ≠ .clearSf := by
          rintro rfl
          simp [Ctl.opens_clearSf] at opened
        simp [passes, opened, outstanding, notClear] at here
    · intro keeps j
      obtain ⟨cleared, raised, opened⟩ := keeps lnk req rfl
      have opensSf := s.ctl.opens_sf lnk
      have before := exactly j
      by_cases passes : s.ctl.Passes req
      · have spared := opened passes j
        grind
      · grind

/-- The failed flags are exact all along a run if and only if no step of it breaks them. -/
theorem failed_exact_iff {s : Sys} {xs : List Step} (init : Initialised s)
    (succeeds : ∀ x ∈ xs, x.Succeeds) :
    EachState Sys.step s xs FailedExact ↔ EachStep Sys.step s xs KeepsFlags := by
  refine eachState_iff_eachStep (eachState_formed init succeeds) ?_ ?_
  · intro j
    have notFailed : s.ctl.failed = ⟨false, false⟩ := by
      rw [init.booted.2]
      exact Ctl.booted_failed _ _ _
    have opened : (s.link j).failed = false := by
      rw [Sys.link_failed, notFailed]
      cases j <;> rfl
    simp [opened, Outstanding, not_since_nil]
  · rintro pre t x - member formed exactly
    exact failedExact_step formed (succeeds x (member.subset (by simp))) exactly

theorem failed_exact_iff_owner :
    let s := (sampleNode true false (sampleDevice 0 1) (sampleDevice 1 2)).started
    let xs := succeeding [.ctl .port0 .signalFail, .elapse 500]
    EachState Sys.step s xs FailedExact ↔ EachStep Sys.step s xs KeepsFlags :=
  failed_exact_iff (DtNode.started_initialised _) (succeeding_succeeds _)

/-- A signal fail and its clearing, on a node in protection. -/
theorem failed_stays_set :
    ¬∀ (s : Sys) (xs : List Step), Initialised s → (∀ x ∈ xs, x.Succeeds) →
      FailedExact xs (s.run xs) := by
  intro exactly
  have here := exactly (sampleNode true false (sampleDevice 0 1) (sampleDevice 1 2)).started
    (succeeding [.ctl .port0 .signalFail, .ctl .port0 .clearSignalFail])
    (DtNode.started_initialised _) (succeeding_succeeds _) .port0
  have outstanding := here.mp (by decide)
  rcases (outstanding_concat .port0 [_] _).mp outstanding with started | ⟨_, standing⟩
  · cases started
  · exact standing rfl

/-! ## Protection -/

namespace Ctl

/-- A forced switch is remembered in forced switch only, and no request from outside
the node is remembered with a higher priority than a local signal fail. -/
structure Remembers (c : Ctl) : Prop where
  fs : c.topreq = .fs → c.state = .forcedSwitch
  local_ : c.topreq ≠ .clear ∧ c.topreq ≠ .rapsFs
  init : c.state ≠ .uninit

/-- The signal fail is in force. -/
def Protects (c : Ctl) : Prop :=
  (c.topreq = .sf ∧ (c.state = .protection ∨ c.state = .forcedSwitch)) ∨
    (c.topreq = .fs ∧ c.state = .forcedSwitch)

variable {c : Ctl} {o : Seen} {lnk : PortIdx} {req : Request}

theorem remembered_fs : req.remembered = .fs ↔ req = .fs := by
  cases req <;> simp [Request.remembered]

theorem remembered_local : req.remembered ≠ .clear ∧ req.remembered ≠ .rapsFs := by
  cases req <;> simp [Request.remembered]

theorem Remembers.post (h : c.Remembers) : (c.post o lnk req).Remembers := by
  by_cases passes : c.Passes req
  case neg => rwa [post_of_not_passes passes]
  have reacts := post_reacts o lnk passes
  obtain ⟨fs, local_, init⟩ := h
  generalize c.post o lnk req = d at reacts
  cases reacts with
  | idles quiet =>
    refine ⟨fun topreq => ?_, remembered_local, init⟩
    -- no state but the uninitialised one leaves a forced switch without an answer
    have posted : req = .fs := remembered_fs.mp topreq
    subst posted
    have quiet' : c.state.noAction .fs = true := quiet.resolve_right fun ignored =>
      absurd ignored.1 (by decide)
    cases state : c.state <;> simp_all [NodeState.noAction]
  | switches row => cases row <;> constructor <;> grind
  | yields row => cases row <;> constructor <;> grind
  | @returns t row | @returnsRb t row => cases t <;> constructor <;> grind
  | forces state | clears state | reverts state | recovers state | conflicts state
  | electsIdle state | settlesIdle state | electsPending state | settlesPending state
  | wtrExpires state | wtbExpires state => constructor <;> grind

/-- Over a signal fail in force passes another one, a forced switch, or what ends it. -/
theorem Protects.passing (h : c.Protects) (passes : c.Passes req) :
    req = .fs ∨ req = .sf ∨ req = .clear ∨ req = .rapsFs ∨ req = .clearSf := by
  obtain ⟨_, higher | ⟨rfl, _⟩⟩ := passes
  · rcases h with ⟨topreq, _⟩ | ⟨topreq, _⟩ <;> rw [topreq] at higher <;>
      cases req <;> simp_all [Request.toNat]
  · simp

/-- A signal fail is in force once it is posted, unless a forced switch is. -/
theorem Remembers.post_sf (h : c.Remembers) : (c.post o lnk .sf).Protects := by
  obtain ⟨fs, ⟨notClear, notRapsFs⟩, init⟩ := h
  by_cases passes : c.Passes .sf
  case neg =>
    -- only a local forced switch outranks it
    rw [post_of_not_passes passes]
    have topreq : c.topreq = .fs := by
      have higher : ¬Request.toNat .sf ≤ c.topreq.toNat := fun le =>
        passes ⟨by simp, .inl le⟩
      revert higher notClear notRapsFs
      cases c.topreq <;> decide
    exact .inr ⟨topreq, fs topreq⟩
  have reacts := post_reacts o lnk passes
  generalize c.post o lnk .sf = d at reacts
  cases reacts with
  | idles quiet =>
    have quiet' : c.state.noAction .sf = true := quiet.resolve_right fun ignored =>
      absurd ignored.1 (by decide)
    have forced : c.state = .forcedSwitch := by
      cases state : c.state <;> simp_all [NodeState.noAction]
    exact .inl ⟨rfl, .inr forced⟩
  | switches row =>
    cases row
    grind [Protects]
  | yields row => cases row

theorem Protects.post (h : c.Protects) (remembers : c.Remembers)
    (kept : c.Passes req → req ≠ .clear ∧ req ≠ .rapsFs ∧ req ≠ .clearSf) :
    (c.post o lnk req).Protects := by
  by_cases passes : c.Passes req
  case neg => rwa [post_of_not_passes passes]
  obtain ⟨notClear, notRapsFs, notClearSf⟩ := kept passes
  have protecting : c.state = .protection ∨ c.state = .forcedSwitch := by
    rcases h with ⟨_, state⟩ | ⟨_, state⟩
    · exact state
    · exact .inr state
  rcases h.passing passes with rfl | rfl | rfl | rfl | rfl
  · -- a forced switch takes the place of the signal fail
    have reacts := post_reacts o lnk passes
    generalize c.post o lnk .fs = d at reacts
    cases reacts with
    | idles quiet =>
      have quiet' : c.state.noAction .fs = true := quiet.resolve_right fun ignored =>
        absurd ignored.1 (by decide)
      rcases protecting with state | state <;> simp [state, NodeState.noAction] at quiet'
    | switches row =>
      cases row
      grind [Protects]
    | forces state => grind [Protects]
    | yields row => cases row
  · exact remembers.post_sf
  · exact absurd rfl notClear
  · exact absurd rfl notRapsFs
  · exact absurd rfl notClearSf

theorem Remembers.modTimer (h : c.Remembers) (f : Armed → Armed) (t : Timer) :
    (c.modTimer f t).Remembers := by
  cases t <;> exact ⟨h.fs, h.local_, h.init⟩

theorem Protects.modTimer (h : c.Protects) (f : Armed → Armed) (t : Timer) :
    (c.modTimer f t).Protects := by
  cases t <;> exact h

theorem Remembers.step {e : Event} (h : c.Remembers) : (c.step o e).Remembers :=
  step_keeps (fun _ f t before => before.modTimer f t) (fun _ _ _ _ _ before => before.post) h

theorem Remembers.step_sf {e : Event} (h : c.Remembers) (posts : e.posts = some (lnk, .sf)) :
    (c.step o e).Protects := by
  obtain ⟨f, g, t, same⟩ := step_posts (c := c) (o := o) posts
  rw [same]
  exact (h.modTimer f t).post_sf.modTimer g t

theorem Protects.step {e : Event} (h : c.Protects) (remembers : c.Remembers)
    (kept : ∀ lnk req, e.posts = some (lnk, req) → c.Passes req →
      req ≠ .clear ∧ req ≠ .rapsFs ∧ req ≠ .clearSf) : (c.step o e).Protects := by
  cases posts : e.posts with
  | none =>
    obtain ⟨f, t, same⟩ := step_silent (c := c) (o := o) posts
    rw [same]
    exact h.modTimer f t
  | some posted =>
    obtain ⟨lnk, req⟩ := posted
    obtain ⟨f, g, t, same⟩ := step_posts (c := c) (o := o) posts
    rw [same]
    refine ((h.modTimer f t).post (remembers.modTimer f t) fun passes => ?_).modTimer g t
    exact kept lnk req posts ((modTimer_passes f t).mp passes)

theorem Remembers.booted (role : Role) (revertive : Bool) (up : Ports Bool) :
    (Ctl.booted role revertive up).Remembers := by
  by_cases reverting : role = .owner ∧ revertive = true <;> constructor <;> simp [reverting]

end Ctl

/-- The step ends the signal fail on the link: it is cleared, or a CLEAR, an R-APS(FS) or a
clear signal fail on any link passes the priority logic. -/
def Overrules (lnk : PortIdx) (at_ : Sys × Step) : Prop :=
  at_.2.1.posts = some (lnk, .clearSf) ∨
    ∃ i req, at_.2.1.posts = some (i, req) ∧ at_.1.ctl.Passes req ∧
      (req = .clear ∨ req = .rapsFs ∨ req = .clearSf)

/-- The latest signal fail on the link has not been overruled. -/
def Standing (lnk : PortIdx) (past : List (Sys × Step)) : Prop :=
  Since (fun at_ => at_.2.1.posts = some (lnk, .sf)) (Overrules lnk) past

theorem standing_concat (lnk : PortIdx) (past : List (Sys × Step)) (at_ : Sys × Step) :
    Standing lnk (past ++ [at_]) ↔ at_.2.1.posts = some (lnk, .sf) ∨
      (Standing lnk past ∧ ¬Overrules lnk at_) :=
  since_concat at_

/-- Along a run, a signal fail that nothing has overruled is in force. -/
theorem protects_run {s : Sys} {xs : List Step} (init : Initialised s)
    (succeeds : ∀ x ∈ xs, x.Succeeds) : EachState Sys.step s xs fun past t =>
      t.setup.WellFormed ∧ t.ctl.Remembers ∧
        ∀ lnk, Standing lnk (history Sys.step s past) → t.ctl.Protects := by
  obtain ⟨formed, start⟩ := init.booted
  refine eachState_of_eachStep ⟨formed, ?_, ?_⟩ (eachStep_of_forall succeeds) ?_
  · rw [start]
    exact Ctl.Remembers.booted _ _ _
  · intro lnk standing
    exact absurd standing not_since_nil
  · rintro past t x reached succeeds ⟨formed, remembers, protects⟩
    rw [Sys.step_ctl formed succeeds]
    refine ⟨Sys.step_formed formed succeeds, remembers.step, fun lnk standing => ?_⟩
    rw [history_concat, ← reached, standing_concat] at standing
    rcases standing with posted | ⟨standing, kept⟩
    · exact remembers.step_sf posted
    · refine (protects lnk standing).step remembers fun i req posts passes => ?_
      refine ⟨?_, ?_, ?_⟩ <;> intro same <;> refine kept (.inr ⟨i, req, posts, passes, ?_⟩)
      · exact .inl same
      · exact .inr (.inl same)
      · exact .inr (.inr same)

/-- A node with a signal fail that nothing has overruled is in protection or in forced
switch. -/
theorem standing_failure_protects {s : Sys} {xs : List Step} (init : Initialised s)
    (succeeds : ∀ x ∈ xs, x.Succeeds) (lnk : PortIdx)
    (standing : Standing lnk (history Sys.step s xs)) :
    (s.run xs).node.state = .protection ∨ (s.run xs).node.state = .forcedSwitch := by
  obtain ⟨-, -, protects⟩ := (protects_run init succeeds).last
  rcases protects lnk standing with ⟨_, state⟩ | ⟨_, state⟩
  · exact state
  · exact .inr state

theorem standing_failure_protects_owner :
    let t := (sampleNode true false (sampleDevice 0 1) (sampleDevice 1 2)).started.run
      (succeeding [.ctl .port0 .signalFail, .ctl .port1 .admManualSwitch])
    t.node.state = .protection ∨ t.node.state = .forcedSwitch := by
  refine standing_failure_protects (DtNode.started_initialised _) (succeeding_succeeds _)
    .port0 ⟨[], _, [_], rfl, rfl, ?_⟩
  intro at_ member
  cases List.mem_singleton.mp member
  rintro (cleared | ⟨i, req, posts, -, which⟩)
  · cases cleared
  · cases posts
    simp [ErpsEvent.request] at which

/-- A signal fail under a forced switch that is then cleared. -/
theorem failure_dropped : ¬∀ (s : Sys) (xs : List Step), Initialised s →
    (∀ x ∈ xs, x.Succeeds) → ∀ lnk, Outstanding lnk xs →
      (s.run xs).node.state = .protection ∨ (s.run xs).node.state = .forcedSwitch := by
  intro protects
  have here := protects (sampleNode true false (sampleDevice 0 1) (sampleDevice 1 2)).started
    (succeeding [.ctl .port0 .admForcedSwitch, .ctl .port1 .signalFail, .ctl .port0 .admClear])
    (DtNode.started_initialised _) (succeeding_succeeds _) .port1
    ⟨[_], _, [_], rfl, rfl, by simp [Event.posts, ErpsEvent.request]⟩
  exact absurd here (by decide)

end Erps
