import Erps.Ctl.Refines

/-!
# What a request can do

Table 10-2 read backwards: every way in which the state machine can answer a
request that passes the priority logic, with the states in which it does so.
Invariants are proved from `Ctl.post_reacts` by one case for each way and never by
unfolding the state machine. The last section lifts an invariant of the state
machine to all-successful runs of the program.
-/
namespace Erps

/-- The cells of Table 10-2 without an action. -/
def NodeState.noAction : NodeState → Request → Bool
  | .idle, req => match req with
    | .clear | .clearSf | .wtrExpires | .wtrRunning | .wtbExpires | .wtbRunning | .invalid => true
    | _ => false
  | .protection, req => match req with
    | .fs | .rapsFs | .sf | .clearSf | .rapsNrRb | .rapsNr => false
    | _ => true
  | .manualSwitch, req => match req with
    | .clear | .fs | .rapsFs | .sf | .rapsSf | .rapsMs | .rapsNrRb | .rapsNr => false
    | _ => true
  | .forcedSwitch, req => match req with
    | .clear | .fs | .rapsNrRb | .rapsNr => false
    | _ => true
  | .pending, req => match req with
    | .clearSf | .wtrRunning | .wtbRunning | .invalid => true
    | _ => false
  | .uninit, _ => true

/-- The timer R-APS(NR) starts on the way to pending. -/
def NodeState.returnTimer : NodeState → Option Timer
  | .protection => some .wtr
  | .manualSwitch | .forcedSwitch => some .wtb
  | .idle | .pending | .uninit => none

namespace Ctl

-- Handlers are unfolded by `grind`, which splits the cases of their conditions.
attribute [grind] anyBlocked txActive block unblock unblockAll unblockNonFailed send silence goto
  timer modTimer stop start startIfReverting ownerStop fsSfMs unblockAndStop maybeUnblockAndStop
  clearCommon rapsNrRbIdle rapsNrIdle clearSfProtection rapsNrRest rapsMsMs fsFs revert
  clearPending timerExpiresPending rapsNrRbPending clearValid Passes take ignores Armed.busy
  Ports.modify Ports.get PortIdx.other Request.remembered Timer.running NodeState.noAction
  NodeState.returnTimer

/-- Leaving pending for one of the switched states, the RPL owner stops its timers. -/
@[grind] def leaving (c : Ctl) : Ctl := if c.state = .pending then c.ownerStop else c

/-- The local requests that move the block, with the PDU they announce. -/
inductive Switch : NodeState → Request → UInt8 → NodeState → Prop where
  | fs {st : NodeState} : st ≠ .forcedSwitch → st ≠ .uninit → Switch st .fs rapsFs .forcedSwitch
  | sf {st : NodeState} : st ≠ .forcedSwitch → st ≠ .uninit → Switch st .sf rapsSf .protection
  | ms {st : NodeState} : st = .idle ∨ st = .pending → Switch st .ms rapsMs .manualSwitch

/-- The remote requests that open ports and silence the node. -/
inductive Yield : NodeState → Request → Bool → NodeState → Prop where
  | fs {st : NodeState} : st ≠ .forcedSwitch → st ≠ .uninit →
      Yield st .rapsFs false .forcedSwitch
  | sf {st : NodeState} : st = .idle ∨ st = .manualSwitch ∨ st = .pending →
      Yield st .rapsSf true .protection
  | ms {st : NodeState} : st = .idle ∨ st = .pending → Yield st .rapsMs true .manualSwitch

/-- How the state machine answers a request that has passed. -/
inductive Reacts (o : Seen) (lnk : PortIdx) (c : Ctl) : Request → Ctl → Prop where
  | idles {req : Request} (quiet : c.state.noAction req = true ∨ c.ignores lnk req) :
      Reacts o lnk c req c
  | switches {req : Request} {reqState : UInt8} {next : NodeState}
      (row : Switch c.state req reqState next) :
      Reacts o lnk c req (c.leaving.fsSfMs o.up lnk reqState next)
  | forces (state : c.state = .forcedSwitch) : Reacts o lnk c .fs (c.fsFs o.up lnk)
  | yields {req : Request} {onlyNonFailed : Bool} {next : NodeState}
      (row : Yield c.state req onlyNonFailed next) :
      Reacts o lnk c req (c.leaving.unblockAndStop onlyNonFailed next)
  | clears (state : c.state = .manualSwitch ∨ c.state = .forcedSwitch) :
      Reacts o lnk c .clear (c.clearCommon o.up)
  | reverts (state : c.state = .pending) : Reacts o lnk c .clear (c.clearPending o.up)
  | recovers (state : c.state = .protection) :
      Reacts o lnk c .clearSf (c.clearSfProtection o.up)
  | returns {t : Timer} (row : c.state.returnTimer = some t) :
      Reacts o lnk c .rapsNr (c.rapsNrRest t false)
  | returnsRb {t : Timer} (row : c.state.returnTimer = some t) :
      Reacts o lnk c .rapsNrRb (c.rapsNrRest t true)
  | conflicts (state : c.state = .manualSwitch) : Reacts o lnk c .rapsMs (c.rapsMsMs o.up)
  | electsIdle (state : c.state = .idle) : Reacts o lnk c .rapsNr (c.rapsNrIdle o.outranked)
  | settlesIdle (state : c.state = .idle) : Reacts o lnk c .rapsNrRb c.rapsNrRbIdle
  | electsPending (state : c.state = .pending) :
      Reacts o lnk c .rapsNr (c.maybeUnblockAndStop o.outranked)
  | settlesPending (state : c.state = .pending) : Reacts o lnk c .rapsNrRb c.rapsNrRbPending
  | wtrExpires (state : c.state = .pending) :
      Reacts o lnk c .wtrExpires (c.timerExpiresPending o.up .wtb)
  | wtbExpires (state : c.state = .pending) :
      Reacts o lnk c .wtbExpires (c.timerExpiresPending o.up .wtr)

variable {c : Ctl} {o : Seen} {lnk : PortIdx} {req : Request}

/-- Stopping the timers before or after the switch makes no difference. -/
theorem leaving_fsSfMs (state : c.state = .pending) (reqState : UInt8) (next : NodeState) :
    (c.fsSfMs o.up lnk reqState next).ownerStop = c.leaving.fsSfMs o.up lnk reqState next := by
  simp only [leaving, state, if_true, ownerStop]
  by_cases owner : c.role = .owner
  · simp only [owner, if_true]
    cases lnk <;> simp [fsSfMs, goto, unblock, send, block, owner, stop, modTimer]
  · simp only [owner, if_false]
    cases lnk <;> simp [fsSfMs, goto, unblock, send, block, owner]

theorem leaving_unblockAndStop (state : c.state = .pending) (onlyNonFailed : Bool)
    (next : NodeState) : (c.unblockAndStop onlyNonFailed next).ownerStop =
      c.leaving.unblockAndStop onlyNonFailed next := by
  simp only [leaving, state, if_true, ownerStop]
  by_cases owner : c.role = .owner
  · simp only [owner, if_true]
    cases onlyNonFailed <;> simp [unblockAndStop, goto, silence, unblockNonFailed, unblockAll,
      unblock, owner, stop, modTimer]
  · simp only [owner, if_false]
    cases onlyNonFailed <;> simp [unblockAndStop, goto, silence, unblockNonFailed, unblockAll,
      unblock, owner]

/-! ### Handlers that only move the timers -/

theorem ownerStop_eq (c : Ctl) : ∃ w b, c.ownerStop = { c with wtr := w, wtb := b } := by
  unfold ownerStop
  split
  · exact ⟨_, _, rfl⟩
  · exact ⟨c.wtr, c.wtb, rfl⟩

theorem leaving_eq (c : Ctl) : ∃ w b, c.leaving = { c with wtr := w, wtb := b } := by
  unfold leaving
  split
  · exact c.ownerStop_eq
  · exact ⟨c.wtr, c.wtb, rfl⟩

theorem Reacts.switchesFrom {reqState : UInt8} {next : NodeState}
    (row : Switch c.state req reqState next) (state : c.state ≠ .pending) :
    Reacts o lnk c req (c.fsSfMs o.up lnk reqState next) := by
  have kept : c.leaving = c := if_neg state
  have reacts : Reacts o lnk c req (c.leaving.fsSfMs o.up lnk reqState next) := .switches row
  rwa [kept] at reacts

theorem Reacts.yieldsFrom {onlyNonFailed : Bool} {next : NodeState}
    (row : Yield c.state req onlyNonFailed next) (state : c.state ≠ .pending) :
    Reacts o lnk c req (c.unblockAndStop onlyNonFailed next) := by
  have kept : c.leaving = c := if_neg state
  have reacts : Reacts o lnk c req (c.leaving.unblockAndStop onlyNonFailed next) := .yields row
  rwa [kept] at reacts

/-! ### One lemma for each state -/

theorem postIdle_reacts (state : c.state = .idle) :
    Reacts o lnk c req (c.postIdle o lnk req) := by
  have leaves : c.state ≠ .pending := by simp [state]
  cases req with
  | clear | clearSf | wtrExpires | wtrRunning | wtbExpires | wtbRunning | invalid =>
    exact .idles (.inl (by rw [state]; rfl))
  | fs => exact .switchesFrom (by rw [state]; exact .fs (by decide) (by decide)) leaves
  | rapsFs => exact .yieldsFrom (by rw [state]; exact .fs (by decide) (by decide)) leaves
  | sf => exact .switchesFrom (by rw [state]; exact .sf (by decide) (by decide)) leaves
  | rapsSf => exact .yieldsFrom (by rw [state]; exact .sf (by decide)) leaves
  | rapsMs => exact .yieldsFrom (by rw [state]; exact .ms (by decide)) leaves
  | ms => exact .switchesFrom (by rw [state]; exact .ms (by decide)) leaves
  | rapsNrRb => exact .settlesIdle state
  | rapsNr => exact .electsIdle state

theorem postProtection_reacts (state : c.state = .protection) :
    Reacts o lnk c req (c.postProtection o lnk req) := by
  have leaves : c.state ≠ .pending := by simp [state]
  cases req with
  | clear | rapsSf | rapsMs | ms | wtrExpires | wtrRunning | wtbExpires | wtbRunning | invalid =>
    exact .idles (.inl (by rw [state]; rfl))
  | fs => exact .switchesFrom (by rw [state]; exact .fs (by decide) (by decide)) leaves
  | rapsFs => exact .yieldsFrom (by rw [state]; exact .fs (by decide) (by decide)) leaves
  | sf => exact .switchesFrom (by rw [state]; exact .sf (by decide) (by decide)) leaves
  | clearSf => exact .recovers state
  | rapsNrRb => exact .returnsRb (by rw [state]; rfl)
  | rapsNr => exact .returns (by rw [state]; rfl)

theorem postManualSwitch_reacts (state : c.state = .manualSwitch) :
    Reacts o lnk c req (c.postManualSwitch o lnk req) := by
  have leaves : c.state ≠ .pending := by simp [state]
  cases req with
  | clearSf | ms | wtrExpires | wtrRunning | wtbExpires | wtbRunning | invalid =>
    exact .idles (.inl (by rw [state]; rfl))
  | clear => exact .clears (.inl state)
  | fs => exact .switchesFrom (by rw [state]; exact .fs (by decide) (by decide)) leaves
  | rapsFs => exact .yieldsFrom (by rw [state]; exact .fs (by decide) (by decide)) leaves
  | sf => exact .switchesFrom (by rw [state]; exact .sf (by decide) (by decide)) leaves
  | rapsSf => exact .yieldsFrom (by rw [state]; exact .sf (by decide)) leaves
  | rapsMs => exact .conflicts state
  | rapsNrRb => exact .returnsRb (by rw [state]; rfl)
  | rapsNr => exact .returns (by rw [state]; rfl)

theorem postForcedSwitch_reacts (state : c.state = .forcedSwitch) :
    Reacts o lnk c req (c.postForcedSwitch o lnk req) := by
  cases req with
  | rapsFs | sf | clearSf | rapsSf | rapsMs | ms | wtrExpires | wtrRunning | wtbExpires
  | wtbRunning | invalid => exact .idles (.inl (by rw [state]; rfl))
  | clear => exact .clears (.inr state)
  | fs => exact .forces state
  | rapsNrRb => exact .returnsRb (by rw [state]; rfl)
  | rapsNr => exact .returns (by rw [state]; rfl)

theorem postPending_reacts (state : c.state = .pending) :
    Reacts o lnk c req (c.postPending o lnk req) := by
  cases req with
  | clearSf | wtrRunning | wtbRunning | invalid => exact .idles (.inl (by rw [state]; rfl))
  | clear => exact .reverts state
  | fs =>
    rw [postPending, leaving_fsSfMs state]
    exact .switches (by rw [state]; exact .fs (by decide) (by decide))
  | rapsFs =>
    rw [postPending, leaving_unblockAndStop state]
    exact .yields (by rw [state]; exact .fs (by decide) (by decide))
  | sf =>
    rw [postPending, leaving_fsSfMs state]
    exact .switches (by rw [state]; exact .sf (by decide) (by decide))
  | rapsSf =>
    rw [postPending, leaving_unblockAndStop state]
    exact .yields (by rw [state]; exact .sf (by decide))
  | rapsMs =>
    rw [postPending, leaving_unblockAndStop state]
    exact .yields (by rw [state]; exact .ms (by decide))
  | ms =>
    have stops : c.ownerStop = c.leaving := (if_pos state).symm
    rw [postPending, stops]
    exact .switches (by rw [state]; exact .ms (by decide))
  | wtrExpires => exact .wtrExpires state
  | wtbExpires => exact .wtbExpires state
  | rapsNrRb => exact .settlesPending state
  | rapsNr => exact .electsPending state

theorem react_reacts (c : Ctl) (o : Seen) (lnk : PortIdx) (req : Request) :
    Reacts o lnk c req (c.react o lnk req) := by
  unfold react
  cases state : c.state with
  | idle => exact postIdle_reacts state
  | protection => exact postProtection_reacts state
  | manualSwitch => exact postManualSwitch_reacts state
  | forcedSwitch => exact postForcedSwitch_reacts state
  | pending => exact postPending_reacts state
  | uninit => exact .idles (.inl (by rw [state]; rfl))

/-- A request that does not pass changes nothing. -/
theorem post_of_not_passes (outranked : ¬c.Passes req) : c.post o lnk req = c :=
  if_neg outranked

/-- One that passes is remembered and then answered in one of the ways above. -/
theorem post_reacts (o : Seen) (lnk : PortIdx) (passes : c.Passes req) :
    Reacts o lnk (c.take lnk req) req (c.post o lnk req) := by
  rw [post, if_pos passes]
  by_cases ignored : (c.take lnk req).ignores lnk req
  · rw [if_pos ignored]
    exact .idles (.inr ignored)
  · rw [if_neg ignored]
    exact react_reacts _ o lnk req

/-- A failure that is acted on is in force afterwards. -/
theorem fails_protects (o : Seen) (lnk : PortIdx) (passes : c.Passes .sf)
    (forced : c.state ≠ .forcedSwitch) (uninit : c.state ≠ .uninit) :
    (c.post o lnk .sf).state = .protection ∧
      (c.post o lnk .sf).blocked.get lnk = true ∧
      (c.post o lnk .sf).blocked.get lnk.other = false ∧
      (c.post o lnk .sf).rsSc = rapsSf <<< rapsRsShift ∧
      (c.post o lnk .sf).status = if c.blocked.get lnk then rapsDnf else 0 := by
  have reacts := post_reacts o lnk passes
  generalize c.post o lnk .sf = d at reacts
  cases reacts with
  | idles quiet =>
    have state : (c.take lnk .sf).state = c.state := rfl
    rcases quiet with quiet | ⟨clears, -⟩
    · rw [state] at quiet
      cases now : c.state <;> simp_all [NodeState.noAction]
    · cases clears
  | switches row =>
    obtain ⟨w, b, same⟩ := leaving_eq (c.take lnk .sf)
    rw [same]
    cases row
    cases lnk <;> exact ⟨rfl, rfl, rfl, rfl, rfl⟩
  | yields row => cases row

/-- What a state answers with no action is not what the map of that state speaks of. -/
theorem remembered_of_quiet (quiet : c.state.noAction req = true ∨ c.ignores lnk req) :
    (c.state = .forcedSwitch → req ≠ .fs ∧ req ≠ .clear) ∧
      (c.state = .protection → req.remembered ≠ .sf) ∧
        (c.state = .pending → req.remembered ≠ .fs ∧ req.remembered ≠ .ms) := by
  rcases quiet with quiet | ⟨rfl, -, -, outside⟩
  · refine ⟨fun state => ?_, fun state => ?_, fun state => ?_⟩ <;> rw [state] at quiet <;>
      cases req <;> simp_all [NodeState.noAction, Request.remembered]
  · simp [Request.remembered]

/-- Over a local forced switch nothing passes but a CLEAR and another forced switch. -/
theorem Passes.over_fs (passes : c.Passes req) (topreq : c.topreq = .fs) :
    req = .clear ∨ req = .fs := by
  obtain ⟨_, higher | ⟨_, sf⟩⟩ := passes
  · rw [topreq] at higher
    cases req <;> simp_all [Request.toNat]
  · simp [topreq] at sf

/-! ### A booted node -/

section
variable (role : Role) (revertive : Bool) (up : Ports Bool)

@[simp] theorem booted_role : (booted role revertive up).role = role := by
  cases role <;> cases revertive <;> rfl

@[simp] theorem booted_state : (booted role revertive up).state = .pending := by
  cases role <;> cases revertive <;> rfl

@[simp] theorem booted_topreq : (booted role revertive up).topreq =
    if role = .owner ∧ revertive = true then .wtrRunning else .invalid := by
  cases role <;> cases revertive <;> rfl

@[simp] theorem booted_blocked :
    (booted role revertive up).blocked = ⟨role = .plain, role ≠ .plain⟩ := by
  cases role <;> cases revertive <;> rfl

@[simp] theorem booted_failed : (booted role revertive up).failed = ⟨false, false⟩ := by
  cases role <;> cases revertive <;> rfl

@[simp] theorem booted_rsSc : (booted role revertive up).rsSc = 0 := by
  cases role <;> cases revertive <;> rfl

@[simp] theorem booted_status : (booted role revertive up).status = 0 := by
  cases role <;> cases revertive <;> rfl

end

/-! ### Events -/

@[simp] theorem modTimer_id (c : Ctl) (t : Timer) : c.modTimer id t = c := by
  cases t <;> rfl

/-- An event that posts nothing at most moves a timer. -/
theorem step_silent {e : Event} (silent : e.posts = none) :
    ∃ f t, c.step o e = c.modTimer f t := by
  cases e with
  | ctl lnk ev => cases silent
  | raps lnk req pdu => cases silent
  | expiry t => cases t <;> cases silent
  | handle t => cases t <;> cases silent
  | fire t =>
    cases t with
    | wtr => exact ⟨fun _ => ⟨false, true⟩, .wtr, rfl⟩
    | wtb => exact ⟨fun _ => ⟨false, true⟩, .wtb, rfl⟩
    | linkDown lnk => exact ⟨id, .wtr, rfl⟩
  | elapse ms => exact ⟨id, .wtr, rfl⟩
  | iface lnk up => exact ⟨id, .wtr, rfl⟩

/-- An event that posts a request may move a timer before and after. -/
theorem step_posts {e : Event} (posts : e.posts = some (lnk, req)) :
    ∃ f g t, c.step o e = ((c.modTimer f t).post o lnk req).modTimer g t := by
  cases e with
  | ctl lnk' ev =>
    cases posts
    exact ⟨id, id, .wtr, by simp [step]⟩
  | raps lnk' req' pdu =>
    cases posts
    exact ⟨id, id, .wtr, by simp [step]⟩
  | expiry t =>
    cases t with
    | wtr =>
      cases posts
      exact ⟨fun _ => ⟨false, true⟩, fun a => ⟨a.scheduled, false⟩, .wtr, rfl⟩
    | wtb =>
      cases posts
      exact ⟨fun _ => ⟨false, true⟩, fun a => ⟨a.scheduled, false⟩, .wtb, rfl⟩
    | linkDown lnk' =>
      cases posts
      exact ⟨id, id, .wtr, by simp [step, handle, fireExpiry]⟩
  | handle t =>
    cases t with
    | wtr =>
      cases posts
      exact ⟨id, fun a => ⟨a.scheduled, false⟩, .wtr, rfl⟩
    | wtb =>
      cases posts
      exact ⟨id, fun a => ⟨a.scheduled, false⟩, .wtb, rfl⟩
    | linkDown lnk' =>
      cases posts
      exact ⟨id, id, .wtr, by simp [step, handle]⟩
  | fire t => cases posts
  | elapse ms => cases posts
  | iface lnk' up => cases posts

/-- Only a received R-APS(NR,RB) posts one. -/
theorem posts_nrRb {e : Event} (posts : e.posts = some (lnk, .rapsNrRb)) :
    ∃ pdu, e = .raps lnk .nrRb pdu := by
  cases e with
  | ctl lnk' ev => cases ev <;> cases posts
  | raps lnk' req' pdu =>
    cases req' <;> cases posts
    exact ⟨pdu, rfl⟩
  | expiry t | handle t => cases t <;> cases posts
  | fire t | elapse ms | iface lnk' up => cases posts

theorem posts_clearSf {e : Event} (posts : e.posts = some (lnk, .clearSf)) :
    e = .ctl lnk .clearSignalFail := by
  cases e with
  | ctl lnk' ev =>
    cases ev <;> cases posts
    rfl
  | raps lnk' req' pdu => cases req' <;> cases posts
  | expiry t | handle t => cases t <;> cases posts
  | fire t | elapse ms | iface lnk' up => cases posts

/-- A property that does not look at the timers is kept by an event if it is kept by the
request the event posts. -/
theorem step_keeps {I : Ctl → Prop} {e : Event} (blind : ∀ c f t, I c → I (c.modTimer f t))
    (keeps : ∀ f t lnk req, e.posts = some (lnk, req) → I (c.modTimer f t) →
      I ((c.modTimer f t).post o lnk req))
    (before : I c) : I (c.step o e) := by
  cases posts : e.posts with
  | none =>
    obtain ⟨f, t, same⟩ := step_silent (c := c) (o := o) posts
    rw [same]
    exact blind c f t before
  | some posted =>
    obtain ⟨lnk, req⟩ := posted
    obtain ⟨f, g, t, same⟩ := step_posts (c := c) (o := o) posts
    rw [same]
    exact blind _ g t (keeps f t lnk req posts (blind c f t before))

theorem modTimer_role (c : Ctl) (f : Armed → Armed) (t : Timer) :
    (c.modTimer f t).role = c.role := by
  cases t <;> rfl

theorem post_role : (c.post o lnk req).role = c.role := by
  by_cases passes : c.Passes req
  case neg => rw [post_of_not_passes passes]
  have reacts := post_reacts o lnk passes
  generalize c.post o lnk req = d at reacts
  cases reacts with
  | @returns t row | @returnsRb t row => cases t <;> grind
  | idles quiet | switches row | yields row | forces state | clears state | reverts state
  | recovers state | conflicts state | electsIdle state | settlesIdle state | electsPending state
  | settlesPending state | wtrExpires state | wtbExpires state => grind

/-- The role of a node is a matter of its configuration. -/
theorem step_role {e : Event} : (c.step o e).role = c.role := by
  refine step_keeps (I := fun d => d.role = c.role) (fun d f t same => ?_)
    (fun f t lnk req _ same => ?_) rfl
  · exact (modTimer_role d f t).trans same
  · exact post_role.trans same

end Ctl

/-! ### Runs -/

/-- An invariant of the state machine holds along every all-successful run of the program
whose events it is kept by. -/
theorem eachState_ctl {I : Ctl → Prop} {C : Ctl → Event → Prop} {s : Sys} {xs : List Step}
    (formed : s.setup.WellFormed) (start : I s.ctl)
    (steps : Runs.EachStep Sys.step s xs fun _ t x => x.Succeeds ∧ C t.ctl x.1)
    (next : ∀ c o e, C c e → I c → I (c.step o e)) :
    Runs.EachState Sys.step s xs fun _ t => t.setup.WellFormed ∧ I t.ctl := by
  refine Runs.eachState_of_eachStep ⟨formed, start⟩ steps ?_
  rintro pre t x - ⟨succeeds, ok⟩ ⟨formed, before⟩
  refine ⟨Sys.step_formed formed succeeds, ?_⟩
  rw [Sys.step_ctl formed succeeds]
  exact next _ _ _ ok before

theorem eachState_formed {s : Sys} {xs : List Step} (init : Initialised s)
    (succeeds : ∀ x ∈ xs, x.Succeeds) :
    Runs.EachState Sys.step s xs fun _ t => t.setup.WellFormed := by
  refine (eachState_ctl (I := fun _ => True) (C := fun _ _ => True) init.booted.1 trivial ?_
    fun _ _ _ _ _ => trivial).mono fun _ _ h => h.1
  exact Runs.eachStep_of_forall fun x member => ⟨succeeds x member, trivial⟩

end Erps
