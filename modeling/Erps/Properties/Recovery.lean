import Erps.Properties.RingReturn
import Erps.Properties.SwitchOver
import Erps.Timing.Posts

/-!
# A ring recovers

When no node has a request of its own any more, the RPL of a revertive ring is blocked again in
the end. Until then the block of the node with the greatest ID stays, as no R-APS(NR) outranks
it. The RPL owner waits once it has listened to R-APS(NR), or from the start, and when its wait
ends it has blocked the RPL and the ring returns.
-/
namespace Erps

open Calls Nets Runs

/-- The event is the end of a wait with its handler. -/
def Event.endsWait : Event → Bool
  | .expiry t | .handle t => t.timer?.isSome
  | .ctl _ _ | .raps _ _ _ | .fire _ | .elapse _ | .iface _ _ => false

/-! ## The state machine -/

namespace Ctl

/-- A node that is left alone: a wait ends only if it runs, in its time, and interfaces come and
go. -/
inductive LeftAlone (c : Ctl) : Event → Prop where
  | expiry {k : Timer} (due : (c.timer k).scheduled = true) : LeftAlone c (.expiry k.expiry)
  | fire {k : Timer} (due : (c.timer k).scheduled = true) : LeftAlone c (.fire k.expiry)
  | handle {k : Timer} (due : (c.timer k).running = true) : LeftAlone c (.handle k.expiry)
  | elapse (ms : Nat) : LeftAlone c (.elapse ms)
  | iface (lnk : PortIdx) (up : Bool) : LeftAlone c (.iface lnk up)

/-- The RPL owner waits: the timer is scheduled, or it has fired and its handler is yet to run. -/
structure Waiting (k : Timer) (c : Ctl) : Prop where
  state : c.state = .pending
  topreq : c.topreq = k.running
  armed : c.timer k = ⟨true, false⟩ ∨ c.timer k = ⟨false, true⟩
  other : (c.timer k.other).busy = false
  shut : c.Shut

/-- An RPL owner that will revert. -/
structure Reverts (c : Ctl) : Prop where
  owner : c.role = .owner
  revertive : c.revertive = true
  sends : c.txActive = true → c.announced = some .nr
  phase : (c.Calm ∧ (c.state = .protection ∨ c.state = .manualSwitch ∨ c.state = .forcedSwitch)) ∨
    ∃ k, c.Waiting k

variable {c d : Ctl} {o : Seen} {lnk : PortIdx} {e : Event} {k : Timer}

theorem LeftAlone.unasked (h : c.LeftAlone e) : c.Unasked e := by
  have ends {k t : Timer} (busy : (c.timer k).busy = true) (now : k.expiry.timer? = some t) :
      (c.timer t).busy = true := by
    cases k <;> cases now <;> exact busy
  cases h with
  | @expiry k due | @fire k due =>
    refine ⟨fun t now => ends ((Bool.or_eq_true _ _).mpr (.inl due)) now, fun untimed => ?_⟩
    cases k <;> cases untimed
  | @handle k due =>
    refine ⟨fun t now => ends ((Bool.or_eq_true _ _).mpr (.inr due)) now, fun untimed => ?_⟩
    cases k <;> cases untimed
  | elapse | iface => exact ⟨fun t now => (by cases now), fun _ => rfl⟩

/-! ### R-APS(NR) -/

/-- A wait is not disturbed by R-APS(NR). -/
theorem Waiting.nr (h : c.Waiting k) (o : Seen) (lnk : PortIdx) : c.post o lnk .rapsNr = c := by
  refine post_of_not_passes fun passes => ?_
  have higher := passes.2
  rw [h.topreq] at higher
  cases k <;> revert higher <;> decide

/-- The wait starts. -/
theorem Calm.starts (h : c.Calm) (owner : c.role = .owner) (revertive : c.revertive = true) (k : Timer) :
    ∃ d, c.rapsNrRest k false = d ∧ d.Waiting k ∧ d.role = c.role ∧ d.revertive = c.revertive ∧
      d.blocked = c.blocked ∧ d.tx = c.tx ∧ d.announced = c.announced := by
  have idle : (c.timer k).busy = false := by
    cases k
    · exact h.wtr
    · exact h.wtb
  have starts : c.startIfReverting k = c.start k := if_pos ⟨owner, revertive⟩
  have unarmed (a : Armed) (idle : a.busy = false) : a = ⟨false, false⟩ := by
    obtain ⟨scheduled, running⟩ := Bool.or_eq_false_iff.mp idle
    cases a
    cases scheduled
    cases running
    rfl
  have lower : k.running.toNat ≤ c.topreq.toNat := by
    rw [h.topreq]
    cases k <;> decide
  refine ⟨_, rfl, ?_⟩
  simp only [rapsNrRest, Bool.false_eq_true, if_false, starts, start, idle, lower, if_true]
  cases k with
  | wtr =>
    refine ⟨⟨rfl, rfl, .inl ?_, h.wtb, ⟨h.shut.port0, h.shut.port1⟩⟩, rfl, rfl, rfl, rfl, rfl⟩
    simp [goto, modTimer, timer, unarmed _ h.wtr]
  | wtb =>
    refine ⟨⟨rfl, rfl, .inl ?_, h.wtr, ⟨h.shut.port0, h.shut.port1⟩⟩, rfl, rfl, rfl, rfl, rfl⟩
    simp [goto, modTimer, timer, unarmed _ h.wtb]

/-- On R-APS(NR) the RPL owner waits, if it does not already. Its ports stay as they are. -/
theorem Reverts.nr (h : c.Reverts) (o : Seen) (lnk : PortIdx) :
    (c.post o lnk .rapsNr).Reverts ∧ (∃ k, (c.post o lnk .rapsNr).Waiting k) ∧
      (c.post o lnk .rapsNr).blocked = c.blocked ∧ (c.post o lnk .rapsNr).tx = c.tx := by
  rcases h.phase with ⟨free, state⟩ | ⟨k, waits⟩
  -- after a signal fail it is WTR that starts, after a command WTB
  · have rests : ∃ k, c.post o lnk .rapsNr = c.rapsNrRest k false := by
      rw [free.post_nr, react]
      rcases state with state | state | state <;> rw [state]
      · exact ⟨.wtr, rfl⟩
      · exact ⟨.wtb, rfl⟩
      · exact ⟨.wtb, rfl⟩
    obtain ⟨k, rests⟩ := rests
    obtain ⟨d, starts, waits, role, revertive, blocked, tx, announced⟩ := free.starts h.owner h.revertive k
    rw [rests, starts]
    refine ⟨⟨role.trans h.owner, revertive.trans h.revertive, fun active => ?_, .inr ⟨k, waits⟩⟩, ⟨k, waits⟩,
      blocked, tx⟩
    rw [announced]
    rw [txActive, tx] at active
    exact h.sends active
  · rw [waits.nr]
    exact ⟨h, ⟨k, waits⟩, rfl, rfl⟩

/-- A node that is not outranked keeps its block. -/
theorem Returning.nr_holds (h : c.Returning) (notOwner : c.role ≠ .owner) (highest : o.outranked = false) :
    (c.post o lnk .rapsNr).blocked = c.blocked := by
  have waits (t : Timer) : c.startIfReverting t = c := if_neg fun both => notOwner both.1
  rw [h.post_nr, react]
  cases state : c.state with
  | idle =>
    simp only [postIdle, rapsNrIdle, maybeUnblockAndStop, highest]
    cases c.role <;> rfl
  | pending =>
    simp only [postPending, maybeUnblockAndStop, highest]
    rfl
  | uninit => exact absurd state h.init
  | protection | manualSwitch | forcedSwitch =>
    simp only [postProtection, postManualSwitch, postForcedSwitch, rapsNrRest, waits]
    rfl

/-- R-APS(NR) makes no node send. -/
theorem Returning.nr_silent (h : c.Returning) (notOwner : c.role ≠ .owner)
    (active : (c.post o lnk .rapsNr).txActive = true) : c.txActive = true := by
  rcases h.nr_cases notOwner o lnk with same | ⟨-, opens⟩ | ⟨-, goes⟩
  · rwa [same] at active
  · rw [opens] at active
    exact Bool.noConfusion active
  · rwa [goes] at active

/-- An RPL owner that will revert, or another node that will follow it. -/
structure Undecided (c : Ctl) : Prop where
  owner : c.role = .owner → c.Reverts
  other : c.role ≠ .owner → c.Returning

theorem Undecided.nr (h : c.Undecided) (o : Seen) (lnk : PortIdx) :
    (c.post o lnk .rapsNr).Undecided ∧
      (o.outranked = false → (c.post o lnk .rapsNr).blocked = c.blocked) ∧
        ((c.post o lnk .rapsNr).txActive = true → c.txActive = true) := by
  have role : (c.post o lnk .rapsNr).role = c.role := post_role
  by_cases owner : c.role = .owner
  · obtain ⟨reverts, -, blocked, tx⟩ := (h.owner owner).nr o lnk
    refine ⟨⟨fun _ => reverts, fun notOwner => absurd (role.trans owner) notOwner⟩, fun _ => blocked, ?_⟩
    rw [txActive, tx]
    exact id
  · have returning := h.other owner
    refine ⟨⟨fun owner' => absurd (role.symm.trans owner') owner, fun _ => returning.nr owner⟩, ?_, ?_⟩
    · exact returning.nr_holds owner
    · exact returning.nr_silent owner

/-! ### The end of the wait -/

theorem Waiting.fire (h : c.Waiting k) : (c.fire k).Waiting k := by
  cases k
  · exact ⟨h.state, h.topreq, .inr rfl, h.other, ⟨h.shut.port0, h.shut.port1⟩⟩
  · exact ⟨h.state, h.topreq, .inr rfl, h.other, ⟨h.shut.port0, h.shut.port1⟩⟩

/-- No other wait runs. -/
theorem Waiting.only {t : Timer} (h : c.Waiting k) (busy : (c.timer t).busy = true) : t = k := by
  have other : (c.timer k.other).busy ≠ true := by
    rw [h.other]
    decide
  cases t <;> cases k <;> first | rfl | exact absurd busy other

theorem Waiting.fired (h : c.Waiting k) (due : (c.timer k).running = true) : c.timer k = ⟨false, true⟩ := by
  refine h.armed.resolve_left fun armed => ?_
  rw [armed] at due
  cases due

theorem announced_revert (up : Ports Bool) : (c.revert up).announced = some .nrRb := by
  have nr : rapsNr <<< rapsRsShift >>> rapsRsShift = rapsNr := reqState_shift.1
  have rb : (if c.blocked.port1 then rapsRb ||| rapsDnf else rapsRb) &&& rapsRb ≠ 0 := by
    split <;> decide
  have announced : (c.revert up).announced =
      some (if (c.revert up).status &&& rapsRb ≠ 0 then .nrRb else .nr) := if_pos nr
  rw [announced]
  exact congrArg some (if_pos rb)

theorem revert_atRest {up : Ports Bool} (owner : c.role = .owner) (untimed : c.Untimed)
    (topreq : c.topreq = .invalid) (shut : c.Shut) : ((c.revert up).goto .idle).AtRest := by
  have failed : c.failed.port1 = false := by
    refine Bool.eq_false_iff.mpr fun failed => ?_
    exact absurd (owner.symm.trans (shut.port1 failed).2) (by decide)
  refine ⟨⟨⟨untimed.wtr, untimed.wtb⟩, topreq, ?_⟩, rfl, ?_, fun _ => ⟨owner, announced_revert up⟩⟩
  · simp [revert, goto, unblock, send, block, Ports.modify, failed]
  · simp [revert, goto, unblock, send, block, Ports.modify, owner]

/-- The end of the wait passes, and the RPL owner reverts. -/
theorem Waiting.expires (h : c.Waiting k) (owner : c.role = .owner) :
    c.post o lnk k.expires = (((c.take lnk k.expires).stop k.other).revert o.up).goto .idle := by
  have passes : c.Passes k.expires := by
    refine ⟨fun clear => ?_, .inl ?_⟩
    · cases k <;> cases clear
    · rw [h.topreq]
      cases k <;> decide
  have acts : ¬(c.take lnk k.expires).ignores lnk k.expires := by
    rintro ⟨clears, -⟩
    cases k <;> cases clears
  have state : (c.take lnk k.expires).state = .pending := h.state
  have role : (c.take lnk k.expires).role = .owner := owner
  rw [post, if_pos passes, if_neg acts, react, state]
  cases k
  · exact if_pos role
  · exact if_pos role

/-- The handler blocks the RPL. -/
theorem Waiting.handled (h : c.Waiting k) (owner : c.role = .owner) (fired : c.timer k = ⟨false, true⟩) :
    (c.handle o k.expiry).AtRest := by
  have still (a : Armed) (idle : a.busy = false) : ({ a with scheduled := false } : Armed).busy = false :=
    (Bool.or_eq_false_iff.mp idle).2
  have handles : c.handle o k.expiry =
      ((((c.take .port0 k.expires).stop k.other).finish k).revert o.up).goto .idle := by
    have finishes : c.handle o k.expiry = (c.post o .port0 k.expires).finish k := by
      cases k <;> rfl
    rw [finishes, h.expires owner]
    cases k <;> rfl
  have untimed : (((c.take .port0 k.expires).stop k.other).finish k).Untimed := by
    cases k
    · refine ⟨?_, still _ h.other⟩
      simp [finish, stop, modTimer, Armed.busy, Timer.other, take, show c.wtr = _ from fired]
    · refine ⟨still _ h.other, ?_⟩
      simp [finish, stop, modTimer, Armed.busy, Timer.other, take, show c.wtb = _ from fired]
  rw [handles]
  refine revert_atRest ?_ untimed ?_ ?_
  · cases k <;> exact owner
  · cases k <;> rfl
  · cases k <;> exact ⟨h.shut.port0, h.shut.port1⟩

/-- Left alone, the RPL owner waits until the handler has run. -/
theorem Reverts.leftAlone (h : c.Reverts) (alone : c.LeftAlone e) :
    (e.endsWait = true ∧ (c.step o e).AtRest) ∨
      (e.endsWait = false ∧ e.posts = none ∧ (c.step o e).Reverts ∧ (c.step o e).blocked = c.blocked ∧
        (c.step o e).tx = c.tx ∧ ((∃ k, c.Waiting k) → ∃ k, (c.step o e).Waiting k)) := by
  -- a timer that fires, or has fired, is the one the RPL owner waits for
  have waits {t : Timer} (busy : (c.timer t).busy = true) : c.Waiting t := by
    rcases h.phase with ⟨free, -⟩ | ⟨k, waits⟩
    · cases t
      · exact absurd (free.wtr.symm.trans busy) (by decide)
      · exact absurd (free.wtb.symm.trans busy) (by decide)
    · obtain rfl := waits.only busy
      exact waits
  cases alone with
  | @expiry t scheduled =>
    have waits := waits ((Bool.or_eq_true _ _).mpr (.inl scheduled))
    have role : (c.fire t).role = .owner := by cases t <;> exact h.owner
    have fired : (c.fire t).timer t = ⟨false, true⟩ := by cases t <;> rfl
    have rests : ((c.fire t).handle o t.expiry).AtRest := waits.fire.handled role fired
    cases t <;> exact .inl ⟨rfl, rests⟩
  | @fire t scheduled =>
    have waits := waits ((Bool.or_eq_true _ _).mpr (.inl scheduled))
    have after : (c.fire t).Waiting t := waits.fire
    have reverts : (c.fire t).Reverts := by
      refine ⟨?_, ?_, fun active => ?_, .inr ⟨t, after⟩⟩ <;> cases t
      · exact h.owner
      · exact h.owner
      · exact h.revertive
      · exact h.revertive
      · exact h.sends active
      · exact h.sends active
    cases t <;> exact .inr ⟨rfl, rfl, reverts, rfl, rfl, fun _ => ⟨_, after⟩⟩
  | @handle t running =>
    have waits := waits ((Bool.or_eq_true _ _).mpr (.inr running))
    have rests : (c.handle o t.expiry).AtRest := waits.handled h.owner (waits.fired running)
    cases t <;> exact .inl ⟨rfl, rests⟩
  | elapse ms => exact .inr ⟨rfl, rfl, h, rfl, rfl, id⟩
  | iface lnk up => exact .inr ⟨rfl, rfl, h, rfl, rfl, id⟩

/-- An RPL owner of a revertive ring waits from the start. -/
theorem Waiting.booted (up : Ports Bool) : (booted .owner true up).Waiting .wtr :=
  ⟨rfl, rfl, .inl rfl, rfl, .of_failed rfl⟩

theorem Undecided.booted {role : Role} {revertive : Bool} (up : Ports Bool)
    (reverts : role = .owner → revertive = true) : (booted role revertive up).Undecided := by
  have announced : (Ctl.booted role revertive up).announced = some .nr := by
    rw [Ctl.announced, booted_rsSc, booted_status]
    decide
  cases role with
  | owner =>
    rw [reverts rfl] at announced ⊢
    exact ⟨fun _ => ⟨rfl, rfl, fun _ => announced, .inr ⟨.wtr, .booted up⟩⟩, fun other => absurd rfl other⟩
  | nbr | plain =>
    refine ⟨fun owner => Role.noConfusion owner, fun _ => ?_⟩
    cases revertive <;> exact ⟨⟨⟨rfl, rfl⟩, rfl, .of_failed rfl⟩, NodeState.noConfusion, NodeState.noConfusion,
      fun _ => announced⟩

end Ctl

/-! ## Rings -/

namespace Protocol

variable {n : Nat} {p q : Protocol n} {top : Fin n} {k : Nat}

/-- What a node of a ring that was `p` keeps, with how many R-APS(NR) it has listened to. -/
structure Recovering (p : Protocol n) (i : Fin n) (k : Nat) (a : Station) : Prop extends
    (p.stations i).Alike a where
  owner : a.ctl.role = .owner → a.ctl.AtRest ∨ (a.ctl.Reverts ∧ (1 ≤ k → ∃ t, a.ctl.Waiting t))
  other : a.ctl.role ≠ .owner → a.ctl.Returning

/-- What it keeps until the RPL owner has reverted: no node sends whose ID is greater than that
of `top`, which holds its block. -/
structure Undecided (p : Protocol n) (top i : Fin n) (a : Station) : Prop extends
    (p.stations i).Alike a where
  ctl : a.ctl.Undecided
  holds : i = top → a.ctl.anyBlocked = true
  sends : a.ctl.txActive = true → ¬(p.stations top).nodeId.toList < a.nodeId.toList

/-- Messages are R-APS(NR) of no greater ID. -/
structure Lower (p : Protocol n) (top : Fin n) (m : Message) : Prop where
  req : m.req = .nr
  nodeId : ¬(p.stations top).nodeId.toList < m.nodeId.toList

theorem Recovering.act {i : Fin n} {a : Station} {e : Event} (up : Ports Bool) (h : Recovering p i k a)
    (alone : a.ctl.LeftAlone e) : Recovering p i k (a.act up e) := by
  by_cases owner : a.ctl.role = .owner
  · rcases h.owner owner with rest | ⟨reverts, waits⟩
    · rw [Station.act_unasked rest.toUntimed alone.unasked]
      exact h
    · have alike := h.toAlike.trans (Station.act_alike a up e)
      refine ⟨alike, fun _ => ?_, fun notOwner => ?_⟩
      · rcases reverts.leftAlone (o := ⟨false, up⟩) alone with ⟨-, rest⟩ | ⟨-, -, still, -, -, waits'⟩
        · exact .inl rest
        · exact .inr ⟨still, fun one => waits' (waits one)⟩
      · exact absurd (alike.role.trans (h.role.symm.trans owner)) notOwner
  · rw [Station.act_unasked (h.other owner).toUntimed alone.unasked]
    exact h

theorem Recovering.post_nr {i : Fin n} {a b : Station} {o : Ctl.Seen} {lnk : PortIdx} (h : Recovering p i k a)
    (alike : a.Alike b) (post : b.ctl = a.ctl.post o lnk .rapsNr) : Recovering p i (k + 1) b := by
  refine ⟨h.toAlike.trans alike, fun owner => ?_, fun notOwner => ?_⟩
  · have owner' : a.ctl.role = .owner := alike.role.symm.trans owner
    rw [post]
    rcases h.owner owner' with rest | ⟨reverts, -⟩
    · rw [rest.owner_nr o lnk owner']
      exact .inl rest
    · obtain ⟨still, waits, -, -⟩ := reverts.nr o lnk
      exact .inr ⟨still, fun _ => waits⟩
  · have notOwner' : a.ctl.role ≠ .owner := fun owner => notOwner (alike.role.trans owner)
    rw [post]
    exact (h.other notOwner').nr notOwner'

theorem Recovering.less {i : Fin n} {a : Station} {l : Nat} (h : Recovering p i k a) (less : l ≤ k) :
    Recovering p i l a :=
  ⟨h.toAlike, fun owner => (h.owner owner).imp_right fun ⟨reverts, waits⟩ =>
    ⟨reverts, fun one => waits (one.trans less)⟩, h.other⟩

theorem Recovering.hear {i : Fin n} {a : Station} {m : Message} (oneOwner : ∀ i j,
    (p.stations i).ctl.role = .owner → (p.stations j).ctl.role = .owner → i = j) (up : Ports Bool)
    (lnk : PortIdx) (h : Recovering p i k a) (calm : NoRequest p m) : Recovering p i k (a.hear up lnk m) := by
  have alike := Station.hear_alike a up lnk m
  revert alike
  unfold Station.hear
  split
  · exact fun _ => h
  · next listens =>
    intro alike
    rcases calm with nr | ⟨nrRb, j, nodeId, there⟩
    · have post : (a.post ⟨a.nodeId.toList < m.nodeId.toList, up⟩ lnk m.req.request).ctl =
          a.ctl.post ⟨a.nodeId.toList < m.nodeId.toList, up⟩ lnk .rapsNr := by
        rw [nr]
        rfl
      exact (h.post_nr alike post).less (Nat.le_succ k)
    -- R-APS(NR,RB) is the RPL owner's own, which it does not listen to
    · have notOwner : a.ctl.role ≠ .owner := by
        intro owner
        obtain rfl := oneOwner i j (h.role.symm.trans owner) there
        exact listens (.inl (nodeId.symm.trans h.nodeId.symm))
      refine ⟨h.toAlike.trans alike, fun owner => absurd (alike.role.symm.trans owner) notOwner, fun _ => ?_⟩
      rw [nrRb]
      exact (h.other notOwner).nrRb notOwner

/-- Left alone, a ring goes on recovering. -/
theorem recovering_kept (oneOwner : ∀ i j, (p.stations i).ctl.role = .owner →
    (p.stations j).ctl.role = .owner → i = j) (k : Fin n → Nat) :
    Kept (fun i => Recovering p i (k i)) (NoRequest p) fun _ => Ctl.LeftAlone where
  act up h own alone := h.act up alone
  send {i a req} h active announced := by
    by_cases owner : a.ctl.role = .owner
    · rcases h.owner owner with rest | ⟨reverts, -⟩
      · have nrRb := (rest.sends active).2
        exact .inr ⟨Option.some.inj (announced.symm.trans nrRb), i, h.nodeId.symm, h.role.symm.trans owner⟩
      · exact .inl (Option.some.inj (announced.symm.trans (reverts.sends active)))
    · exact .inl (Option.some.inj (announced.symm.trans ((h.other owner).sends active)))
  hear up lnk h calm := h.hear oneOwner up lnk calm
  wait ms h := ⟨h.toAlike.trans ⟨rfl, rfl, rfl⟩, h.owner, h.other⟩
  late ms calm := calm

/-! ### Until the RPL owner has reverted -/

/-- The wait of the RPL owner does not end. -/
def Waits (c : Ctl) (e : Event) : Prop := c.LeftAlone e ∧ (c.role = .owner → e.endsWait = false)

theorem Undecided.act {i : Fin n} {a : Station} {e : Event} (up : Ports Bool) (h : Undecided p top i a)
    (waits : Waits a.ctl e) : Undecided p top i (a.act up e) := by
  obtain ⟨alone, further⟩ := waits
  by_cases owner : a.ctl.role = .owner
  · have alike := h.toAlike.trans (Station.act_alike a up e)
    obtain ⟨ends, -⟩ | ⟨-, -, reverts, blocked, tx, -⟩ :=
      (h.ctl.owner owner).leftAlone (o := ⟨false, up⟩) alone
    · exact absurd ((further owner).symm.trans ends) (by decide)
    · have same : (a.act up e).ctl = a.ctl.step ⟨false, up⟩ e := rfl
      refine ⟨alike, ⟨fun _ => reverts, fun notOwner => absurd reverts.owner notOwner⟩, fun here => ?_,
        fun active => ?_⟩
      · rw [same, Ctl.anyBlocked, blocked]
        exact h.holds here
      · rw [same, Ctl.txActive, tx] at active
        exact h.sends active
  · rw [Station.act_unasked (h.ctl.other owner).toUntimed alone.unasked]
    exact h

/-- R-APS(NR) of no greater ID leaves the block of `top` alone, and makes no node send. -/
theorem Undecided.hear {i : Fin n} {a : Station} {m : Message} (up : Ports Bool) (lnk : PortIdx)
    (h : Undecided p top i a) (lower : Lower p top m) : Undecided p top i (a.hear up lnk m) := by
  have alike := h.toAlike.trans (Station.hear_alike a up lnk m)
  revert alike
  unfold Station.hear
  split
  · exact fun _ => h
  · intro alike
    obtain ⟨undecided, blocked, silent⟩ := h.ctl.nr ⟨a.nodeId.toList < m.nodeId.toList, up⟩ lnk
    rw [lower.req] at alike ⊢
    refine ⟨alike, undecided, fun here => ?_, fun active => h.sends (silent active)⟩
    have highest : decide (a.nodeId.toList < m.nodeId.toList) = false := by
      subst here
      rw [h.nodeId]
      exact decide_eq_false lower.nodeId
    have holds := h.holds here
    rw [Ctl.anyBlocked, ← blocked highest] at holds
    exact holds

theorem undecided_kept : Kept (Undecided p top) (Lower p top) fun _ => Waits where
  act up h own waits := h.act up waits
  send {i a req} h active announced := by
    have nr : a.ctl.announced = some .nr := by
      by_cases owner : a.ctl.role = .owner
      · exact (h.ctl.owner owner).sends active
      · exact (h.ctl.other owner).sends active
    exact ⟨Option.some.inj (announced.symm.trans nr), h.sends active⟩
  hear up lnk h lower := h.hear up lnk lower
  wait ms h := ⟨h.toAlike.trans ⟨rfl, rfl, rfl⟩, h.ctl, h.holds, h.sends⟩
  late ms lower := ⟨lower.req, lower.nodeId⟩

/-- What a ring that was `p` is when the RPL owner has reverted. -/
def Reverted (p q : Protocol n) : Prop := q.Holds (fun i => Homeward p i 0) (NoRequest p)

theorem Undecided.homeward {i : Fin n} {a : Station} (h : Undecided p top i a)
    (notOwner : a.ctl.role ≠ .owner) : Homeward p i 0 a :=
  ⟨h.toAlike, fun owner => absurd owner notOwner, fun _ => ⟨h.ctl.other notOwner,
    fun one => absurd one (by decide), fun two => absurd two (by decide)⟩⟩

/-- When the wait ends the RPL owner has reverted. -/
theorem reverted_of_ends {i : Fin n} {up : Ports Bool} {e : Event} (oneOwner : ∀ i j,
    (p.stations i).ctl.role = .owner → (p.stations j).ctl.role = .owner → i = j)
    (h : q.Holds (Undecided p top) (Lower p top)) (owner : (q.stations i).ctl.role = .owner)
    (alone : (q.stations i).ctl.LeftAlone e) (ends : e.endsWait = true) :
    Reverted p (q.step (.act i up e)) := by
  have there := h.stations i
  have alike := there.toAlike.trans (Station.act_alike _ up e)
  have rest : ((q.stations i).act up e).ctl.AtRest := by
    obtain ⟨-, rest⟩ | ⟨further, -⟩ := (there.ctl.owner owner).leftAlone (o := ⟨false, up⟩) alone
    · exact rest
    · exact absurd (further.symm.trans ends) (by decide)
  refine ⟨fun j => ?_, fun m member => .inl (h.inFlight m member).req⟩
  by_cases here : j = i
  · subst here
    simp only [Protocol.step, update_self]
    have owner' := alike.role.trans (there.role.symm.trans owner)
    exact ⟨alike, fun _ => rest, fun notOwner => absurd owner' notOwner⟩
  · simp only [Protocol.step, update_other q _ here]
    refine (h.stations j).homeward fun owner' => here ?_
    exact oneOwner j i ((h.stations j).role.symm.trans owner') (there.role.symm.trans owner)

end Protocol

namespace Wire

variable {n : Nat} {w v : Wire n} {p q : Protocol n} {x : WireStep n} {pre xs : List (WireStep n)}
  {ahead : Fin n → PortIdx} {e : Fin n}

/-- No node has a request of its own, and only nodes that hold a block have announced R-APS(NR). -/
structure Recovers (w : Wire n) : Prop extends w.Sound where
  undecided : ∀ i, (w.nodes i).ctl.Undecided
  sends : ∀ i, (w.nodes i).ctl.txActive = true → (w.nodes i).ctl.anyBlocked = true
  frames : ∀ f ∈ w.inFlight, ∃ m, f.Carries m ∧ m.req = .nr ∧
    ∃ i, (w.nodes i).nodeId = m.nodeId ∧ (w.nodes i).ctl.anyBlocked = true
  hasBlock : ∃ i, (w.nodes i).ctl.anyBlocked = true
  oneOwner : ∀ i j, (w.nodes i).ctl.role = .owner → (w.nodes j).ctl.role = .owner → i = j
  hasOwner : ∃ i, (w.nodes i).ctl.role = .owner

/-- Of the nodes that hold a block none has a greater ID than `top`. -/
theorem Recovers.exists_top (h : w.Recovers) : ∃ top, (w.nodes top).ctl.anyBlocked = true ∧
    ∀ i, (w.nodes i).ctl.anyBlocked = true → ¬(w.nodes top).nodeId.toList < (w.nodes i).nodeId.toList := by
  let Outranks (i j : Fin n) : Prop := (w.nodes j).nodeId.toList < (w.nodes i).nodeId.toList
  have _ : IsTrans (Fin n) Outranks := ⟨fun _ _ _ first second => List.lt_trans second first⟩
  have _ : Std.Irrefl Outranks := ⟨fun _ => List.lt_irrefl _⟩
  exact (Finite.wellFounded_of_trans_of_irrefl Outranks).has_min
    {i | (w.nodes i).ctl.anyBlocked = true} h.hasBlock

/-- The protocol of a ring that recovers, and the node with the greatest ID. -/
structure StartsAs (w : Wire n) (p : Protocol n) (top : Fin n) : Prop where
  stations : ∀ i, p.stations i = (w.nodes i).station
  shows : w.Shows p
  holds : p.Holds (Protocol.Undecided p top) (Protocol.Lower p top)
  oneOwner : ∀ i j, (p.stations i).ctl.role = .owner → (p.stations j).ctl.role = .owner → i = j
  hasOwner : ∃ i, (p.stations i).ctl.role = .owner

theorem Recovers.startsAs (h : w.Recovers) : ∃ p top, w.StartsAs p top := by
  obtain ⟨top, blocks, greatest⟩ := h.exists_top
  obtain ⟨ms, matched, sent⟩ := exists_carried h.frames
  refine ⟨⟨fun i => (w.nodes i).station, ms⟩, top, fun _ => rfl, ⟨h.formed, h.names, fun _ => rfl, matched⟩,
    ⟨fun i => ?_, fun m member => ?_⟩, h.oneOwner, h.hasOwner⟩
  · refine ⟨⟨rfl, rfl, rfl⟩, h.undecided i, fun here => ?_, fun active => greatest i (h.sends i active)⟩
    subst here
    exact blocks
  · obtain ⟨nr, i, nodeId, blocked⟩ := sent m member
    refine ⟨nr, ?_⟩
    rw [← nodeId]
    exact greatest i blocked

/-- The wait of the node has ended. -/
def Ended (pre : List (WireStep n)) (i : Fin n) : Prop := ∃ x, .event i x ∈ pre ∧ x.1.endsWait = true

theorem ended_concat {i : Fin n} (ended : Ended (pre ++ [x]) i) :
    Ended pre i ∨ ∃ z, x = .event i z ∧ z.1.endsWait = true := by
  obtain ⟨z, member, ends⟩ := ended
  rcases List.mem_append.mp member with before | last
  · exact .inl ⟨z, before, ends⟩
  · exact .inr ⟨z, (List.mem_singleton.mp last).symm, ends⟩

/-- A ring that was `p` on its way: the RPL owner has reverted, or no wait has ended. -/
structure Recovered (p : Protocol n) (top : Fin n) (pre : List (WireStep n)) (v : Wire n) : Prop where
  agrees : ∀ i, (v.nodes i).Agrees
  shows : ∃ q, v.Shows q ∧ (p.Reverted q ∨
    (q.Holds (Protocol.Undecided p top) (Protocol.Lower p top) ∧
      ∀ i, (p.stations i).ctl.role = .owner → ¬Ended pre i))

theorem Recovered.step {top : Fin n} (oneOwner : ∀ i j, (p.stations i).ctl.role = .owner →
    (p.stations j).ctl.role = .owner → i = j) (h : v.Recovered p top pre) (permits : Permits x)
    (alone : v.Meets (fun _ => Ctl.LeftAlone) x) : (v.step x).Recovered p top (pre ++ [x]) := by
  refine ⟨step_agrees h.agrees permits, ?_⟩
  obtain ⟨q, shown, phase⟩ := h.shows
  obtain ⟨y, matched, permits', after⟩ := shown.step permits
  refine ⟨q.step y, after, ?_⟩
  rcases phase with reverted | ⟨undecided, further⟩
  · refine .inl (reverted.step (Protocol.homeward_kept (fun _ => 0) oneOwner) permits' ?_)
    refine shown.meets matched ?_
    cases x with
    | event i z => exact Ctl.LeftAlone.unasked alone
    | _ => trivial
  -- only the end of the RPL owner's wait leads from one phase to the other
  · by_cases ends : ∃ i z, x = .event i z ∧ (p.stations i).ctl.role = .owner ∧ z.1.endsWait = true
    · obtain ⟨i, z, rfl, owner, ends⟩ := ends
      have alone' := shown.meets (C := fun _ => Ctl.LeftAlone) matched alone
      cases matched with
      | act i up z =>
        have owner' := (undecided.stations i).role.trans owner
        exact .inl (Protocol.reverted_of_ends oneOwner undecided owner' alone' ends)
    · have waits : v.Meets (fun _ => Protocol.Waits) x := by
        cases x with
        | event i z =>
          refine ⟨alone, fun owner => Bool.eq_false_iff.mpr fun now => ends ⟨i, z, rfl, ?_, now⟩⟩
          have role := (undecided.stations i).role
          rw [shown.stations i] at role
          exact role.symm.trans owner
        | _ => trivial
      refine .inr ⟨undecided.step Protocol.undecided_kept permits' (shown.meets matched waits), ?_⟩
      intro i owner ended
      rcases ended_concat ended with before | ⟨z, rfl, now⟩
      · exact further i owner before
      · exact ends ⟨i, z, rfl, owner, now⟩

theorem Recovered.sound {top : Fin n} (h : v.Recovered p top pre) : v.Sound := by
  obtain ⟨q, shown, -⟩ := h.shows
  exact ⟨shown.formed, shown.names, h.agrees⟩

theorem Homeward.returns {k : Fin n → Nat} (h : Homeward w k v)
    (oneOwner : ∀ i j, (w.nodes i).ctl.role = .owner → (w.nodes j).ctl.role = .owner → i = j)
    (hasOwner : ∃ i, (w.nodes i).ctl.role = .owner) : v.Returns := by
  refine ⟨h.toSound, fun i owner => h.owner i ((h.role i).symm.trans owner),
    fun i notOwner => (h.other i fun owner => notOwner ((h.role i).trans owner)).1, fun f member => ?_,
    fun i j owner owner' => oneOwner i j ((h.role i).symm.trans owner) ((h.role j).symm.trans owner'), ?_⟩
  · obtain ⟨m, carries, calm⟩ := h.frames f member
    refine ⟨m, carries, calm.imp_right ?_⟩
    rintro ⟨nrRb, i, nodeId, owner⟩
    exact ⟨nrRb, i, nodeId, (h.role i).trans owner⟩
  · obtain ⟨i, owner⟩ := hasOwner
    exact ⟨i, (h.role i).trans owner⟩

/-- The RPL is blocked, or the port of the node with the greatest ID. -/
theorem Recovered.loopFree {top : Fin n} (h : v.Recovered p top pre)
    (hasOwner : ∃ i, (p.stations i).ctl.role = .owner) : v.LoopFree := by
  have blocked : ∃ i lnk, (v.nodes i).ctl.blocked.get lnk = true := by
    obtain ⟨q, shown, phase⟩ := h.shows
    have ctl (i : Fin n) : (q.stations i).ctl = (v.nodes i).ctl := congrArg Station.ctl (shown.stations i)
    rcases phase with reverted | ⟨undecided, -⟩
    · obtain ⟨i, owner⟩ := hasOwner
      have owner' := (reverted.stations i).role.trans owner
      have rest := (reverted.stations i).owner owner'
      refine ⟨i, .port1, ?_⟩
      rw [← ctl i, rest.blocked, owner']
      rfl
    · have holds := (undecided.stations top).holds rfl
      rw [ctl top] at holds
      rcases Bool.or_eq_true_iff.mp holds with port0 | port1
      · exact ⟨top, .port0, port0⟩
      · exact ⟨top, .port1, port1⟩
  obtain ⟨i, lnk, blocked⟩ := blocked
  exact loopFree_of_disabled ((h.sound.disabled_iff i lnk).mpr blocked)

theorem StartsAs.recovered {top : Fin n} (h : w.StartsAs p top) (agrees : ∀ i, (w.nodes i).Agrees)
    (permits : ∀ x ∈ xs, Permits x)
    (alone : EachStep Wire.step w xs fun _ v x => v.Meets (fun _ => Ctl.LeftAlone) x) :
    EachState Wire.step w xs fun pre v => v.Recovered p top pre := by
  have steps : EachStep Wire.step w xs fun _ v x => Permits x ∧ v.Meets (fun _ => Ctl.LeftAlone) x :=
    (eachStep_of_forall permits).and alone
  have notYet (i : Fin n) : ¬Ended ([] : List (WireStep n)) i := fun ⟨x, member, _⟩ => by cases member
  refine eachState_of_eachStep ⟨agrees, p, h.shows, .inr ⟨h.holds, fun i _ => notYet i⟩⟩ steps ?_
  exact fun pre v x _ taken before => before.step h.oneOwner taken.1 taken.2

/-- With what each node has heard before the run. -/
theorem StartsAs.recovering {top : Fin n} {before : Fin n → Nat} (h : w.StartsAs p top)
    (waits : ∀ i, 1 ≤ before i → (w.nodes i).ctl.role = .owner → ∃ t, (w.nodes i).ctl.Waiting t)
    (permits : ∀ x ∈ xs, Permits x)
    (alone : EachStep Wire.step w xs fun _ v x => v.Meets (fun _ => Ctl.LeftAlone) x) :
    EachState Wire.step w xs fun pre v => ∃ q, v.Shows q ∧
      q.Holds (fun i => Protocol.Recovering p i (before i + w.hearings .nr pre i)) (Protocol.NoRequest p) := by
  have steps : EachStep Wire.step w xs fun _ v x => Permits x ∧ v.Meets (fun _ => Ctl.LeftAlone) x :=
    (eachStep_of_forall permits).and alone
  have start (i : Fin n) : Protocol.Recovering p i (before i + 0) (p.stations i) := by
    have undecided := (h.holds.stations i).ctl
    refine ⟨⟨rfl, rfl, rfl⟩, fun owner => .inr ⟨undecided.owner owner, fun one => ?_⟩, undecided.other⟩
    rw [h.stations i] at owner ⊢
    exact waits i one owner
  have calm (m : Message) (member : m ∈ p.inFlight) : Protocol.NoRequest p m :=
    .inl (h.holds.inFlight m member).req
  refine holds_hearings (I := fun i k => Protocol.Recovering p i (before i + k)) ⟨p, h.shows, start, calm⟩
    (fun k => Protocol.recovering_kept h.oneOwner fun i => before i + k i) ?_ steps
  intro i k a b o lnk here next post
  have alike : a.Alike b := ⟨next.nodeId.trans here.nodeId.symm, next.role.trans here.role.symm,
    next.duration.trans here.duration.symm⟩
  exact here.post_nr alike post

/-- The RPL owner waits once it has listened to R-APS(NR), or did from the start. -/
theorem StartsAs.waiting {top i : Fin n} (h : w.StartsAs p top) (owner : (w.nodes i).ctl.role = .owner)
    (permits : ∀ x ∈ xs, Permits x)
    (alone : EachStep Wire.step w xs fun _ v x => v.Meets (fun _ => Ctl.LeftAlone) x) :
    EachState Wire.step w xs fun pre v =>
      (∃ t, (w.nodes i).ctl.Waiting t) ∨ 1 ≤ w.hearings .nr pre i →
        (v.nodes i).ctl.AtRest ∨ ∃ t, (v.nodes i).ctl.Waiting t := by
  have since (before : Fin n → Nat)
      (waits : ∀ j, 1 ≤ before j → (w.nodes j).ctl.role = .owner → ∃ t, (w.nodes j).ctl.Waiting t) :
      EachState Wire.step w xs fun pre v => 1 ≤ before i + w.hearings .nr pre i →
        (v.nodes i).ctl.AtRest ∨ ∃ t, (v.nodes i).ctl.Waiting t := by
    refine (h.recovering waits permits alone).mono fun pre v ⟨q, shown, holds⟩ heard => ?_
    have recovering := holds.stations i
    have owner' : (q.stations i).ctl.role = .owner := by
      rw [recovering.role, h.stations i]
      exact owner
    have waits := recovering.owner owner'
    rw [shown.stations i] at waits
    exact waits.imp_right fun ⟨_, waits⟩ => waits heard
  intro pre member
  rintro (waits | heard)
  -- to wait from the start counts as having listened once before
  · refine since (fun j => if j = i then 1 else 0) (fun j one _ => ?_) pre member ?_
    · by_cases here : j = i
      · rw [here]
        exact waits
      · rw [if_neg here] at one
        exact absurd one (by decide)
    · simp
  · exact since (fun _ => 0) (fun j one _ => absurd one (by decide)) pre member (by simpa using heard)

/-- When the wait of the RPL owner has ended the ring returns. -/
theorem Recovered.returns {top i : Fin n} (h : v.Recovered p top pre) (starts : w.StartsAs p top)
    (owner : (w.nodes i).ctl.role = .owner) (ended : Ended pre i) : v.Returns := by
  have role (j : Fin n) : (p.stations j).ctl.role = (w.nodes j).ctl.role :=
    congrArg (fun a => a.ctl.role) (starts.stations j)
  obtain ⟨q, shown, phase⟩ := h.shows
  rcases phase with reverted | ⟨-, further⟩
  · have homeward := homeward_of_holds h.agrees starts.stations shown reverted
    refine homeward.returns (fun j l here there => ?_) ⟨i, owner⟩
    exact starts.oneOwner j l ((role j).trans here) ((role l).trans there)
  · exact absurd ended (further i ((role i).trans owner))

/-- From any such state a ring that is left alone never has a loop, its RPL owner does not stay
in pending or in a switch for want of a timer, and the ring returns when the wait has ended. -/
theorem ring_recovers {xs : List (WireStep n)} (recovers : w.Recovers) (permits : ∀ x ∈ xs, Permits x)
    (alone : EachStep Wire.step w xs fun _ v x => v.Meets (fun _ => Ctl.LeftAlone) x) :
    EachState Wire.step w xs fun pre v => v.LoopFree ∧ ∀ i, (w.nodes i).ctl.role = .owner →
      ((∃ t, (w.nodes i).ctl.Waiting t) ∨ 1 ≤ w.hearings .nr pre i →
        (v.nodes i).ctl.AtRest ∨ ∃ t, (v.nodes i).ctl.Waiting t) ∧ (Ended pre i → v.Returns) := by
  obtain ⟨p, top, starts⟩ := recovers.startsAs
  have along := starts.recovered recovers.agrees permits alone
  intro pre member
  have recovered := along pre member
  refine ⟨recovered.loopFree starts.hasOwner, fun i owner => ⟨?_, recovered.returns starts owner⟩⟩
  exact starts.waiting owner permits alone pre member

/-! ### Start-up -/

/-- A revertive ring that has been initialised. -/
theorem recovers_of_initialised (init : ∀ i, Initialised (w.nodes i))
    (apart : ∀ i, (w.nodes i).node.ports.port0.dev ≠ (w.nodes i).node.ports.port1.dev)
    (quiet : w.inFlight = [])
    (revertive : ∀ i, (w.nodes i).ctl.role = .owner → (w.nodes i).ctl.revertive = true)
    (oneOwner : ∀ i j, (w.nodes i).ctl.role = .owner → (w.nodes j).ctl.role = .owner → i = j)
    (hasOwner : ∃ i, (w.nodes i).ctl.role = .owner) : w.Recovers := by
  have nothing : ∀ x ∈ ([] : List (WireStep n)), Permits x := fun x member => by cases member
  have sound : w.Sound := (sound_of_initialised init apart quiet nothing).start
  have blocks (i : Fin n) : (w.nodes i).ctl.anyBlocked = true := by
    rw [(init i).booted.2, Ctl.anyBlocked, Ctl.booted_blocked]
    cases (w.nodes i).setup.role <;> rfl
  refine ⟨sound, fun i => ?_, fun i _ => blocks i, fun f member => ?_, ?_, oneOwner, hasOwner⟩
  · rw [(init i).booted.2]
    exact .booted _ (revertive i)
  · rw [quiet] at member
    cases member
  · obtain ⟨i, -⟩ := hasOwner
    exact ⟨i, blocks i⟩

theorem Homeward.atRest {k : Fin n → Nat} (h : Homeward w k v)
    (oneOwner : ∀ i j, (w.nodes i).ctl.role = .owner → (w.nodes j).ctl.role = .owner → i = j)
    (hasOwner : ∃ i, (w.nodes i).ctl.role = .owner)
    (twice : ∀ i, (w.nodes i).ctl.role ≠ .owner → 2 ≤ k i)
    (drained : ∀ f ∈ v.inFlight, ∀ m, f.Carries m → m.req ≠ .nr) : v.AtRest := by
  refine ⟨h.toSound, fun i => h.rests (twice i), fun f member => ?_,
    fun i j owner owner' => oneOwner i j ((h.role i).symm.trans owner) ((h.role j).symm.trans owner'), ?_⟩
  · obtain ⟨m, carries, nr | ⟨nrRb, i, nodeId, owner⟩⟩ := h.frames f member
    · exact absurd nr (drained f member m carries)
    · exact ⟨m, carries, nrRb, i, nodeId, (h.role i).trans owner⟩
  · obtain ⟨i, owner⟩ := hasOwner
    refine ⟨i, ?_⟩
    rw [h.role i, owner]
    decide

theorem Recovered.role {top : Fin n} (h : v.Recovered p top pre) (starts : w.StartsAs p top) (i : Fin n) :
    (v.nodes i).ctl.role = (w.nodes i).ctl.role := by
  obtain ⟨q, shown, phase⟩ := h.shows
  have alike : (p.stations i).Alike (q.stations i) := by
    rcases phase with reverted | ⟨undecided, -⟩
    · exact (reverted.stations i).toAlike
    · exact (undecided.stations i).toAlike
  have role := alike.role
  rw [shown.stations i, starts.stations i] at role
  exact role

/-- A revertive ring that is left alone after its initialisation never has a loop, and once the
wait of the RPL owner has ended and its nodes have listened to R-APS(NR,RB), it comes to rest with
the RPL blocked. -/
theorem ring_starts_up {early late : List (WireStep n)} (init : ∀ i, Initialised (w.nodes i))
    (apart : ∀ i, (w.nodes i).node.ports.port0.dev ≠ (w.nodes i).node.ports.port1.dev)
    (quiet : w.inFlight = [])
    (revertive : ∀ i, (w.nodes i).ctl.role = .owner → (w.nodes i).ctl.revertive = true)
    (oneOwner : ∀ i j, (w.nodes i).ctl.role = .owner → (w.nodes j).ctl.role = .owner → i = j)
    (hasOwner : ∃ i, (w.nodes i).ctl.role = .owner)
    (rpl : ∀ i, (w.nodes i).ctl.role ≠ .plain → OnLink ahead e i .port1)
    (permits : ∀ x ∈ early ++ late, Permits x)
    (alone : EachStep Wire.step w (early ++ late) fun _ v x => v.Meets (fun _ => Ctl.LeftAlone) x) :
    (EachState Wire.step w (early ++ late) fun _ v => v.LoopFree) ∧
      ∀ i, (w.nodes i).ctl.role = .owner → Ended early i →
        EachState Wire.step (run Wire.step w early) late fun pre v =>
          (∀ j, (w.nodes j).ctl.role ≠ .owner → 2 ≤ (run Wire.step w early).hearings .nrRb pre j) →
            (v.Tree ahead ∧ ∀ k, v.Cut ahead k ↔ k = e) ∧
              ((∀ f ∈ v.inFlight, ∀ m, f.Carries m → m.req ≠ .nr) → v.AtRest) := by
  have recovers := recovers_of_initialised init apart quiet revertive oneOwner hasOwner
  obtain ⟨p, top, starts⟩ := recovers.startsAs
  have along := starts.recovered recovers.agrees permits alone
  refine ⟨along.mono fun _ _ recovered => recovered.loopFree starts.hasOwner, fun i owner ended => ?_⟩
  -- where the wait has ended the ring is on its way to rest
  have there := along early (List.prefix_append early late)
  have role := there.role starts
  have returns := there.returns starts owner ended
  have unasked : EachStep Wire.step (run Wire.step w early) late fun _ v x =>
      v.Meets (fun _ => Ctl.Unasked) x := by
    refine alone.later.mono fun pre v x meets => ?_
    cases x with
    | event j z => exact Ctl.LeftAlone.unasked meets
    | _ => trivial
  have permits' : ∀ x ∈ late, Permits x := fun x member => permits x (List.mem_append_right early member)
  refine (returns.run permits' unasked).mono fun pre v homeward twice => ?_
  have twice' (j : Fin n) (notOwner : ((run Wire.step w early).nodes j).ctl.role ≠ .owner) :
      2 ≤ (run Wire.step w early).hearings .nrRb pre j := twice j fun here => notOwner ((role j).trans here)
  have rpl' (j : Fin n) (ring : ((run Wire.step w early).nodes j).ctl.role ≠ .plain) :
      OnLink ahead e j .port1 := rpl j fun plain => ring ((role j).trans plain)
  exact ⟨homeward.tree returns.hasOwner rpl' twice',
    homeward.atRest returns.oneOwner returns.hasOwner twice'⟩

/-! ### The ring of two -/

/-- The wait of the RPL owner ends, and then frames are sent and received. -/
theorem sample_alone {xs : List (WireStep 2)} (calm : ∀ x ∈ xs, ∀ i z, x ≠ .event i z) :
    EachStep Wire.step (sample false) (.event ⟨0, Nat.two_pos⟩ (.expiry .wtr, allSucceed) :: xs)
      fun _ v x => v.Meets (fun _ => Ctl.LeftAlone) x := by
  refine eachStep_cons ?_ fun pre x member => ?_
  · have due : (((sample false).nodes ⟨0, Nat.two_pos⟩).ctl.timer .wtr).scheduled = true := by decide +kernel
    exact Ctl.LeftAlone.expiry due
  · cases x with
    | event i z => exact absurd rfl (calm _ (member.subset (by simp)) i z)
    | _ => trivial

theorem sample_recovers : (sample false).Recovers :=
  recovers_of_initialised (Ring.sample_started false).initialised (by decide) rfl (by decide) (by decide)
    ⟨⟨0, Nat.two_pos⟩, rfl⟩

theorem ring_recovers_sample : (run Wire.step (sample false) restSteps).Returns := by
  have calm : ∀ x ∈ restSteps.tail, ∀ i z, x ≠ .event i z := by
    intro x member
    simp only [restSteps, List.tail_cons, List.mem_cons, List.not_mem_nil, or_false] at member
    rcases member with rfl | rfl <;> intro i z same <;> cases same
  have along := ring_recovers sample_recovers restSteps_permits (sample_alone calm)
  exact (along.last.2 ⟨0, Nat.two_pos⟩ rfl).2 ⟨(.expiry .wtr, allSucceed), List.mem_cons_self, rfl⟩

/-- In the end the ring of two is at rest. -/
theorem ring_starts_up_sample :
    ((run Wire.step blockedRpl returnSteps).Tree (fun _ => .port1) ∧
      ∀ k, (run Wire.step blockedRpl returnSteps).Cut (fun _ => .port1) k ↔ k = ⟨0, Nat.two_pos⟩) ∧
        ((∀ f ∈ (run Wire.step blockedRpl returnSteps).inFlight, ∀ m, f.Carries m → m.req ≠ .nr) →
          (run Wire.step blockedRpl returnSteps).AtRest) := by
  have calm : ∀ x ∈ returnSteps, ∀ i z, x ≠ .event i z := by
    intro x member
    simp only [returnSteps, List.mem_cons, List.not_mem_nil, or_false] at member
    rcases member with rfl | rfl | rfl <;> intro i z same <;> cases same
  have permits : ∀ x ∈ restSteps.take 1 ++ returnSteps, Permits x := by
    intro x member
    rcases List.mem_append.mp member with first | later
    · exact restSteps_permits x (List.mem_of_mem_take first)
    · exact returnSteps_permits x later
  have rpl : ∀ i, ((sample false).nodes i).ctl.role ≠ .plain →
      OnLink (fun _ => .port1) ⟨0, Nat.two_pos⟩ i .port1 := by
    decide +kernel
  have along := ring_starts_up (Ring.sample_started false).initialised (by decide) rfl (by decide) (by decide)
    ⟨⟨0, Nat.two_pos⟩, rfl⟩ rpl permits (sample_alone calm)
  have ended := along.2 ⟨0, Nat.two_pos⟩ rfl ⟨(.expiry .wtr, allSucceed), List.mem_cons_self, rfl⟩
  refine ended.last fun i notOwner => returnSteps_twice i fun first => notOwner ?_
  rw [first]
  rfl

end Wire

end Erps
