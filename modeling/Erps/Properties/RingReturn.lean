import Erps.Ctl.Rest
import Erps.Properties.Hearings
import Erps.Properties.IdleRing

/-!
# A ring returns

Once the RPL owner has blocked the RPL again and no node has a request of its own, the ring
finds its way to rest, whatever is lost, repeated, reordered or late: each node is at rest when
it has listened to R-APS(NR,RB) twice, and the RPL stays blocked all the way.
-/
namespace Erps

open Calls Nets Runs

/-! ## The state machine -/

namespace Ctl

/-- A node on its way to rest: if it sends anything it is R-APS(NR). -/
structure Returning (c : Ctl) : Prop extends c.Calm where
  init : c.state ≠ .uninit
  idle : c.state = .idle → c.blocked = ⟨false, c.role ≠ .plain⟩
  sends : c.txActive = true → c.announced = some .nr

/-- How far it is after some R-APS(NR,RB). -/
structure Near (k : Nat) (c : Ctl) : Prop where
  once : 1 ≤ k → c.state = .pending ∨ c.AtRest
  twice : 2 ≤ k → c.AtRest

variable {c d : Ctl} {o : Seen} {lnk : PortIdx} {k : Nat}

theorem AtRest.returning (h : c.AtRest) (notOwner : c.role ≠ .owner) : c.Returning := by
  refine ⟨h.toFree.calm, ?_, fun _ => h.blocked, fun active => ?_⟩
  · rw [h.state]
    decide
  · exact absurd ((h.silent notOwner).symm.trans active) (by decide)

theorem Near.of_rest (h : c.AtRest) : c.Near k := ⟨fun _ => .inr h, fun _ => h⟩

theorem Near.less {l : Nat} (h : c.Near k) (less : l ≤ k) : c.Near l :=
  ⟨fun one => h.once (one.trans less), fun two => h.twice (two.trans less)⟩

theorem Returning.goes (h : c.Returning) : (c.goto .pending).Returning :=
  ⟨⟨⟨h.wtr, h.wtb⟩, h.topreq, ⟨h.shut.port0, h.shut.port1⟩⟩, NodeState.noConfusion, NodeState.noConfusion,
    h.sends⟩

/-- R-APS(NR,RB) leads a node to rest, or to pending from where the next one does. -/
theorem Returning.nrRb_cases (h : c.Returning) (notOwner : c.role ≠ .owner) (o : Seen) (lnk : PortIdx) :
    (c.post o lnk .rapsNrRb).AtRest ∨
      (c.state ≠ .pending ∧ c.state ≠ .idle ∧ c.post o lnk .rapsNrRb = c.goto .pending) := by
  cases state : c.state with
  | idle => exact .inl ((h.free (h.idle state)).idle_nrRb notOwner state (h.idle state))
  | pending => exact .inl (h.pending_nrRb notOwner state)
  | uninit => exact absurd state h.init
  | protection => exact .inr ⟨by decide, by decide, h.switch_nrRb (.inl state)⟩
  | manualSwitch => exact .inr ⟨by decide, by decide, h.switch_nrRb (.inr (.inl state))⟩
  | forcedSwitch => exact .inr ⟨by decide, by decide, h.switch_nrRb (.inr (.inr state))⟩

theorem Returning.nrRb (h : c.Returning) (notOwner : c.role ≠ .owner) :
    (c.post o lnk .rapsNrRb).Returning := by
  rcases h.nrRb_cases notOwner o lnk with rest | ⟨-, -, goes⟩
  · exact rest.returning (by rwa [post_role])
  · rw [goes]
    exact h.goes

/-- And so it is one further. -/
theorem Near.nrRb (h : c.Near k) (returning : c.Returning) (notOwner : c.role ≠ .owner) :
    (c.post o lnk .rapsNrRb).Near (k + 1) := by
  rcases returning.nrRb_cases notOwner o lnk with rest | ⟨notPending, notIdle, goes⟩
  · exact .of_rest rest
  · rw [goes]
    refine ⟨fun _ => .inl rfl, fun two => ?_⟩
    rcases h.once (Nat.le_of_succ_le_succ two) with pending | rest
    · exact absurd pending notPending
    · exact absurd rest.state notIdle

/-- R-APS(NR) leads a node that is switched to pending, and opens ports at most elsewhere. -/
theorem Returning.nr_cases (h : c.Returning) (notOwner : c.role ≠ .owner) (o : Seen) (lnk : PortIdx) :
    c.post o lnk .rapsNr = c ∨
      ((c.state = .idle → c.role = .plain) ∧ c.post o lnk .rapsNr = c.unblockNonFailed.silence) ∨
      (c.state ≠ .idle ∧ c.post o lnk .rapsNr = c.goto .pending) := by
  have waits (t : Timer) : c.startIfReverting t = c := if_neg fun both => notOwner both.1
  have elects : c.maybeUnblockAndStop o.outranked = c ∨
      c.maybeUnblockAndStop o.outranked = c.unblockNonFailed.silence := by
    unfold maybeUnblockAndStop
    split
    · exact .inr rfl
    · exact .inl rfl
  cases state : c.state with
  | idle =>
    have post : c.post o lnk .rapsNr = c.rapsNrIdle o.outranked := by
      rw [h.post_nr, react, state]
      rfl
    rw [post, rapsNrIdle]
    cases role : c.role with
    | owner => exact absurd role notOwner
    | nbr => exact .inl rfl
    | plain => exact elects.imp_right fun opens => .inl ⟨fun _ => rfl, opens⟩
  | pending =>
    have post : c.post o lnk .rapsNr = c.maybeUnblockAndStop o.outranked := by
      rw [h.post_nr, react, state]
      rfl
    rw [post]
    exact elects.imp_right fun opens => .inl ⟨fun idle => NodeState.noConfusion idle, opens⟩
  | uninit => exact absurd state h.init
  | protection | manualSwitch | forcedSwitch =>
    refine .inr (.inr ⟨by decide, ?_⟩)
    rw [h.post_nr, react, state]
    simp only [postProtection, postManualSwitch, postForcedSwitch, rapsNrRest, waits]
    rfl

theorem Returning.opened (h : c.Returning) (plain : c.state = .idle → c.role = .plain) :
    c.unblockNonFailed.silence.Returning := by
  refine ⟨⟨⟨h.wtr, h.wtb⟩, h.topreq, ⟨fun failed => ?_, fun failed => ?_⟩⟩, h.init, fun idle => ?_,
    fun active => Bool.noConfusion active⟩
  · exact (Bool.and_eq_true _ _).mpr ⟨h.shut.port0 failed, failed⟩
  · obtain ⟨blocked, role⟩ := h.shut.port1 failed
    exact ⟨(Bool.and_eq_true _ _).mpr ⟨blocked, failed⟩, role⟩
  · have role : c.role = .plain := plain idle
    have blocked := h.idle idle
    have role' : c.unblockNonFailed.silence.role = .plain := role
    rw [role']
    rw [role] at blocked
    simp [unblockNonFailed, silence, blocked]

theorem Returning.nr (h : c.Returning) (notOwner : c.role ≠ .owner) : (c.post o lnk .rapsNr).Returning := by
  rcases h.nr_cases notOwner o lnk with same | ⟨plain, opens⟩ | ⟨-, goes⟩
  · rwa [same]
  · rw [opens]
    exact h.opened plain
  · rw [goes]
    exact h.goes

theorem Near.nr (h : c.Near k) (returning : c.Returning) (notOwner : c.role ≠ .owner) :
    (c.post o lnk .rapsNr).Near k := by
  rcases returning.nr_cases notOwner o lnk with same | ⟨plain, opens⟩ | ⟨notIdle, goes⟩
  · rwa [same]
  · rw [opens]
    have rests (rest : c.AtRest) : c.unblockNonFailed.silence.AtRest := by
      have opened := returning.opened plain
      have free : c.unblockNonFailed.silence.Free := opened.free (opened.idle rest.state)
      exact ⟨free, rest.state, opened.idle rest.state, fun active => Bool.noConfusion active⟩
    exact ⟨fun one => (h.once one).imp_right rests, fun two => rests (h.twice two)⟩
  · rw [goes]
    exact ⟨fun _ => .inl rfl, fun two => absurd (h.twice two).state notIdle⟩

/-- The RPL owner that has blocked the RPL takes no notice of R-APS(NR). -/
theorem AtRest.owner_nr (h : c.AtRest) (o : Seen) (lnk : PortIdx) (owner : c.role = .owner) :
    c.post o lnk .rapsNr = c := by
  rw [h.calm.post_nr, react, h.state]
  change c.rapsNrIdle o.outranked = c
  rw [rapsNrIdle, owner]

/-- What a node that is asked for nothing goes through: waits end, if any run, and interfaces come
and go. -/
structure Unasked (c : Ctl) (e : Event) : Prop where
  due : ∀ t, e.timer? = some t → (c.timer t).busy = true
  silent : e.timer? = none → e.posts = none

theorem Untimed.step {e : Event} (h : c.Untimed) (unasked : c.Unasked e) :
    e.posts = none ∧ c.step o e = c := by
  have untimed := h.none_due unasked.due
  have silent := unasked.silent untimed
  rcases step_untimed (c := c) (o := o) untimed with ⟨lnk, req, posts, -⟩ | quiet
  · exact nomatch silent.symm.trans posts
  · exact quiet

end Ctl

/-! ## Rings -/

namespace Station

variable {a : Station} {up : Ports Bool} {lnk : PortIdx} {m : Message}

theorem act_unasked {e : Event} (untimed : a.ctl.Untimed) (unasked : a.ctl.Unasked e) : a.act up e = a := by
  obtain ⟨silent, step⟩ := untimed.step (o := ⟨false, up⟩) unasked
  unfold act
  rw [step, silent]

end Station

namespace Protocol

variable {n : Nat} {p : Protocol n} {k : Nat}

/-- What a node of a ring that was `p` keeps on the way to rest: the RPL owner is there, and any
other node is as near as the R-APS(NR,RB) it has listened to have brought it. -/
structure Homeward (p : Protocol n) (i : Fin n) (k : Nat) (a : Station) : Prop extends
    (p.stations i).Alike a where
  owner : a.ctl.role = .owner → a.ctl.AtRest
  other : a.ctl.role ≠ .owner → a.ctl.Returning ∧ a.ctl.Near k

/-- Messages are R-APS(NR), or R-APS(NR,RB) of the RPL owner. -/
def NoRequest (p : Protocol n) (m : Message) : Prop :=
  m.req = .nr ∨ (m.req = .nrRb ∧ ∃ i, (p.stations i).nodeId = m.nodeId ∧ (p.stations i).ctl.role = .owner)

theorem Homeward.untimed {i : Fin n} {a : Station} (h : Homeward p i k a) : a.ctl.Untimed := by
  by_cases owner : a.ctl.role = .owner
  · exact (h.owner owner).toUntimed
  · exact (h.other owner).1.toUntimed

theorem homeward_hear {i : Fin n} {a : Station} {m : Message} (oneOwner : ∀ i j,
    (p.stations i).ctl.role = .owner → (p.stations j).ctl.role = .owner → i = j) (up : Ports Bool)
    (lnk : PortIdx) (h : Homeward p i k a) (calm : NoRequest p m) : Homeward p i k (a.hear up lnk m) := by
  have alike := h.toAlike.trans (Station.hear_alike a up lnk m)
  refine ⟨alike, fun owner => ?_, fun notOwner => ?_⟩
  · have owner' : a.ctl.role = .owner := h.role.trans (alike.role.symm.trans owner)
    have rest := h.owner owner'
    unfold Station.hear
    split
    · exact rest
    · next listens =>
      rcases calm with nr | ⟨-, j, nodeId, there⟩
      · rw [nr]
        have same : (a.post ⟨a.nodeId.toList < m.nodeId.toList, up⟩ lnk RapsRequest.nr.request).ctl = a.ctl :=
          rest.owner_nr _ lnk owner'
        rw [same]
        exact rest
      · obtain rfl := oneOwner i j (alike.role.symm.trans owner) there
        exact absurd (.inl (nodeId.symm.trans h.nodeId.symm)) listens
  · have notOwner' : a.ctl.role ≠ .owner := fun owner => notOwner (alike.role.trans (h.role.symm.trans owner))
    obtain ⟨returning, near⟩ := h.other notOwner'
    unfold Station.hear
    split
    · exact ⟨returning, near⟩
    · rcases calm with nr | ⟨nrRb, -⟩
      · rw [nr]
        exact ⟨returning.nr notOwner', near.nr returning notOwner'⟩
      · rw [nrRb]
        exact ⟨returning.nrRb notOwner', (near.nrRb returning notOwner').less (Nat.le_succ _)⟩

/-- Nothing takes a node back on its way. -/
theorem homeward_kept (k : Fin n → Nat) (oneOwner : ∀ i j, (p.stations i).ctl.role = .owner →
    (p.stations j).ctl.role = .owner → i = j) :
    Kept (fun i => Homeward p i (k i)) (NoRequest p) fun _ => Ctl.Unasked where
  act up h own unasked := by
    rw [Station.act_unasked h.untimed unasked]
    exact h
  send {i a req} h active announced := by
    by_cases owner : a.ctl.role = .owner
    · have nrRb := ((h.owner owner).sends active).2
      exact .inr ⟨Option.some.inj (announced.symm.trans nrRb), i, h.nodeId.symm, h.role.symm.trans owner⟩
    · have nr := (h.other owner).1.sends active
      exact .inl (Option.some.inj (announced.symm.trans nr))
  hear up lnk h calm := homeward_hear oneOwner up lnk h calm
  wait ms h := ⟨h.toAlike.trans ⟨rfl, rfl, rfl⟩, h.owner, h.other⟩
  late ms calm := calm

theorem homeward_further {i : Fin n} {a b : Station} {o : Ctl.Seen} {lnk : PortIdx}
    (h : Homeward p i k a) (now : Homeward p i k b)
    (post : b.ctl = a.ctl.post o lnk RapsRequest.nrRb.request) : Homeward p i (k + 1) b := by
  refine ⟨now.toAlike, now.owner, fun notOwner => ⟨(now.other notOwner).1, ?_⟩⟩
  have notOwner' : a.ctl.role ≠ .owner := fun owner => notOwner (now.role.trans (h.role.symm.trans owner))
  obtain ⟨returning, near⟩ := h.other notOwner'
  rw [post]
  exact near.nrRb returning notOwner'

end Protocol

namespace Wire

variable {n : Nat} {w v : Wire n} {p q : Protocol n} {ahead : Fin n → PortIdx} {e : Fin n}

/-- The RPL owner is at rest and announces it, and no node has a request of its own. -/
structure Returns (w : Wire n) : Prop extends w.Sound where
  owner : ∀ i, (w.nodes i).ctl.role = .owner → (w.nodes i).ctl.AtRest
  other : ∀ i, (w.nodes i).ctl.role ≠ .owner → (w.nodes i).ctl.Returning
  frames : ∀ f ∈ w.inFlight, ∃ m, f.Carries m ∧ (m.req = .nr ∨
    (m.req = .nrRb ∧ ∃ i, (w.nodes i).nodeId = m.nodeId ∧ (w.nodes i).ctl.role = .owner))
  oneOwner : ∀ i j, (w.nodes i).ctl.role = .owner → (w.nodes j).ctl.role = .owner → i = j
  hasOwner : ∃ i, (w.nodes i).ctl.role = .owner

/-- A ring that was `w` on its way to rest, with how many R-APS(NR,RB) each node has listened
to. -/
structure Homeward (w : Wire n) (k : Fin n → Nat) (v : Wire n) : Prop extends v.Sound where
  role : ∀ i, (v.nodes i).ctl.role = (w.nodes i).ctl.role
  owner : ∀ i, (w.nodes i).ctl.role = .owner → (v.nodes i).ctl.AtRest
  other : ∀ i, (w.nodes i).ctl.role ≠ .owner → (v.nodes i).ctl.Returning ∧ (v.nodes i).ctl.Near (k i)
  frames : ∀ f ∈ v.inFlight, ∃ m, f.Carries m ∧ (m.req = .nr ∨
    (m.req = .nrRb ∧ ∃ i, (v.nodes i).nodeId = m.nodeId ∧ (w.nodes i).ctl.role = .owner))

/-- The protocol says so. -/
theorem homeward_of_holds {k : Fin n → Nat} (agrees : ∀ i, (v.nodes i).Agrees)
    (same : ∀ i, p.stations i = (w.nodes i).station) (shown : v.Shows q)
    (holds : q.Holds (fun i => Protocol.Homeward p i (k i)) (Protocol.NoRequest p)) : Homeward w k v := by
  have node (i : Fin n) : Protocol.Homeward p i (k i) (v.nodes i).station :=
    shown.stations i ▸ holds.stations i
  have before (i : Fin n) : (p.stations i).ctl.role = (w.nodes i).ctl.role :=
    congrArg (fun a => a.ctl.role) (same i)
  have role (i : Fin n) : (v.nodes i).ctl.role = (w.nodes i).ctl.role := (node i).role.trans (before i)
  refine ⟨⟨shown.formed, shown.names, agrees⟩, role, fun i owner => (node i).owner ((role i).trans owner),
    fun i notOwner => (node i).other fun owner => notOwner ((role i).symm.trans owner), fun f member => ?_⟩
  obtain ⟨l, found⟩ := List.mem_iff_getElem?.mp member
  obtain ⟨m, found', carries⟩ := carried shown.inFlight found
  refine ⟨m, carries, (holds.inFlight m (List.mem_of_getElem? found')).imp_right ?_⟩
  rintro ⟨nrRb, i, nodeId, owner⟩
  exact ⟨nrRb, i, (node i).nodeId.trans nodeId, (before i).symm.trans owner⟩

/-- The protocol of a ring that returns. -/
theorem Returns.homeward (h : w.Returns) :
    ∃ p : Protocol n, (∀ i, p.stations i = (w.nodes i).station) ∧ w.Shows p ∧
      p.Holds (fun i => Protocol.Homeward p i 0) (Protocol.NoRequest p) := by
  obtain ⟨ms, matched, calm⟩ := exists_carried h.frames
  let p : Protocol n := ⟨fun i => (w.nodes i).station, ms⟩
  refine ⟨p, fun _ => rfl, ⟨h.formed, h.names, fun _ => rfl, matched⟩, fun i => ?_, calm⟩
  refine ⟨⟨rfl, rfl, rfl⟩, h.owner i, fun notOwner => ⟨h.other i notOwner, ?_, ?_⟩⟩
  · exact fun one => absurd one (by decide)
  · exact fun two => absurd two (by decide)

/-- It stays on its way. -/
theorem Returns.run {xs : List (WireStep n)} (h : w.Returns) (permits : ∀ x ∈ xs, Permits x)
    (unasked : EachStep Wire.step w xs fun _ v x => v.Meets (fun _ => Ctl.Unasked) x) :
    EachState Wire.step w xs fun pre v => Homeward w (w.hearings .nrRb pre) v := by
  obtain ⟨p, same, shown, start⟩ := h.homeward
  have role (i : Fin n) : (p.stations i).ctl.role = (w.nodes i).ctl.role :=
    congrArg (fun a => a.ctl.role) (same i)
  have oneOwner (i j : Fin n) (here : (p.stations i).ctl.role = .owner)
      (there : (p.stations j).ctl.role = .owner) : i = j :=
    h.oneOwner i j ((role i).symm.trans here) ((role j).symm.trans there)
  have steps : EachStep Wire.step w xs fun _ v x => Permits x ∧ v.Meets (fun _ => Ctl.Unasked) x :=
    (eachStep_of_forall permits).and unasked
  have homeward := holds_hearings ⟨p, shown, start⟩ (fun k => Protocol.homeward_kept k oneOwner)
    (fun h now post => Protocol.homeward_further h now post) steps
  have agree : EachState Wire.step w xs fun _ v => ∀ i, (v.nodes i).Agrees :=
    eachState_of_eachStep h.agrees (eachStep_of_forall permits)
      fun _ _ _ _ taken before => step_agrees before taken
  intro pre member
  obtain ⟨q, shows, holds⟩ := homeward pre member
  exact homeward_of_holds (agree pre member) same shows holds

section
variable {k : Fin n → Nat}

theorem Homeward.rests {i : Fin n} (h : Homeward w k v) (twice : (w.nodes i).ctl.role ≠ .owner → 2 ≤ k i) :
    (v.nodes i).ctl.AtRest := by
  by_cases owner : (w.nodes i).ctl.role = .owner
  · exact h.owner i owner
  · exact (h.other i owner).2.twice (twice owner)

/-- The RPL has been blocked from the start. -/
theorem Homeward.loopFree (h : Homeward w k v) (hasOwner : ∃ i, (w.nodes i).ctl.role = .owner) :
    v.LoopFree := by
  obtain ⟨i, owner⟩ := hasOwner
  have blocked : (v.nodes i).ctl.blocked.get .port1 = true := by
    rw [(h.owner i owner).blocked, h.role i, owner]
    rfl
  exact loopFree_of_disabled ((h.toSound.disabled_iff i .port1).mpr blocked)

theorem Homeward.tree (h : Homeward w k v) (hasOwner : ∃ i, (w.nodes i).ctl.role = .owner)
    (rpl : ∀ i, (w.nodes i).ctl.role ≠ .plain → OnLink ahead e i .port1)
    (twice : ∀ i, (w.nodes i).ctl.role ≠ .owner → 2 ≤ k i) :
    v.Tree ahead ∧ ∀ l, v.Cut ahead l ↔ l = e := by
  have hasRpl : ∃ i, (w.nodes i).ctl.role ≠ .plain := by
    obtain ⟨j, owner⟩ := hasOwner
    refine ⟨j, ?_⟩
    rw [owner]
    decide
  refine tree_of_rpl rpl hasRpl fun j lnk => ?_
  rw [h.toSound.disabled_iff, (h.rests (twice j)).blocked, h.role j]
  cases lnk with
  | port0 => exact iff_of_false Bool.noConfusion fun both => by cases both.1
  | port1 => exact decide_eq_true_iff.trans (and_iff_right rfl).symm

end

/-- On its way the ring never has a loop. A node is at rest once it has listened to R-APS(NR,RB)
twice, and when all are the RPL is cut and nothing else: the ring is a tree. -/
theorem ring_returns {xs : List (WireStep n)} (returns : w.Returns)
    (rpl : ∀ i, (w.nodes i).ctl.role ≠ .plain → OnLink ahead e i .port1)
    (permits : ∀ x ∈ xs, Permits x)
    (unasked : EachStep Wire.step w xs fun _ v x => v.Meets (fun _ => Ctl.Unasked) x) :
    EachState Wire.step w xs fun pre v => v.LoopFree ∧
      (∀ i, (w.nodes i).ctl.role ≠ .owner → 2 ≤ w.hearings .nrRb pre i → (v.nodes i).ctl.AtRest) ∧
        ((∀ i, (w.nodes i).ctl.role ≠ .owner → 2 ≤ w.hearings .nrRb pre i) →
          v.Tree ahead ∧ ∀ k, v.Cut ahead k ↔ k = e) := by
  refine (returns.run permits unasked).mono fun pre v homeward => ?_
  refine ⟨homeward.loopFree returns.hasOwner, fun i _ twice => homeward.rests fun _ => twice, fun twice => ?_⟩
  exact homeward.tree returns.hasOwner rpl twice

/-- The ring of two when the RPL owner has just blocked the RPL. -/
def blockedRpl : Wire 2 := run Wire.step (sample false) (restSteps.take 1)

theorem blockedRpl_returns : blockedRpl.Returns := by
  have permits : ∀ x ∈ restSteps.take 1, Permits x := fun x member =>
    restSteps_permits x (List.mem_of_mem_take member)
  have sound : EachState Wire.step (sample false) (restSteps.take 1) fun _ v => v.Sound :=
    sound_of_initialised (Ring.sample_started false).initialised (by decide) rfl permits
  have nrRb : (blockedRpl.nodes ⟨0, Nat.two_pos⟩).ctl.announced = some .nrRb := by decide +kernel
  have nr : (blockedRpl.nodes ⟨1, Nat.one_lt_two⟩).ctl.announced = some .nr := by decide +kernel
  refine ⟨sound.last, fun i owner => ?_, fun i notOwner => ?_, fun f member => (by cases member),
    by decide +kernel, by decide +kernel⟩
  · match i with
    | ⟨0, _⟩ => exact ⟨⟨⟨rfl, rfl⟩, rfl, rfl⟩, rfl, rfl, fun _ => ⟨rfl, nrRb⟩⟩
    | ⟨1, _⟩ => cases owner
  · match i with
    | ⟨0, _⟩ => exact absurd rfl notOwner
    | ⟨1, _⟩ =>
      exact ⟨⟨⟨rfl, rfl⟩, rfl, .of_failed rfl⟩, NodeState.noConfusion, fun idle => NodeState.noConfusion idle,
        fun _ => nr⟩

/-- The RPL owner announces it, and the other node listens. -/
def returnSteps : List (WireStep 2) := [
  .transmit ⟨0, Nat.two_pos⟩ .port1 false zeroPdu (sampleHdr netEthPtypeOam) allSucceed,
  .receive ⟨1, Nat.one_lt_two⟩ (sampleDevice 2 3) 0 allSucceed,
  .receive ⟨1, Nat.one_lt_two⟩ (sampleDevice 2 3) 0 allSucceed]

theorem returnSteps_permits : ∀ x ∈ returnSteps, Permits x := by
  intro x member
  simp only [returnSteps, List.mem_cons, List.not_mem_nil, or_false] at member
  rcases member with rfl | rfl | rfl <;> exact allSucceed_respects

theorem returnSteps_meets : ∀ x ∈ returnSteps, ∀ v : Wire 2, v.Meets (fun _ => Ctl.Unasked) x := by
  intro x member v
  simp only [returnSteps, List.mem_cons, List.not_mem_nil, or_false] at member
  rcases member with rfl | rfl | rfl <;> trivial

/-- The frame that the RPL owner sends. -/
def sampleNrRbFrame : Flight := ((run Wire.step blockedRpl (returnSteps.take 1)).inFlight.head?).getD ⟨[], 0⟩

/-- The other node listens both times. -/
theorem returnSteps_takes {k : Nat} (sent : k = 1 ∨ k = 2) :
    (run Wire.step blockedRpl (returnSteps.take k)).Takes .nrRb ⟨1, Nat.one_lt_two⟩
      (.receive ⟨1, Nat.one_lt_two⟩ (sampleDevice 2 3) 0 allSucceed) := by
  have whole : sampleNrRbFrame.pkt.frame = some (sampleHdr netEthPtypeOam,
      (blockedRpl.nodes ⟨0, Nat.two_pos⟩).filled zeroPdu) := by
    decide +kernel
  rcases sent with rfl | rfl <;>
    refine ⟨rfl, sampleNrRbFrame, .port0, _, rfl, by decide +kernel, ⟨_, whole, ?_, ?_, rfl⟩, ?_, ?_⟩
  · exact ⟨by decide +kernel, by decide +kernel, by decide +kernel⟩
  · decide +kernel
  · exact .nrRb (by decide +kernel) (by decide +kernel)
  · decide +kernel
  · exact ⟨by decide +kernel, by decide +kernel, by decide +kernel⟩
  · decide +kernel
  · exact .nrRb (by decide +kernel) (by decide +kernel)
  · decide +kernel

theorem returnSteps_hearings : blockedRpl.hearings .nrRb returnSteps ⟨1, Nat.one_lt_two⟩ = 2 := by
  let listen : WireStep 2 := .receive ⟨1, Nat.one_lt_two⟩ (sampleDevice 2 3) 0 allSucceed
  have sends : blockedRpl.hearings .nrRb ([] ++ returnSteps.take 1) ⟨1, Nat.one_lt_two⟩ = 0 :=
    stepCount_concat_of_not fun takes => takes.elim
  have once : blockedRpl.hearings .nrRb (returnSteps.take 1 ++ [listen]) ⟨1, Nat.one_lt_two⟩ = _ + 1 :=
    stepCount_concat_of (returnSteps_takes (.inl rfl))
  have twice : blockedRpl.hearings .nrRb (returnSteps.take 2 ++ [listen]) ⟨1, Nat.one_lt_two⟩ = _ + 1 :=
    stepCount_concat_of (returnSteps_takes (.inr rfl))
  exact twice.trans (congrArg (· + 1) (once.trans (congrArg (· + 1) sends)))

theorem returnSteps_twice (i : Fin 2) (other : i ≠ ⟨0, Nat.two_pos⟩) :
    2 ≤ blockedRpl.hearings .nrRb returnSteps i := by
  match i with
  | ⟨0, _⟩ => exact absurd rfl other
  | ⟨1, _⟩ => exact returnSteps_hearings.ge

/-- In the end the ring of two is a tree. -/
theorem ring_returns_sample :
    (run Wire.step blockedRpl returnSteps).Tree (fun _ => .port1) ∧
      ∀ k, (run Wire.step blockedRpl returnSteps).Cut (fun _ => .port1) k ↔ k = ⟨0, Nat.two_pos⟩ := by
  have rpl : ∀ i, (blockedRpl.nodes i).ctl.role ≠ .plain →
      OnLink (fun _ => .port1) ⟨0, Nat.two_pos⟩ i .port1 := by
    decide +kernel
  have along := ring_returns blockedRpl_returns rpl returnSteps_permits
    ((eachStep_of_forall returnSteps_meets).mono fun _ v _ meets => meets v)
  refine along.last.2.2 fun i notOwner => returnSteps_twice i fun first => notOwner ?_
  rw [first]
  rfl

end Wire

end Erps
