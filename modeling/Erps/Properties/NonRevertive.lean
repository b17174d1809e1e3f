import Erps.Ctl.Rest
import Erps.Properties.LateMessages
import Erps.Properties.WireRefines

/-!
# A ring that does not revert

In a ring whose RPL owner is not revertive nothing but a CLEAR at the RPL owner makes it block
the RPL again: no wait to restore or to block is ever started, no node becomes idle and no node
announces R-APS(NR,RB).
-/
namespace Erps

open Runs

/-! ## The state machine -/

namespace Ctl

/-- A node that does not revert of its own accord. -/
structure Inert (c : Ctl) : Prop extends c.Untimed where
  nonRevertive : c.role = .owner → c.revertive = false
  noRb : c.status &&& rapsRb = 0

/-- One that has not reverted. In pending no command is left that a CLEAR could take back. -/
structure Unreverted (c : Ctl) : Prop extends c.Inert where
  away : c.state ≠ .idle ∧ c.state ≠ .uninit
  pending : c.state = .pending → c.topreq ≠ .fs ∧ c.topreq ≠ .ms

/-- What would make a node revert. -/
def Reverting (c : Ctl) (req : Request) : Prop :=
  req = .rapsNrRb ∨ req = .wtrExpires ∨ req = .wtbExpires ∨ (req = .clear ∧ c.role = .owner)

variable {c d : Ctl} {o : Seen} {lnk : PortIdx} {req : Request}

theorem Inert.same (h : c.Inert)
    (same : d.role = c.role ∧ d.revertive = c.revertive ∧ d.wtr = c.wtr ∧ d.wtb = c.wtb)
    (noRb : d.status &&& rapsRb = 0) : d.Inert := by
  obtain ⟨role, revertive, wtr, wtb⟩ := same
  refine ⟨⟨?_, ?_⟩, fun owner => ?_, noRb⟩
  · rw [wtr]
    exact h.wtr
  · rw [wtb]
    exact h.wtb
  · rw [revertive]
    exact h.nonRevertive (role.symm.trans owner)

theorem Inert.take (h : c.Inert) (lnk : PortIdx) (req : Request) : (c.take lnk req).Inert :=
  h.same ⟨rfl, rfl, rfl, rfl⟩ h.noRb

theorem noRb_zero : (0 : UInt8) &&& rapsRb = 0 := by decide

theorem noRb_of_dnf (p : Prop) [Decidable p] : (if p then rapsDnf else 0) &&& rapsRb = 0 := by
  split <;> decide

theorem Inert.sendNr (h : c.Inert) (up : Ports Bool) : (c.send up rapsNr 0).Inert :=
  h.same ⟨rfl, rfl, rfl, rfl⟩ noRb_zero

theorem Inert.goto (h : c.Inert) (next : NodeState) : (c.goto next).Inert :=
  h.same ⟨rfl, rfl, rfl, rfl⟩ h.noRb

theorem Inert.silence (h : c.Inert) : c.silence.Inert :=
  h.same ⟨rfl, rfl, rfl, rfl⟩ h.noRb

theorem Inert.unblockNonFailed (h : c.Inert) : c.unblockNonFailed.Inert :=
  h.same ⟨rfl, rfl, rfl, rfl⟩ h.noRb

theorem Inert.unblockAll (h : c.Inert) : c.unblockAll.Inert :=
  h.same ⟨rfl, rfl, rfl, rfl⟩ h.noRb

theorem Inert.leaving (h : c.Inert) : c.leaving.Inert := by
  obtain ⟨w, b, leaves, wtr, wtb⟩ := h.leaving_eq
  rw [leaves]
  exact ⟨⟨wtr, wtb⟩, h.nonRevertive, h.noRb⟩

theorem Inert.not_reverts (h : c.Inert) : ¬(c.role = .owner ∧ c.revertive = true) := by
  rintro ⟨owner, revertive⟩
  exact absurd ((h.nonRevertive owner).symm.trans revertive) (by decide)

/-- Only the RPL owner of a revertive ring starts a wait. -/
theorem Inert.not_starts (h : c.Inert) (t : Timer) : c.startIfReverting t = c := if_neg h.not_reverts

theorem remembered_command (fs : req ≠ .fs) (ms : req ≠ .ms) :
    req.remembered ≠ .fs ∧ req.remembered ≠ .ms := by
  cases req <;> simp_all [Request.remembered]

/-- Into pending with a request that is no command. -/
theorem Inert.returns (h : c.Inert) (topreq : c.topreq = .invalid) : (c.goto .pending).Unreverted := by
  refine ⟨h.goto .pending, ⟨NodeState.noConfusion, NodeState.noConfusion⟩, fun _ => ?_⟩
  have kept : (c.goto .pending).topreq = .invalid := topreq
  rw [kept]
  decide

theorem Inert.switches (h : c.Inert) {next : NodeState}
    (nexts : next ≠ .idle ∧ next ≠ .uninit ∧ next ≠ .pending) : (c.goto next).Unreverted :=
  ⟨h.goto next, ⟨nexts.1, nexts.2.1⟩, fun state => absurd state nexts.2.2⟩

theorem Unreverted.post (h : c.Unreverted) (stays : ¬c.Reverting req) : (c.post o lnk req).Unreverted := by
  by_cases passes : c.Passes req
  case neg => rwa [post_of_not_passes passes]
  have reacts := post_reacts o lnk passes
  generalize c.post o lnk req = d at reacts
  have taken : (c.take lnk req).Inert := h.take lnk req
  have away : c.state ≠ .idle := h.away.1
  cases reacts with
  | idles quiet =>
    refine ⟨taken, h.away, fun pending => ?_⟩
    have pending' : c.state = .pending := pending
    -- in pending a command is never without an action
    rcases quiet with quiet | ⟨rfl, -⟩
    · have quiet' : c.state.noAction req = true := quiet
      rw [pending'] at quiet'
      refine remembered_command ?_ ?_ <;> rintro rfl <;> cases quiet'
    · have command : Request.clearSf.remembered ≠ .fs ∧ Request.clearSf.remembered ≠ .ms := by decide
      exact command
  | @switches _ reqState next row =>
    have nexts : next ≠ .idle ∧ next ≠ .uninit ∧ next ≠ .pending := by cases row <;> decide
    have sends : (((((c.take lnk req).leaving.block lnk).send o.up reqState
        (if (c.take lnk req).leaving.blocked.get lnk then rapsDnf else 0)).unblock lnk.other)).Inert :=
      taken.leaving.same ⟨rfl, rfl, rfl, rfl⟩ (noRb_of_dnf _)
    exact sends.switches nexts
  | forces state =>
    refine ⟨taken.same ⟨rfl, rfl, rfl, rfl⟩ noRb_zero, h.away, fun pending => ?_⟩
    exact absurd (state.symm.trans pending) (by decide)
  | @yields _ onlyNonFailed next row =>
    have nexts : next ≠ .idle ∧ next ≠ .uninit ∧ next ≠ .pending := by cases row <;> decide
    cases onlyNonFailed
    · exact taken.leaving.unblockAll.silence.switches nexts
    · exact taken.leaving.unblockNonFailed.silence.switches nexts
  | clears state =>
    unfold clearCommon
    split
    · rw [(taken.sendNr o.up).not_starts]
      exact (taken.sendNr o.up).returns rfl
    · exact taken.returns rfl
  | reverts state =>
    -- a CLEAR in pending is one at the RPL owner
    obtain ⟨fs, ms⟩ := h.pending state
    have valid := passes.1 rfl
    simp only [clearValid, Bool.or_eq_true, beq_iff_eq] at valid
    rcases valid with (valid | valid) | owner
    · exact absurd valid fs
    · exact absurd valid ms
    · exact absurd (.inr (.inr (.inr ⟨rfl, owner⟩))) stays
  | recovers state =>
    rw [clearSfProtection, (taken.sendNr o.up).not_starts]
    exact (taken.sendNr o.up).returns rfl
  | returns row =>
    rw [rapsNrRest, taken.not_starts, if_neg (by decide)]
    exact taken.returns rfl
  | conflicts state =>
    unfold rapsMsMs
    split
    · simp only [if_neg (taken.sendNr o.up).not_reverts]
      exact (taken.sendNr o.up).switches (by decide)
    · exact taken.switches (by decide)
  | electsPending state =>
    have pending : Request.rapsNr.remembered ≠ .fs ∧ Request.rapsNr.remembered ≠ .ms := by decide
    unfold maybeUnblockAndStop
    split
    · exact ⟨taken.unblockNonFailed.silence, h.away, fun _ => pending⟩
    · exact ⟨taken, h.away, fun _ => pending⟩
  | electsIdle state | settlesIdle state => exact absurd state away
  | returnsRb row | settlesPending state => exact absurd (.inl rfl) stays
  | wtrExpires state => exact absurd (.inr (.inl rfl)) stays
  | wtbExpires state => exact absurd (.inr (.inr (.inl rfl))) stays

/-- What happens to a node that nobody makes revert: a wait ends only if one runs, and no CLEAR
comes to the RPL owner. -/
structure Unprompted (c : Ctl) (e : Event) : Prop where
  due : ∀ t, e.timer? = some t → (c.timer t).busy = true
  noClear : ∀ lnk, e.posts = some (lnk, .clear) → c.role ≠ .owner

theorem Unreverted.step {e : Event} (h : c.Unreverted) (own : e.isOwn = true) (unprompted : c.Unprompted e) :
    (c.step o e).Unreverted := by
  have untimed := h.none_due unprompted.due
  rcases step_untimed (c := c) (o := o) untimed with ⟨lnk, req, posts, step⟩ | ⟨-, step⟩
  · rw [step]
    obtain ⟨wtr, wtb⟩ := posts_untimed untimed posts
    refine h.post ?_
    rintro (rfl | expires | expires | ⟨rfl, owner⟩)
    · exact posts_own own posts .nrRb rfl
    · exact wtr expires
    · exact wtb expires
    · exact unprompted.noClear lnk posts owner
  · rw [step]
    exact h

theorem Unreverted.booted (role : Role) (up : Ports Bool) {revertive : Bool}
    (nonRevertive : role = .owner → revertive = false) : (booted role revertive up).Unreverted := by
  have start : Inert ({
      role := role
      revertive := revertive
      state := .uninit
      topreq := .invalid
      blocked := ⟨role = .plain, role ≠ .plain⟩
      failed := ⟨false, false⟩
      tx := up
      rsSc := 0
      status := 0
      wtr := ⟨false, false⟩
      wtb := ⟨false, false⟩ } : Ctl) := ⟨⟨rfl, rfl⟩, nonRevertive, noRb_zero⟩
  simp only [Ctl.booted, start.not_starts]
  exact start.returns rfl

end Ctl

/-! ## Rings -/

namespace Station

variable {a : Station} {up : Ports Bool} {lnk : PortIdx} {m : Message}

theorem hear_unreverted (h : a.ctl.Unreverted) (other : m.req ≠ .nrRb) :
    (a.hear up lnk m).ctl.Unreverted := by
  unfold hear
  split
  · exact h
  · refine h.post ?_
    intro reverting
    cases req : m.req with
    | nrRb => exact other req
    | fs | sf | ms | nr => rw [req] at reverting; simp [Ctl.Reverting, RapsRequest.request] at reverting

end Station

/-- Every node keeps from reverting as long as no message makes it, and none is sent. -/
theorem Protocol.unreverted_kept {n : Nat} : Kept (fun (_ : Fin n) a => a.ctl.Unreverted)
    (fun m => m.req ≠ .nrRb) fun _ => Ctl.Unprompted where
  act up h own unprompted := h.step own unprompted
  send {i a req} h active announced := by
    rintro rfl
    exact announced_nrRb announced h.noRb
  hear up lnk h other := Station.hear_unreverted h other
  wait ms h := h
  late ms other := other

namespace Wire

variable {n : Nat} {w v : Wire n}

/-- Unless the RPL owner is cleared, a ring that is not revertive does not revert, whatever else
it is asked and whatever becomes of its frames: no node is ever idle, no wait ever runs, and no
frame says R-APS(NR,RB). -/
theorem non_revertive_ring {xs : List (WireStep n)} (init : ∀ i, Initialised (w.nodes i))
    (nonRevertive : ∀ i, (w.nodes i).setup.rplOwner = true → (w.nodes i).node.revertive = false)
    (quiet : w.inFlight = []) (permits : ∀ x ∈ xs, Permits x)
    (unprompted : EachStep Wire.step w xs fun _ v x => v.Meets (fun _ => Ctl.Unprompted) x) :
    EachState Wire.step w xs fun _ v =>
      (∀ i, (v.nodes i).node.state ≠ .idle ∧ ∀ t, ((v.nodes i).ctl.timer t).busy = false) ∧
        ∀ f ∈ v.inFlight, ∀ m, f.Carries m → m.req ≠ .nrRb := by
  have steps : EachStep Wire.step w xs fun _ v x => Permits x ∧ v.Meets (fun _ => Ctl.Unprompted) x :=
    (eachStep_of_forall permits).and unprompted
  have start : Protocol.Holds (fun _ a => a.ctl.Unreverted) (fun m => m.req ≠ .nrRb)
      ⟨fun i => (w.nodes i).station, []⟩ := by
    refine ⟨fun i => ?_, fun m member => by cases member⟩
    change (w.nodes i).ctl.Unreverted
    obtain ⟨-, booted⟩ := (init i).booted
    rw [booted]
    exact .booted _ _ fun owner => nonRevertive i ((w.nodes i).setup_owner owner)
  refine ((shown_of_initialised init quiet).holds start Protocol.unreverted_kept steps).mono ?_
  rintro pre v ⟨p, shown, holds⟩
  refine ⟨fun i => ?_, fun f member m carries => ?_⟩
  · have now := holds.stations i
    rw [shown.stations i] at now
    refine ⟨now.away.1, fun t => ?_⟩
    cases t
    · exact now.wtr
    · exact now.wtb
  · obtain ⟨k, found⟩ := List.mem_iff_getElem?.mp member
    obtain ⟨m', found', carries'⟩ := carried shown.inFlight found
    rw [carries.req_eq carries']
    exact holds.inFlight m' (List.mem_of_getElem? found')

/-- A signal fail on the RPL owner comes and goes, and the other node hears of both. -/
def restoredSteps : List (WireStep 2) := sampleSteps ++ [
  .event ⟨0, Nat.two_pos⟩ (.ctl .port0 .clearSignalFail, allSucceed),
  .transmit ⟨0, Nat.two_pos⟩ .port1 false zeroPdu (sampleHdr netEthPtypeOam) allSucceed,
  .receive ⟨1, Nat.one_lt_two⟩ (sampleDevice 2 3) 0 allSucceed]

theorem restoredSteps_permits : ∀ x ∈ restoredSteps, Permits x := by
  intro x member
  rcases List.mem_append.mp member with before | after
  · exact sampleSteps_permits x before
  · simp only [List.mem_cons, List.not_mem_nil, or_false] at after
    rcases after with rfl | rfl | rfl
    · exact ⟨allSucceed_respects, rfl⟩
    · exact allSucceed_respects
    · exact allSucceed_respects

theorem restoredSteps_meets :
    ∀ x ∈ restoredSteps, ∀ v : Wire 2, v.Meets (fun _ => Ctl.Unprompted) x := by
  intro x member v
  simp only [restoredSteps, sampleSteps, List.mem_cons, List.not_mem_nil, or_false, List.cons_append,
    List.nil_append] at member
  rcases member with rfl | rfl | rfl | rfl | rfl | rfl | rfl
  · exact ⟨fun t ends => (by cases ends), fun lnk posts => (by cases posts)⟩
  · trivial
  · trivial
  · trivial
  · exact ⟨fun t ends => (by cases ends), fun lnk posts => (by cases posts)⟩
  · trivial
  · trivial

theorem non_revertive_ring_sample :
    EachState Wire.step (sample true) restoredSteps fun _ v =>
      (∀ i, (v.nodes i).node.state ≠ .idle ∧ ∀ t, ((v.nodes i).ctl.timer t).busy = false) ∧
        ∀ f ∈ v.inFlight, ∀ m, f.Carries m → m.req ≠ .nrRb :=
  non_revertive_ring (Ring.sample_started true).initialised (by decide) rfl restoredSteps_permits
    ((eachStep_of_forall restoredSteps_meets).mono fun _ v _ meets => meets v)

end Wire

end Erps
