import Erps.Ctl.Hears
import Erps.Properties.Announcing
import Erps.Properties.RplBlocked
import Erps.Ring

/-!
# Ring loop freedom

A node is told to open its ports by the PDU of another node, so the ring stays free of
loops as long as every node that sends holds a block of its own: the sender still has
it when the others have opened theirs. A clear SF on a node in protection that holds no
block breaks this, and is the only thing that does.
-/
namespace Erps

open Calls

/-! ## Nodes -/

theorem Ctl.not_abandons {c : Ctl} {req : Request} (single : req = .rapsNrRb → c.role ≠ .owner)
    (held : req = .clearSf → ¬c.Exposed) (up : Ports Bool) : ¬c.Abandons up req := by
  rintro (⟨clearSf, exposed, -⟩ | ⟨nrRb, owner, -⟩)
  · exact held clearSf exposed
  · exact single nrRb owner

/-- What every node of a ring keeps: it announces only what it may. -/
structure Sys.Truthful (s : Sys) : Prop where
  formed : s.setup.WellFormed
  announces : s.ctl.Announces
  honest : s.ctl.RbHonest

namespace Sys.Truthful

variable {s t : Sys} {x : Step} {lnk : PortIdx} {pdu : RapsPdu}

theorem of_initialised (init : Initialised s) : s.Truthful ∧ s.node.anyLinkBlocked = true := by
  obtain ⟨formed, same⟩ := init.booted
  have blocks : s.ctl.anyBlocked = true := by
    rw [same]
    exact Ctl.booted_anyBlocked _ _ _
  refine ⟨⟨formed, fun _ => blocks, ?_⟩, blocks⟩
  rw [same]
  exact Ctl.RbHonest.booted _ _ _

theorem step (h : s.Truthful) (succeeds : x.Succeeds)
    (single : ∀ lnk pdu, x.1 = .raps lnk .nrRb pdu → s.ctl.role ≠ .owner)
    (held : ∀ lnk, x.1 = .ctl lnk .clearSignalFail → ¬s.ctl.Exposed) : (s.step x).Truthful := by
  refine ⟨Sys.step_formed h.formed succeeds, ?_, ?_⟩ <;> rw [Sys.step_ctl h.formed succeeds]
  · refine (Ctl.step_announces h.announces).mpr fun lnk req posts _ => ?_
    refine Ctl.not_abandons (fun nrRb => ?_) (fun clearSf => ?_) _
    · obtain ⟨pdu, event⟩ := Ctl.posts_nrRb (nrRb ▸ posts)
      exact single lnk pdu event
    · exact held lnk (Ctl.posts_clearSf (clearSf ▸ posts))
  · exact h.honest.step

theorem hears (h : s.Truthful) (heard : Heard lnk pdu s t)
    (single : pdu.rapsInfo.status &&& rapsRb ≠ 0 → s.ctl.role ≠ .owner) : t.Truthful := by
  obtain ⟨setup, same | ⟨req, named, same⟩⟩ := heard
  · refine ⟨setup ▸ h.formed, ?_, ?_⟩ <;> rw [same]
    · exact h.announces
    · exact h.honest
  · refine ⟨setup ▸ h.formed, ?_, ?_⟩ <;> rw [same]
    · by_cases passes : s.ctl.Passes req.request
      · refine h.announces.post passes (Ctl.not_abandons (fun nrRb => ?_) (fun clearSf => ?_) _)
        · cases req <;> cases nrRb
          exact single (rapsRequest_nrRb named)
        · cases req <;> cases clearSf
      · rw [Ctl.post_of_not_passes passes]
        exact h.announces
    · exact h.honest.post

end Sys.Truthful

/-! ## Rings -/

namespace Ring

variable {n : Nat} {r : Ring n} {x : RingStep n}

/-- Nodes announce truthfully, there is one RPL owner and a port is blocked. -/
structure Guarded (r : Ring n) : Prop where
  truthful : ∀ i, (r i).Truthful
  oneOwner : ∀ i j, (r i).setup.rplOwner = true → (r j).setup.rplOwner = true → i = j
  loopFree : r.LoopFree

theorem Started.guarded (h : r.Started) : r.Guarded := by
  obtain ⟨i, _⟩ := h.owner
  exact ⟨fun j => (Sys.Truthful.of_initialised (h.initialised j)).1, h.oneOwner,
    i, (Sys.Truthful.of_initialised (h.initialised i)).2⟩

/-- The step is a clear SF on a node in protection that holds no block. -/
def Exposes (r : Ring n) (x : RingStep n) : Prop :=
  ∃ i lnk ans, x = .event i (.ctl lnk .clearSignalFail, ans) ∧
    (r i).node.state = .protection ∧ (r i).node.anyLinkBlocked = false

theorem step_event_self (i : Fin n) (x : Step) : r.step (.event i x) i = (r i).step x := if_pos rfl

theorem step_event_other {i j : Fin n} (x : Step) (other : j ≠ i) :
    r.step (.event i x) j = r j := if_neg other

/-- An event that is neither a PDU nor an interface going up or down. -/
theorem notRaps_notIface {e : Event} (here : e.isLocal = true ∨ ∃ ms, e = .elapse ms) :
    (∀ lnk req pdu, e ≠ .raps lnk req pdu) ∧ ∀ lnk up, e ≠ .iface lnk up := by
  constructor
  · rintro lnk req pdu rfl
    rcases here with bad | ⟨_, bad⟩ <;> cases bad
  · rintro lnk up rfl
    rcases here with bad | ⟨_, bad⟩ <;> cases bad

/-- A node keeps its block through an event of its own. -/
theorem event_keeps_block {s : Sys} {x : Step}
    (here : x.1.isLocal = true ∨ ∃ ms, x.1 = .elapse ms) (blocked : s.node.anyLinkBlocked = true) :
    (s.step x).node.anyLinkBlocked = true := by
  obtain ⟨e, ans⟩ := x
  rcases here with here | ⟨ms, rfl⟩
  · have keeps : KeepsBlock anyAnswer e.prog := event_keeps here
    have runs := keeps s (Ports.any_iff.mpr blocked)
    exact Ports.any_iff.mp (runs.post ans (respects_any ans))
  · exact blocked

theorem Guarded.event {i : Fin n} {x : Step} (h : r.Guarded) (permits : r.Permits (.event i x))
    (held : ¬r.Exposes (.event i x)) : (r.step (.event i x)).Guarded := by
  obtain ⟨succeeds, here⟩ := permits
  obtain ⟨notRaps, notIface⟩ := notRaps_notIface here
  have setup (j : Fin n) : (r.step (.event i x) j).setup = (r j).setup := by
    by_cases self : j = i
    · rw [self, step_event_self]
      exact Sys.step_setup (h.truthful i).formed succeeds notIface
    · rw [step_event_other x self]
  refine ⟨fun j => ?_, fun j k => ?_, ?_⟩
  · by_cases self : j = i
    · rw [self, step_event_self]
      refine (h.truthful i).step succeeds (fun lnk pdu => ?_) fun lnk clears => ?_
      · exact fun bad => absurd bad (notRaps lnk .nrRb pdu)
      · rintro ⟨state, opened⟩
        exact held ⟨i, lnk, x.2, by rw [← clears], state, opened⟩
    · rw [step_event_other x self]
      exact h.truthful j
  · rw [setup, setup]
    exact h.oneOwner j k
  · obtain ⟨j, blocked⟩ := h.loopFree
    refine ⟨j, ?_⟩
    by_cases self : j = i
    · rw [self, step_event_self]
      exact event_keeps_block here (self ▸ blocked)
    · rwa [step_event_other x self]

/-- Who hears a PDU is not who sent it, so the sender's block stays. -/
theorem Guarded.deliver {i : Fin n} {buf : RapsPdu} {ans : Answers KernelCall}
    {heard : Fin n → Option (PortIdx × Answers KernelCall)} (h : r.Guarded)
    (permits : r.Permits (.deliver i buf ans heard)) :
    (r.step (.deliver i buf ans heard)).Guarded := by
  obtain ⟨active, notSelf, succeeds, hears⟩ := permits
  -- only an RPL owner announces R-APS(NR,RB), so no other hears it
  have single (j : Fin n) (other : j ≠ i)
      (announced : (r.sent i buf ans).rapsInfo.status &&& rapsRb ≠ 0) :
      (r j).ctl.role ≠ .owner := by
    have carries := (rapsCreate_carries (r i) buf).post ans succeeds
    have sender := ((h.truthful i).honest.rb active (carries.2 ▸ announced)).1
    intro owner
    refine other (h.oneOwner j i ?_ ?_)
    · exact (Sys.owner_eq _).trans (by simp [owner])
    · exact (Sys.owner_eq _).trans (by simp [sender])
  have each (j : Fin n) : (r.step (.deliver i buf ans heard) j).Truthful ∧
      (r.step (.deliver i buf ans heard) j).setup = (r j).setup := by
    cases hearing : heard j with
    | none => simpa [step, hearing] using h.truthful j
    | some hears' =>
      obtain ⟨lnk, ans'⟩ := hears'
      have other : j ≠ i := by
        rintro rfl
        simp [notSelf] at hearing
      have receives := (pduRecv_heard lnk (r.sent i buf ans)
        (h.truthful j).formed).post ans' (hears j lnk ans' hearing)
      have same : r.step (.deliver i buf ans heard) j =
          (pduRecv lnk (r.sent i buf ans)).final ans' (r j) := by
        simp [step, hearing]
      rw [same]
      exact ⟨(h.truthful j).hears receives (single j other), receives.1⟩
  refine ⟨fun j => (each j).1, fun j k => ?_, i, ?_⟩
  · rw [(each j).2, (each k).2]
    exact h.oneOwner j k
  · have same : r.step (.deliver i buf ans heard) i = r i := by simp [step, notSelf]
    rw [same]
    exact (h.truthful i).announces active

theorem Guarded.step (h : r.Guarded) (permits : r.Permits x) (held : ¬r.Exposes x) :
    (r.step x).Guarded := by
  cases x with
  | event i x => exact h.event permits held
  | deliver i buf ans heard => exact h.deliver permits

/-- In a ring that has just been initialised some port stays blocked, as long as no SF is
cleared on a node in protection that holds no block. -/
theorem loop_free_run {n : Nat} {r : Ring n} {xs : List (RingStep n)} (started : r.Started)
    (steps : Runs.EachStep step r xs fun _ t x => t.Permits x ∧ ¬t.Exposes x) :
    Runs.EachState step r xs fun _ t => t.LoopFree := by
  have guarded : Runs.EachState step r xs fun _ t => t.Guarded := by
    refine Runs.eachState_of_eachStep started.guarded steps ?_
    rintro pre t x - ⟨permits, held⟩ before
    exact before.step permits held
  exact guarded.mono fun _ _ h => h.loopFree

/-! ### Two nodes -/

/-- The RPL owner of the sample and the other node of a ring of two, with a greater ID. -/
def sample (nonRevertive : Bool) : Ring 2 := fun i =>
  if i = 0 then (sampleNode true nonRevertive (sampleDevice 0 1) (sampleDevice 1 2)).started
  else (sampleNode false nonRevertive (sampleDevice 2 3) (sampleDevice 3 4)).started

theorem sample_started (nonRevertive : Bool) : (sample nonRevertive).Started where
  two := le_rfl
  initialised i := by
    unfold sample
    split <;> exact DtNode.started_initialised _
  distinct := by cases nonRevertive <;> decide
  owner := ⟨0, by cases nonRevertive <;> decide⟩
  oneOwner := by cases nonRevertive <;> decide
  oneNbr := by cases nonRevertive <;> decide

/-- A request from the ring control or the passage of time. -/
def posting (i : Fin 2) (e : Event) : RingStep 2 := .event i (e, allSucceed)

/-- One node sends its PDU, in a packet of zeros, and the other hears it on link 0. -/
def sending (i : Fin 2) : RingStep 2 :=
  .deliver i ⟨⟨0, 0, 0, 0⟩, ⟨0, 0, zeroAddr, Vector.replicate 24 0⟩, 0⟩ allSucceed fun j =>
    if j = i then none else some (.port0, allSucceed)

theorem permits_posting {r : Ring 2} (i : Fin 2) {e : Event}
    (here : e.isLocal = true ∨ ∃ ms, e = .elapse ms) : r.Permits (posting i e) :=
  ⟨allSucceed_respects, here⟩

theorem permits_sending {r : Ring 2} {i : Fin 2} (active : (r i).node.txActive = true) :
    r.Permits (sending i) := by
  refine ⟨active, if_pos rfl, allSucceed_respects, ?_⟩
  intro j lnk ans hears
  by_cases self : j = i
  · simp [self] at hears
  · obtain ⟨-, rfl⟩ : PortIdx.port0 = lnk ∧ allSucceed = ans := by simpa [self] using hears
    exact allSucceed_respects

/-- A signal fail on the RPL owner that the other node hears of, and its clearing. -/
theorem loop_free_run_pair :
    Runs.EachState step (sample false) [posting 0 (.ctl .port0 .signalFail), sending 0,
      posting 0 (.ctl .port0 .clearSignalFail)] fun _ t => t.LoopFree := by
  refine loop_free_run (sample_started false) ?_
  refine Runs.eachStep_cons ⟨permits_posting 0 (.inl rfl), ?_⟩ ?_
  · rintro ⟨i, lnk, ans, same, -⟩
    cases same
  refine Runs.eachStep_cons ⟨permits_sending (by decide), ?_⟩ ?_
  · rintro ⟨i, lnk, ans, same, -⟩
    cases same
  refine Runs.eachStep_cons ⟨permits_posting 0 (.inl rfl), ?_⟩ Runs.eachStep_nil
  rintro ⟨i, lnk, ans, same, -, opened⟩
  cases same
  exact absurd opened (by decide)

/-- A clear SF makes a node that has opened its ports for another announce R-APS(NR), and
the other node, whose ID is smaller, gives up its block in turn. -/
theorem loop_closed : ¬∀ (n : Nat) (r : Ring n) (xs : List (RingStep n)), r.Started →
    (Runs.EachStep step r xs fun _ t x => t.Permits x) →
      Runs.EachState step r xs fun _ t => t.LoopFree := by
  intro loopFree
  have here := loopFree 2 (sample true) [posting 0 (.ctl .port0 .signalFail), sending 0,
    posting 1 (.ctl .port0 .clearSignalFail), posting 0 (.ctl .port1 .admForcedSwitch),
    posting 0 (.ctl .port1 .admClear), posting 0 (.elapse 500), sending 1] (sample_started true) ?_
  · exact absurd here.last (by decide)
  · refine Runs.eachStep_cons (permits_posting 0 (.inl rfl)) ?_
    refine Runs.eachStep_cons (permits_sending (by decide)) ?_
    refine Runs.eachStep_cons (permits_posting 1 (.inl rfl)) ?_
    refine Runs.eachStep_cons (permits_posting 0 (.inl rfl)) ?_
    refine Runs.eachStep_cons (permits_posting 0 (.inl rfl)) ?_
    refine Runs.eachStep_cons (permits_posting 0 (.inr ⟨500, rfl⟩)) ?_
    exact Runs.eachStep_cons (permits_sending (by decide)) Runs.eachStep_nil

end Ring

end Erps
