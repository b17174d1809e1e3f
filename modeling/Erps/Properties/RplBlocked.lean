import Erps.Ctl.Reacts

/-!
# R-APS(NR,RB) is announced truthfully

Every node that receives R-APS(NR,RB) opens its ports, so the RB bit may only be
sent by an RPL owner that keeps the RPL blocked. The one handler that sets the bit
is run by the RPL neighbour too, if a CLEAR reaches it in pending; that takes a
forced or manual switch as the remembered request, which pending never has.
-/
namespace Erps

namespace Ctl

/-- Pending remembers neither a forced nor a manual switch. -/
def Uncommanded (c : Ctl) : Prop := c.state = .pending → c.topreq ≠ .fs ∧ c.topreq ≠ .ms

variable {c : Ctl} {o : Seen} {lnk : PortIdx} {req : Request}

theorem uncommanded_take (quiet : c.state.noAction req = true ∨ c.ignores lnk req) :
    (c.take lnk req).Uncommanded :=
  (remembered_of_quiet quiet).2.2

theorem Uncommanded.post (h : c.Uncommanded) (o : Seen) (lnk : PortIdx) (req : Request) :
    (c.post o lnk req).Uncommanded := by
  by_cases passes : c.Passes req
  case neg => rwa [post_of_not_passes passes]
  have reacts := post_reacts o lnk passes
  generalize c.post o lnk req = d at reacts
  cases reacts with
  | idles quiet => exact uncommanded_take quiet
  | switches row | yields row =>
    intro state
    cases row <;> cases state
  | forces state =>
    intro state'
    exact absurd (state.symm.trans state') (by decide)
  | @returns t row | @returnsRb t row => cases t <;> grind [Uncommanded]
  | clears state | reverts state | recovers state | conflicts state | electsIdle state
  | settlesIdle state | electsPending state | settlesPending state | wtrExpires state
  | wtbExpires state => grind [Uncommanded]

/-- So a CLEAR passes in pending on the RPL owner only. -/
theorem Uncommanded.clear_owner (h : c.Uncommanded) (state : c.state = .pending)
    (passes : c.Passes .clear) : c.role = .owner := by
  obtain ⟨notFs, notMs⟩ := h state
  have valid : c.clearValid = true := passes.1 rfl
  simpa [clearValid, notFs, notMs] using valid

theorem Uncommanded.booted (role : Role) (revertive : Bool) (up : Ports Bool) :
    (Ctl.booted role revertive up).Uncommanded := by
  by_cases reverting : role = .owner ∧ revertive = true <;> simp [Uncommanded, reverting]

structure RbHonest (c : Ctl) : Prop where
  rb : c.txActive = true → c.status &&& rapsRb ≠ 0 →
    c.role = .owner ∧ c.state = .idle ∧ c.blocked.port1 = true
  noCommand : c.Uncommanded

theorem noStatus_noRb : 0 &&& rapsRb = 0 := by decide

theorem dnf_noRb : rapsDnf &&& rapsRb = 0 := by decide

theorem RbHonest.post (h : c.RbHonest) : (c.post o lnk req).RbHonest := by
  by_cases passes : c.Passes req
  case neg => rwa [post_of_not_passes passes]
  have reacts := post_reacts o lnk passes
  have noCommand := h.noCommand.post o lnk req
  obtain ⟨rb, pending⟩ := h
  generalize c.post o lnk req = d at reacts noCommand
  refine ⟨?_, noCommand⟩
  cases reacts with
  | idles quiet => exact rb
  | switches row =>
    -- the status of the announcement is zero or DNF alone
    intro _ announced
    have status : (if (c.take lnk req).leaving.blocked.get lnk = true then rapsDnf else 0) &&&
        rapsRb = 0 := by
      split
      · exact dnf_noRb
      · exact noStatus_noRb
    exact absurd status announced
  | yields row =>
    intro active
    simp [unblockAndStop, silence, goto, txActive] at active
  | reverts state =>
    have owner : c.role = .owner := pending.clear_owner state passes
    grind
  | @returns t row | @returnsRb t row =>
    -- TX goes on, and outside idle it does not carry the bit
    cases t <;> grind
  | forces state | clears state | recovers state | conflicts state => grind [noStatus_noRb]
  | electsIdle state | settlesIdle state | electsPending state | settlesPending state
  | wtrExpires state | wtbExpires state => grind

theorem RbHonest.step {e : Event} (h : c.RbHonest) : (c.step o e).RbHonest := by
  refine step_keeps ?_ ?_ h
  · intro c f t before
    cases t <;> exact ⟨before.rb, before.noCommand⟩
  · intro f t lnk req _ before
    exact before.post

theorem RbHonest.booted (role : Role) (revertive : Bool) (up : Ports Bool) :
    (Ctl.booted role revertive up).RbHonest := by
  refine ⟨?_, Uncommanded.booted role revertive up⟩
  intro _ announced
  exact absurd (by rw [booted_status]; rfl) announced

end Ctl

theorem rbHonest_run {s : Sys} {xs : List Step} (init : Initialised s)
    (succeeds : ∀ x ∈ xs, x.Succeeds) : Runs.EachState Sys.step s xs fun _ t =>
      t.setup.WellFormed ∧ t.ctl.RbHonest := by
  obtain ⟨formed, start⟩ := init.booted
  refine eachState_ctl (C := fun _ _ => True) formed ?_ ?_ ?_
  · rw [start]
    exact Ctl.RbHonest.booted _ _ _
  · exact Runs.eachStep_of_forall fun x member => ⟨succeeds x member, trivial⟩
  · intro c o e _ before
    exact before.step

/-- Whenever TX is active with the RB bit, the node is the RPL owner, idle, and its RPL
port is blocked. -/
theorem rb_announced_truthfully {s : Sys} {xs : List Step} (init : Initialised s)
    (succeeds : ∀ x ∈ xs, x.Succeeds) (active : (s.run xs).node.txActive = true)
    (announced : (s.run xs).node.pduMut.status &&& rapsRb ≠ 0) :
    (s.run xs).node.rplOwner = true ∧ (s.run xs).node.state = .idle ∧
      ∃ rpl, (s.run xs).node.getRpl = some rpl ∧ ((s.run xs).link rpl).blocked = true := by
  obtain ⟨formed, honest⟩ := (rbHonest_run init succeeds).last
  obtain ⟨owner, idle, blocked⟩ := honest.rb active announced
  refine ⟨?_, idle, .port1, ?_, blocked⟩
  · simpa [Sys.owner_eq] using owner
  · rw [Sys.getRpl_eq _ formed, if_neg (by simp [owner])]

theorem rb_announced_after_wtr :
    let t := (sampleNode true false (sampleDevice 0 1) (sampleDevice 1 2)).started.run
      (succeeding [.expiry .wtr])
    t.node.rplOwner = true ∧ t.node.state = .idle ∧
      ∃ rpl, t.node.getRpl = some rpl ∧ (t.link rpl).blocked = true :=
  rb_announced_truthfully (DtNode.started_initialised _) (succeeding_succeeds _) (by decide)
    (by decide)

end Erps
