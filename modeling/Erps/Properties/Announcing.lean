import Erps.Properties.Commands

/-!
# A node that announces holds a block

Peers open their ports on the word of the node that announces. Two requests make a node
announce without a block of its own, and they are the only ones: a clear SF in
protection with both ports open, and R-APS(NR,RB) on an idle RPL owner whose RPL is open.
-/
namespace Erps

open Calls Runs

namespace Ctl

variable {c : Ctl} {o : Seen} {lnk : PortIdx} {req : Request}

/-- Who announces holds a block. -/
def Announces (c : Ctl) : Prop := c.txActive = true → c.anyBlocked = true

/-- In protection on account of another node, without a block of its own. -/
def Exposed (c : Ctl) : Prop := c.state = .protection ∧ c.anyBlocked = false

/-- The request makes a node without a block announce, or takes the last block of a node
that goes on announcing. -/
def Abandons (c : Ctl) (up : Ports Bool) (req : Request) : Prop :=
  (req = .clearSf ∧ c.Exposed ∧ (up.port0 || up.port1) = true) ∨
    (req = .rapsNrRb ∧ c.role = .owner ∧ c.state = .idle ∧ c.txActive = true ∧
      c.blocked.port1 = false)

theorem Announces.post (h : c.Announces) (passes : c.Passes req)
    (held : ¬c.Abandons o.up req) : (c.post o lnk req).Announces := by
  have reacts := post_reacts o lnk passes
  generalize c.post o lnk req = d at reacts
  unfold Announces at h ⊢
  cases reacts with
  | idles quiet => exact h
  | switches row => cases lnk <;> grind
  | yields row => grind
  | @returns t row | @returnsRb t row => cases t <;> grind
  | settlesIdle state =>
    -- the RPL owner goes on announcing with the RPL blocked
    have rpl : c.role = .owner → c.txActive = true → c.blocked.port1 = true := by
      intro owner active
      by_contra opened
      exact held (.inr ⟨rfl, owner, state, active, Bool.eq_false_iff.mpr opened⟩)
    grind
  | recovers state =>
    have blocked : (o.up.port0 || o.up.port1) = true → c.anyBlocked = true := by
      intro up
      by_contra opened
      exact held (.inl ⟨rfl, ⟨state, Bool.eq_false_iff.mpr opened⟩, up⟩)
    grind
  | forces state => cases lnk <;> grind
  | settlesPending state | clears state | reverts state | conflicts state | electsIdle state
  | electsPending state | wtrExpires state | wtbExpires state => grind

theorem Abandons.post (abandons : c.Abandons o.up req) (passes : c.Passes req) :
    ¬(c.post o lnk req).Announces := by
  have reacts := post_reacts o lnk passes
  generalize c.post o lnk req = d at reacts
  unfold Announces
  rcases abandons with ⟨rfl, ⟨state, opened⟩, up⟩ | ⟨rfl, owner, state, active, rpl⟩
  · cases reacts with
    | recovers _ => grind
    | idles quiet => grind
    | switches row | yields row => cases row
  · cases reacts with
    | settlesIdle _ => grind
    | idles quiet | returnsRb row | settlesPending _ => grind
    | switches row | yields row => cases row

theorem modTimer_announces (f : Armed → Armed) (t : Timer) :
    (c.modTimer f t).Announces ↔ c.Announces := by
  cases t <;> exact Iff.rfl

theorem modTimer_abandons (f : Armed → Armed) (t : Timer) (up : Ports Bool) :
    (c.modTimer f t).Abandons up req ↔ c.Abandons up req := by
  cases t <;> exact Iff.rfl

theorem step_announces {e : Event} (h : c.Announces) : (c.step o e).Announces ↔
    ∀ lnk req, e.posts = some (lnk, req) → c.Passes req → ¬c.Abandons o.up req := by
  cases posts : e.posts with
  | none =>
    obtain ⟨f, t, same⟩ := step_silent (c := c) (o := o) posts
    rw [same, modTimer_announces]
    simp [h]
  | some posted =>
    obtain ⟨lnk, req⟩ := posted
    obtain ⟨f, g, t, same⟩ := step_posts (c := c) (o := o) posts
    rw [same, modTimer_announces]
    by_cases passes : c.Passes req
    · have passes' := (modTimer_passes f t).mpr passes
      have before := (modTimer_announces f t).mpr h
      constructor
      · rintro after lnk' req' ⟨⟩ _ abandons
        exact ((modTimer_abandons f t o.up).mpr abandons).post passes' after
      · intro held
        exact before.post passes' (mt (modTimer_abandons f t o.up).mp (held lnk req rfl passes))
    · rw [post_of_not_passes (mt (modTimer_passes f t).mp passes), modTimer_announces]
      simp [passes, h]

theorem booted_anyBlocked (role : Role) (revertive : Bool) (up : Ports Bool) :
    (Ctl.booted role revertive up).anyBlocked = true := by
  cases role <;> simp [anyBlocked]

/-- Only these four requests are ever announced. -/
def Names (c : Ctl) : Prop := c.rsSc >>> rapsRsShift ∈ [rapsNr, rapsSf, rapsMs, rapsFs]

theorem names_send : ∀ reqState ∈ [rapsNr, rapsSf, rapsMs, rapsFs],
    reqState <<< rapsRsShift >>> rapsRsShift ∈ [rapsNr, rapsSf, rapsMs, rapsFs] := by
  intro reqState named
  have valid : validReqState reqState = true := by
    simp only [List.mem_cons, List.not_mem_nil, or_false] at named
    rcases named with rfl | rfl | rfl | rfl <;> rfl
  rwa [validReqState_shift valid]

theorem Names.post (h : c.Names) : (c.post o lnk req).Names := by
  by_cases passes : c.Passes req
  case neg => rwa [post_of_not_passes passes]
  have reacts := post_reacts o lnk passes
  generalize c.post o lnk req = d at reacts
  unfold Names at h ⊢
  have nr := names_send rapsNr (by decide)
  cases reacts with
  | idles quiet => exact h
  | switches row => cases row <;> exact names_send _ (by decide)
  | forces state => exact names_send rapsFs (by decide)
  | yields row => grind
  | @returns t row | @returnsRb t row => cases t <;> grind
  | recovers state | settlesIdle state | settlesPending state | clears state | reverts state
  | conflicts state | electsIdle state | electsPending state | wtrExpires state
  | wtbExpires state => grind

theorem Names.step {e : Event} (h : c.Names) : (c.step o e).Names := by
  refine step_keeps ?_ ?_ h
  · intro d f t before
    cases t <;> exact before
  · intro f t lnk req _ before
    exact before.post

end Ctl

/-- Whatever of the four requests the node transmits, it has a blocked port. -/
def Node.AnnouncesBlocked (n : Node) : Prop :=
  ∀ reqState ∈ [rapsNr, rapsSf, rapsMs, rapsFs], n.transmits reqState = true →
    n.anyLinkBlocked = true

theorem Sys.announcesBlocked_iff {s : Sys} (names : s.ctl.Names) :
    s.node.AnnouncesBlocked ↔ s.ctl.Announces := by
  constructor
  · intro blocked active
    refine blocked _ names ?_
    have active' : s.node.txActive = true := active
    simp [Node.transmits, active', Sys.ctl]
  · intro announces reqState _ transmits
    have active : s.node.txActive = true := by
      simp only [Node.transmits, Bool.and_eq_true] at transmits
      exact transmits.1
    exact announces active

/-- The request of the step is outranked, or leaves no node announcing without a block. -/
def KeepsPromise (s : Sys) (x : Step) : Prop :=
  ∀ lnk req, x.1.posts = some (lnk, req) → s.ctl.Passes req →
    ¬s.ctl.Abandons s.setup.up req

/-- A node that announces holds a block, all along a run, if and only if every step leaves
it one. -/
theorem announces_blocked_iff {s : Sys} {xs : List Step} (init : Initialised s)
    (succeeds : ∀ x ∈ xs, x.Succeeds) :
    EachState Sys.step s xs (fun _ t => t.node.AnnouncesBlocked) ↔
      EachStep Sys.step s xs fun _ t x => KeepsPromise t x := by
  obtain ⟨formed, start⟩ := init.booted
  have names : s.ctl.Names := by
    rw [start, Ctl.Names, Ctl.booted_rsSc]
    decide
  have invariants := eachState_ctl (I := Ctl.Names) (C := fun _ _ => True) formed names
    (eachStep_of_forall fun x member => ⟨succeeds x member, trivial⟩) fun _ _ _ _ h => h.step
  refine eachState_iff_eachStep invariants ?_ ?_
  · rw [Sys.announcesBlocked_iff names, start]
    exact fun _ => Ctl.booted_anyBlocked _ _ _
  · rintro pre t x - member ⟨formed', names'⟩ before
    have succeeds' : x.Succeeds := succeeds x (member.subset (by simp))
    rw [Sys.announcesBlocked_iff names'] at before
    have names'' : (t.step x).ctl.Names := Sys.step_ctl formed' succeeds' ▸ names'.step
    rw [Sys.announcesBlocked_iff names'', Sys.step_ctl formed' succeeds',
      Ctl.step_announces before, Setup.seen_up]
    exact Iff.rfl

theorem announces_blocked_iff_owner :
    let s := (sampleNode true false (sampleDevice 0 1) (sampleDevice 1 2)).started
    let xs := succeeding [.ctl .port0 .signalFail, .ctl .port0 .clearSignalFail]
    EachState Sys.step s xs (fun _ t => t.node.AnnouncesBlocked) ↔
      EachStep Sys.step s xs fun _ t x => KeepsPromise t x :=
  announces_blocked_iff (DtNode.started_initialised _) (succeeding_succeeds _)

/-- The failure of another link, cleared where there was none. -/
theorem block_abandoned : ¬∀ (s : Sys) (xs : List Step), Initialised s →
    (∀ x ∈ xs, x.Succeeds) → (s.run xs).node.AnnouncesBlocked := by
  intro blocked
  have here := blocked (sampleNode false false (sampleDevice 0 1) (sampleDevice 1 2)).started
    (succeeding [.raps .port0 .sf
      ⟨⟨0, 0, 0, 0⟩, ⟨0, 0, zeroAddr, Vector.replicate 24 0⟩, 0⟩, .ctl .port0 .clearSignalFail])
    (DtNode.started_initialised _) (succeeding_succeeds _)
  exact absurd (here rapsNr (by decide) (by decide)) (by decide)

end Erps
