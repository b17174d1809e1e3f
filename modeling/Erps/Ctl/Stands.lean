import Erps.Operations
import Erps.Properties.Announcing
import Erps.Properties.RplBlocked

/-!
# How strongly a node holds its block

A node that holds a block gives it up only for a request that outranks what it stands for,
or starts the guard timer. A node announces no more than it stands for. The ranks are those
of the requests, with R-APS(NR) ranked by the node ID of its sender.
-/
namespace Erps

/-- The rank of a request of a node in a ring of `n`: R-APS(NR) goes by the number of nodes
with a smaller node ID. -/
def RapsRequest.rank (n smaller : Nat) : RapsRequest → Nat
  | fs => n + 3
  | sf => n + 2
  | ms => n + 1
  | nrRb => n
  | nr => smaller

namespace Ctl

variable {c : Ctl} {o : Seen} {lnk : PortIdx} {req : Request}

/-- The request the node announces with the PDU it has scheduled. -/
def announced (c : Ctl) : Option RapsRequest :=
  let reqState := c.rsSc >>> rapsRsShift
  if reqState = rapsNr then some (if c.status &&& rapsRb ≠ 0 then .nrRb else .nr)
  else if reqState = rapsMs then some .ms
  else if reqState = rapsSf then some .sf
  else if reqState = rapsFs then some .fs
  else none

/-- The request a node defends its block with: a switch of its own, or the RPL of an idle RPL
owner; all others go by the node ID. -/
def defends (c : Ctl) : RapsRequest :=
  if c.topreq = .fs ∧ c.state = .forcedSwitch then .fs
  else if c.topreq = .sf ∧ c.state = .protection then .sf
  else if c.topreq = .ms ∧ c.state = .manualSwitch then .ms
  else if c.role = .owner ∧ c.state = .idle then .nrRb
  else .nr

/-- The request is one that starts the guard timer. -/
def startsGuard (c : Ctl) (req : Request) : Prop :=
  c.Passes req ∧ c.state.startsGuard req = true ∧ (req ≠ .clearSf → c.anyBlocked = true)

instance (c : Ctl) (req : Request) : Decidable (c.startsGuard req) := by
  unfold startsGuard; infer_instance

/-- Requests that do not take from a node what it stands for: a CLEAR where no signal fail is
in force, a clear SF where one is remembered, R-APS(NR,RB) not on the RPL owner. -/
structure Orderly (c : Ctl) (req : Request) : Prop where
  clear : req = .clear → ¬(c.topreq = .sf ∧ c.state = .protection)
  clearSf : req = .clearSf → c.topreq = .sf
  nrRb : req = .rapsNrRb → c.role ≠ .owner

/-- What is remembered of a request that has passed without an action. -/
theorem idles_defends (passes : c.Passes req) (orderly : c.Orderly req)
    (quiet : (c.take lnk req).state.noAction req = true ∨ (c.take lnk req).ignores lnk req) :
    (c.topreq = .fs ∧ c.state = .forcedSwitch → req.remembered = .fs) ∧
      (c.topreq = .sf ∧ c.state = .protection → req.remembered = .sf) ∧
        (c.topreq = .ms ∧ c.state = .manualSwitch → req.remembered = .ms) := by
  have clear := orderly.clear
  have clearSf := orderly.clearSf
  unfold ignores take at quiet
  unfold Passes at passes
  cases req <;> grind [Request.toNat]

/-- What the node announces it defends its block with. -/
structure Backed (c : Ctl) : Prop where
  fs : c.txActive = true → c.rsSc >>> rapsRsShift = rapsFs → c.topreq = .fs ∧ c.state = .forcedSwitch
  sf : c.txActive = true → c.rsSc >>> rapsRsShift = rapsSf → c.topreq = .sf ∧ c.state = .protection
  ms : c.txActive = true → c.rsSc >>> rapsRsShift = rapsMs → c.topreq = .ms ∧ c.state = .manualSwitch

theorem reqState_shift : rapsNr <<< rapsRsShift >>> rapsRsShift = rapsNr ∧
    rapsFs <<< rapsRsShift >>> rapsRsShift = rapsFs ∧
    rapsSf <<< rapsRsShift >>> rapsRsShift = rapsSf ∧
    rapsMs <<< rapsRsShift >>> rapsRsShift = rapsMs := by decide

theorem reqState_ne : rapsNr ≠ rapsFs ∧ rapsNr ≠ rapsSf ∧ rapsNr ≠ rapsMs ∧ rapsFs ≠ rapsSf ∧
    rapsFs ≠ rapsMs ∧ rapsSf ≠ rapsMs := by decide

/-- No switch is in force. -/
structure Humble (c : Ctl) : Prop where
  fs : ¬(c.topreq = .fs ∧ c.state = .forcedSwitch)
  sf : ¬(c.topreq = .sf ∧ c.state = .protection)
  ms : ¬(c.topreq = .ms ∧ c.state = .manualSwitch)

section
variable {d : Ctl}

theorem Backed.silent (quiet : d.txActive = false) : d.Backed := by
  constructor <;> intro active <;> exact absurd (quiet.symm.trans active) (by decide)

theorem Backed.nr (names : d.rsSc >>> rapsRsShift = rapsNr) : d.Backed := by
  obtain ⟨fs, sf, ms, -⟩ := reqState_ne
  constructor <;> intro _ other <;> rw [names] at other
  · exact absurd other fs
  · exact absurd other sf
  · exact absurd other ms

/-- What was announced while no switch was in force is R-APS(NR). -/
theorem Backed.still (h : c.Backed) (humble : c.Humble) (sc : d.rsSc = c.rsSc)
    (tx : d.txActive = true → c.txActive = true) : d.Backed := by
  constructor <;> intro active named <;> rw [sc] at named
  · exact absurd (h.fs (tx active) named) humble.fs
  · exact absurd (h.sf (tx active) named) humble.sf
  · exact absurd (h.ms (tx active) named) humble.ms

/-- A switch is announced while it is in force. -/
theorem Backed.switch {st next : NodeState} {reqState : UInt8} (row : Switch st req reqState next)
    (topreq : d.topreq = req.remembered) (state : d.state = next)
    (sends : d.rsSc = reqState <<< rapsRsShift) : d.Backed := by
  obtain ⟨-, shiftFs, shiftSf, shiftMs⟩ := reqState_shift
  obtain ⟨-, -, -, fsSf, fsMs, sfMs⟩ := reqState_ne
  cases row with
  | fs _ _ =>
    rw [← sends] at shiftFs
    constructor <;> intro _ named <;> rw [shiftFs] at named
    · exact ⟨topreq, state⟩
    · exact absurd named fsSf
    · exact absurd named fsMs
  | sf _ _ =>
    rw [← sends] at shiftSf
    constructor <;> intro _ named <;> rw [shiftSf] at named
    · exact absurd named.symm fsSf
    · exact ⟨topreq, state⟩
    · exact absurd named sfMs
  | ms _ =>
    rw [← sends] at shiftMs
    constructor <;> intro _ named <;> rw [shiftMs] at named
    · exact absurd named.symm fsMs
    · exact absurd named.symm sfMs
    · exact ⟨topreq, state⟩

end

/-- In a state without a switch none is in force. -/
theorem humble_of_state (state : c.state = .idle ∨ c.state = .pending) : c.Humble := by
  constructor <;> rintro ⟨-, switched⟩ <;> rw [switched] at state <;> revert state <;> decide

/-- Over a switch in force no R-APS(NR) passes. -/
theorem humble_of_passes (passes : c.Passes req) (nr : req = .rapsNr ∨ req = .rapsNrRb) :
    c.Humble := by
  obtain ⟨-, higher | ⟨clearSf, -⟩⟩ := passes
  · constructor <;> rintro ⟨topreq, -⟩ <;> rw [topreq] at higher <;>
      rcases nr with rfl | rfl <;> exact absurd higher (by decide)
  · rcases nr with rfl | rfl <;> cases clearSf

theorem sends_nr (c : Ctl) (up : Ports Bool) (status : UInt8) :
    (c.send up rapsNr status).rsSc >>> rapsRsShift = rapsNr := reqState_shift.1

theorem Backed.post (h : c.Backed) (announces : c.Announces) (passes : c.Passes req)
    (orderly : c.Orderly req) : (c.post o lnk req).Backed := by
  have reacts := post_reacts o lnk passes
  generalize c.post o lnk req = d at reacts
  -- a node without a block is silent
  have mute (opened : c.anyBlocked = false) : c.txActive = false := by
    cases active : c.txActive
    · rfl
    · exact (opened.symm.trans (announces active)).symm
  cases reacts with
  | idles quiet =>
    obtain ⟨keptFs, keptSf, keptMs⟩ := idles_defends passes orderly quiet
    constructor <;> intro active named
    · exact ⟨keptFs (h.fs active named), (h.fs active named).2⟩
    · exact ⟨keptSf (h.sf active named), (h.sf active named).2⟩
    · exact ⟨keptMs (h.ms active named), (h.ms active named).2⟩
  | switches row =>
    obtain ⟨w, b, same⟩ := leaving_eq (c.take lnk req)
    rw [same]
    exact .switch row (by cases lnk <;> rfl) (by cases lnk <;> rfl) (by cases lnk <;> rfl)
  | forces state => exact .switch (.fs (by decide) (by decide) : Switch .idle _ _ _) rfl state rfl
  | yields row => exact .silent (by unfold unblockAndStop; split <;> rfl)
  | @returns t row =>
    cases t <;> exact h.still (humble_of_passes passes (.inl rfl)) (by grind) (by grind)
  | returnsRb row => exact h.still (humble_of_passes passes (.inr rfl)) rfl id
  | settlesIdle state =>
    exact h.still (humble_of_state (.inl state)) (by grind) (by grind)
  | settlesPending state =>
    exact h.still (humble_of_state (.inr state)) (by grind) (by grind)
  | electsIdle state => exact h.still (humble_of_state (.inl state)) (by grind) (by grind)
  | electsPending state => exact h.still (humble_of_state (.inr state)) (by grind) (by grind)
  | recovers state => exact .nr (by grind [sends_nr])
  | clears state =>
    by_cases blocks : c.anyBlocked = true
    · exact .nr (by grind [sends_nr])
    · exact .silent (by grind)
  | conflicts state =>
    by_cases blocks : c.anyBlocked = true
    · exact .nr (by grind [sends_nr])
    · exact .silent (by grind)
  | reverts state =>
    by_cases plain : c.role = .plain
    · exact h.still (humble_of_state (.inr state)) (by grind) (by grind)
    · exact .nr (by grind [sends_nr])
  | wtrExpires state | wtbExpires state =>
    by_cases owner : c.role = .owner
    · exact .nr (by grind [sends_nr])
    · exact h.still (humble_of_state (.inr state)) (by grind) (by grind)

/-- A signal fail that protection is in force for blocks a port. -/
def ShutsFailed (c : Ctl) : Prop := c.topreq = .sf → c.state = .protection → c.anyBlocked = true

theorem ShutsFailed.post (h : c.ShutsFailed) : (c.post o lnk req).ShutsFailed := by
  by_cases passes : c.Passes req
  case neg => rwa [post_of_not_passes passes]
  have reacts := post_reacts o lnk passes
  generalize c.post o lnk req = d at reacts
  unfold ShutsFailed at h ⊢
  cases reacts with
  | idles quiet =>
    have kept := (remembered_of_quiet quiet).2.1
    grind
  | switches row => cases row <;> cases lnk <;> grind
  | yields row => cases row <;> grind
  | @returns t row | @returnsRb t row => cases t <;> grind
  | recovers state | settlesIdle state | settlesPending state | clears state | reverts state
  | conflicts state | electsIdle state | electsPending state | wtrExpires state
  | wtbExpires state | forces state => grind

/-- A node that announces holds a block, and defends it with what it announces. -/
structure Speaks (c : Ctl) : Prop where
  announces : c.Announces
  honest : c.RbHonest
  names : c.Names
  backed : c.Backed
  shuts : c.ShutsFailed

theorem Speaks.post (h : c.Speaks) (orderly : c.Orderly req) : (c.post o lnk req).Speaks := by
  by_cases passes : c.Passes req
  case neg => rwa [post_of_not_passes passes]
  have keeps : ¬c.Abandons o.up req := by
    rintro (⟨clearSf, ⟨state, opened⟩, -⟩ | ⟨nrRb, owner, -⟩)
    · rw [h.shuts (orderly.clearSf clearSf) state] at opened
      cases opened
    · exact orderly.nrRb nrRb owner
  exact ⟨h.announces.post passes keeps, h.honest.post, h.names.post,
    h.backed.post h.announces passes orderly, h.shuts.post⟩

theorem Speaks.modTimer (h : c.Speaks) (f : Armed → Armed) (t : Timer) : (c.modTimer f t).Speaks := by
  cases t <;> exact ⟨h.announces, ⟨h.honest.rb, h.honest.noCommand⟩, h.names,
    ⟨h.backed.fs, h.backed.sf, h.backed.ms⟩, h.shuts⟩

theorem Speaks.booted (role : Role) (revertive : Bool) (up : Ports Bool) :
    (Ctl.booted role revertive up).Speaks := by
  have apart := reqState_ne
  refine ⟨fun _ => booted_anyBlocked _ _ _, .booted _ _ _, ?_, ?_, ?_⟩
  · rw [Names, booted_rsSc]
    decide
  · constructor <;> intro _ named <;> rw [booted_rsSc] at named <;> exact absurd named (by decide)
  · intro _ state
    rw [booted_state] at state
    cases state

/-- What is announced ranks no higher than what the block is defended with. -/
theorem Speaks.announced_le (h : c.Speaks) {r : RapsRequest} {n smaller : Nat} (below : smaller < n)
    (active : c.txActive = true) (announced : c.announced = some r) :
    r.rank n smaller ≤ c.defends.rank n smaller := by
  have lowest : smaller ≤ c.defends.rank n smaller := by
    cases c.defends <;> simp only [RapsRequest.rank] <;> omega
  have rb := h.honest.rb active
  obtain ⟨fs, sf, ms⟩ := h.backed
  unfold Ctl.announced at announced
  unfold Ctl.defends at lowest ⊢
  cases r <;> grind [RapsRequest.rank]

/-- A node keeps its block and what it defends it with. -/
def HoldsOn (c d : Ctl) (n smaller : Nat) : Prop :=
  d.anyBlocked = true ∧ c.defends.rank n smaller ≤ d.defends.rank n smaller

/-- A request that passes leaves a node its block and what it defends it with, starts the
guard timer, or is a remote one that outranks it. -/
theorem post_holds {n smaller sender : Nat} (passes : c.Passes req) (orderly : c.Orderly req)
    (blocks : c.anyBlocked = true) (below : smaller < n)
    (greater : o.outranked = true → smaller < sender) :
    c.HoldsOn (c.post o lnk req) n smaller ∨
      ((c.post o lnk req).anyBlocked = true ∧ c.startsGuard req) ∨
        ∃ r : RapsRequest, r.request = req ∧ c.defends.rank n smaller < r.rank n sender := by
  have reacts := post_reacts o lnk passes
  generalize c.post o lnk req = d at reacts
  unfold HoldsOn
  cases reacts with
  | idles quiet =>
    obtain ⟨keptFs, keptSf, keptMs⟩ := idles_defends passes orderly quiet
    refine .inl ⟨blocks, ?_⟩
    unfold Ctl.defends
    grind [RapsRequest.rank]
  | switches row =>
    refine .inl ?_
    unfold Ctl.defends
    cases row <;> cases lnk <;> grind [RapsRequest.rank, Request.toNat]
  | yields row =>
    refine .inr (.inr ?_)
    cases row with
    | fs notForced _ => exact ⟨.fs, rfl, by unfold Ctl.defends; grind [RapsRequest.rank]⟩
    | sf states => exact ⟨.sf, rfl, by unfold Ctl.defends; grind [RapsRequest.rank]⟩
    | ms states => exact ⟨.ms, rfl, by unfold Ctl.defends; grind [RapsRequest.rank]⟩
  | @returns t row | @returnsRb t row =>
    refine .inl ?_
    unfold Ctl.defends
    cases t <;> grind [RapsRequest.rank, Request.toNat]
  | recovers state | clears state | conflicts state =>
    exact .inr (.inl ⟨by grind, passes, by grind [NodeState.startsGuard], fun _ => blocks⟩)
  | settlesIdle state | settlesPending state =>
    by_cases owner : c.role = .owner
    · exact absurd owner (orderly.nrRb rfl)
    · exact .inr (.inr ⟨.nrRb, rfl, by unfold Ctl.defends; grind [RapsRequest.rank]⟩)
  | electsIdle state =>
    -- the ends of the RPL do not take part
    by_cases listens : c.role = .plain ∧ o.outranked = true
    · exact .inr (.inr ⟨.nr, rfl, by unfold Ctl.defends; grind [RapsRequest.rank, Request.toNat]⟩)
    · exact .inl (by unfold Ctl.defends; grind [RapsRequest.rank, Request.toNat])
  | electsPending state =>
    by_cases outranked : o.outranked = true
    · exact .inr (.inr ⟨.nr, rfl, by unfold Ctl.defends; grind [RapsRequest.rank, Request.toNat]⟩)
    · exact .inl (by unfold Ctl.defends; grind [RapsRequest.rank, Request.toNat])
  | reverts state | wtrExpires state | wtbExpires state | forces state =>
    exact .inl (by unfold Ctl.defends; cases lnk <;> grind [RapsRequest.rank, Request.toNat])

end Ctl

end Erps
