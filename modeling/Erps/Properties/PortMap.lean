import Erps.Properties.RplBlocked

/-!
# Which ports are blocked in which state

The map from the state of a node to its blocked ports, for runs in which the RPL
owner never hears R-APS(NR,RB), which only an RPL owner sends. The map alone is not
kept by every step: a CLEAR in pending may lead to idle without a port being moved.
It is kept together with what pending remembers.
-/
namespace Erps

namespace Ctl

structure PortMap (c : Ctl) : Prop where
  idle : c.state = .idle →
    c.blocked.port0 = false ∧ (c.blocked.port1 = true ↔ c.role ≠ .plain)
  forced : c.state = .forcedSwitch → (c.anyBlocked = true ↔ c.topreq = .fs)
  protection : c.state = .protection → c.topreq = .sf →
    ∃ i, c.blocked.get i = true ∧ c.failed.get i = true ∧ c.blocked.get i.other = false
  both : c.state ≠ .forcedSwitch → c.state ≠ .pending → c.blocked.port0 = true →
    c.blocked.port1 = true → c.failed.port0 = true ∧ c.failed.port1 = true
  noCommand : c.Uncommanded

variable {c : Ctl} {o : Seen} {lnk : PortIdx} {req : Request}

theorem PortMap.remember (h : c.PortMap) (passes : c.Passes req)
    (quiet : c.state.noAction req = true ∨ c.ignores lnk req) : (c.take lnk req).PortMap := by
  obtain ⟨forced, protection, -⟩ := remembered_of_quiet quiet
  constructor
  · exact h.idle
  · intro state
    obtain ⟨notFs, notClear⟩ := forced state
    have open_or : c.topreq ≠ .fs := fun topreq => by
      rcases passes.over_fs topreq with rfl | rfl
      · exact notClear rfl
      · exact notFs rfl
    have opened : c.anyBlocked ≠ true := mt (h.forced state).mp open_or
    constructor
    · exact fun blocked => absurd blocked opened
    · intro topreq
      have remembered : req.remembered = .fs := topreq
      cases req <;> simp_all [Request.remembered]
  · intro state topreq
    exact absurd topreq (protection state)
  · intro notForced notPending blocked0 blocked1
    obtain ⟨failed0, failed1⟩ := h.both notForced notPending blocked0 blocked1
    cases lnk <;> grind
  · exact uncommanded_take quiet

section
variable {d : Ctl}

/-- Idle is entered by blocking the RPL and nothing else. -/
theorem PortMap.idle_reacts (h : c.PortMap) (single : req = .rapsNrRb → c.role ≠ .owner)
    (passes : c.Passes req) (reacts : Reacts o lnk (c.take lnk req) req d) :
    d.state = .idle → d.blocked.port0 = false ∧ (d.blocked.port1 = true ↔ d.role ≠ .plain) := by
  have idle := h.idle
  cases reacts with
  | idles quiet => exact idle
  | switches row | yields row => cases row <;> nofun
  | reverts state =>
    -- only the RPL owner hears a CLEAR here
    have owner : c.role = .owner := h.noCommand.clear_owner state passes
    grind
  | settlesPending state | settlesIdle state =>
    have notOwner : c.role ≠ .owner := single rfl
    grind
  | @returns t row | @returnsRb t row => cases t <;> grind
  | forces state | clears state | recovers state | conflicts state | electsIdle state
  | electsPending state | wtrExpires state | wtbExpires state => grind

/-- Forced switch is entered by blocking the port of a local request, or by opening both
for a remote one. -/
theorem PortMap.forced_reacts (h : c.PortMap) (passes : c.Passes req)
    (reacts : Reacts o lnk (c.take lnk req) req d) :
    d.state = .forcedSwitch → (d.anyBlocked = true ↔ d.topreq = .fs) := by
  have forced := h.forced
  cases reacts with
  | idles quiet => exact (h.remember passes quiet).forced
  | switches row => cases row <;> cases lnk <;> grind
  | yields row => cases row <;> grind
  | forces state => cases lnk <;> grind
  | @returns t row | @returnsRb t row => cases t <;> grind
  | clears state | reverts state | recovers state | conflicts state | electsIdle state
  | settlesIdle state | electsPending state | settlesPending state | wtrExpires state
  | wtbExpires state => grind

theorem PortMap.protection_reacts (h : c.PortMap) (passes : c.Passes req)
    (reacts : Reacts o lnk (c.take lnk req) req d) : d.state = .protection → d.topreq = .sf →
      ∃ i, d.blocked.get i = true ∧ d.failed.get i = true ∧ d.blocked.get i.other = false := by
  cases reacts with
  | idles quiet => exact (h.remember passes quiet).protection
  | switches row =>
    cases row with
    | sf notForced notUninit =>
      -- the failed link is blocked, the other one is open
      obtain ⟨w, b, same⟩ := (c.take lnk .sf).leaving_eq
      rw [same]
      exact fun _ _ => ⟨lnk, by cases lnk <;> rfl, by cases lnk <;> rfl, by cases lnk <;> rfl⟩
    | fs notForced notUninit | ms from_ => nofun
  | yields row => cases row <;> grind
  | @returns t row | @returnsRb t row => cases t <;> grind
  | forces state | clears state | reverts state | recovers state | conflicts state
  | electsIdle state | settlesIdle state | electsPending state | settlesPending state
  | wtrExpires state | wtbExpires state => grind

/-- Outside forced switch and pending a second block is a failed port's. -/
theorem PortMap.both_reacts (h : c.PortMap) (single : req = .rapsNrRb → c.role ≠ .owner)
    (passes : c.Passes req) (reacts : Reacts o lnk (c.take lnk req) req d) :
    d.state ≠ .forcedSwitch →
      d.state ≠ .pending → d.blocked.port0 = true → d.blocked.port1 = true →
        d.failed.port0 = true ∧ d.failed.port1 = true := by
  have idle := h.idle
  have both := h.both
  cases reacts with
  | idles quiet => exact (h.remember passes quiet).both
  | switches row => cases row <;> cases lnk <;> grind
  | yields row => cases row <;> grind
  | reverts state =>
    have owner : c.role = .owner := h.noCommand.clear_owner state passes
    grind
  | settlesPending state | settlesIdle state =>
    have notOwner : c.role ≠ .owner := single rfl
    grind
  | @returns t row | @returnsRb t row => cases t <;> grind
  | forces state | clears state | recovers state | conflicts state | electsIdle state
  | electsPending state | wtrExpires state | wtbExpires state => grind

end

theorem PortMap.post (h : c.PortMap) (single : req = .rapsNrRb → c.role ≠ .owner) :
    (c.post o lnk req).PortMap := by
  by_cases passes : c.Passes req
  case neg => rwa [post_of_not_passes passes]
  have reacts := post_reacts o lnk passes
  exact ⟨h.idle_reacts single passes reacts, h.forced_reacts passes reacts,
    h.protection_reacts passes reacts, h.both_reacts single passes reacts, h.noCommand.post o lnk req⟩

theorem PortMap.booted (role : Role) (revertive : Bool) (up : Ports Bool) :
    (Ctl.booted role revertive up).PortMap := by
  have noCommand := Uncommanded.booted role revertive up
  constructor <;> simp [noCommand]

theorem PortMap.step {e : Event} (h : c.PortMap)
    (single : c.role = .owner → ∀ lnk pdu, e ≠ .raps lnk .nrRb pdu) : (c.step o e).PortMap := by
  have keeps : (c.step o e).role = c.role ∧ (c.step o e).PortMap := by
    refine step_keeps (I := fun d => d.role = c.role ∧ d.PortMap) ?_ ?_ ⟨rfl, h⟩
    · rintro d f t ⟨role, before⟩
      refine ⟨(modTimer_role d f t).trans role, ?_⟩
      cases t <;> exact ⟨before.idle, before.forced, before.protection, before.both,
        before.noCommand⟩
    · rintro f t lnk req posts ⟨role, before⟩
      refine ⟨post_role.trans role, before.post ?_⟩
      rintro rfl owner
      obtain ⟨pdu, received⟩ := posts_nrRb posts
      exact single (role.symm.trans owner) lnk pdu received
  exact keeps.2

end Ctl

/-- The ports of a node as its state has them. -/
structure Node.PortMap (n : Node) : Prop where
  idleRing : n.state = .idle → n.rplOwner = true ∨ n.rplNbr = true →
    ∃ rpl, n.getRpl = some rpl ∧ (n.ports.get rpl).blocked = true ∧
      (n.ports.get rpl.other).blocked = false
  idlePlain : n.state = .idle → n.rplOwner = false → n.rplNbr = false →
    ∀ i, (n.ports.get i).blocked = false
  forced : n.state = .forcedSwitch →
    if n.localTopreq = .fs then ∃ i, (n.ports.get i).blocked = true
    else ∀ i, (n.ports.get i).blocked = false
  protection : n.state = .protection → n.localTopreq = .sf →
    ∃ i, (n.ports.get i).blocked = true ∧ (n.ports.get i).failed = true ∧
      (n.ports.get i.other).blocked = false
  both : n.state ≠ .forcedSwitch → n.state ≠ .pending →
    (∀ i, (n.ports.get i).blocked = true) → ∀ i, (n.ports.get i).failed = true

theorem Sys.portMap {s : Sys} (formed : s.setup.WellFormed) (h : s.ctl.PortMap) :
    s.node.PortMap := by
  have rpl := s.getRpl_eq formed
  constructor
  · intro idle ring
    have ringRole : s.ctl.role ≠ .plain := s.ringRole_iff.mp ring
    obtain ⟨opened, blocked⟩ := h.idle idle
    rw [if_neg ringRole] at rpl
    exact ⟨.port1, rpl, blocked.mpr ringRole, opened⟩
  · intro idle notOwner notNbr
    have plain : s.ctl.role = .plain := by
      by_contra ringRole
      rcases s.ringRole_iff.mpr ringRole with owner | nbr
      · simp [notOwner] at owner
      · simp [notNbr] at nbr
    obtain ⟨opened, blocked⟩ := h.idle idle
    rintro (_ | _)
    · exact opened
    · exact Bool.eq_false_iff.mpr fun on => blocked.mp on plain
  · intro forced
    have blocked_iff : s.ctl.anyBlocked = true ↔ s.node.localTopreq = .fs := h.forced forced
    split
    · next fs =>
      have blocked : s.ctl.blocked.port0 = true ∨ s.ctl.blocked.port1 = true := by
        simpa [Ctl.anyBlocked] using blocked_iff.mpr fs
      rcases blocked with blocked | blocked
      · exact ⟨.port0, blocked⟩
      · exact ⟨.port1, blocked⟩
    · next other =>
      have opened : s.ctl.blocked.port0 = false ∧ s.ctl.blocked.port1 = false := by
        simpa [Ctl.anyBlocked] using mt blocked_iff.mp other
      rintro (_ | _)
      · exact opened.1
      · exact opened.2
  · intro protection topreq
    obtain ⟨i, blocked, failed, opened⟩ := h.protection protection topreq
    exact ⟨i, (s.link_blocked i).trans blocked, (s.link_failed i).trans failed,
      (s.link_blocked i.other).trans opened⟩
  · intro notForced notPending blocked i
    obtain ⟨failed0, failed1⟩ := h.both notForced notPending (blocked .port0) (blocked .port1)
    cases i with
    | port0 => exact failed0
    | port1 => exact failed1

/-- The port map holds in every state of a run in which the RPL owner is not handed an
R-APS(NR,RB). -/
theorem portMap_run {s : Sys} {xs : List Step} (init : Initialised s)
    (succeeds : ∀ x ∈ xs, x.Succeeds)
    (single : s.node.rplOwner = true → ∀ x ∈ xs, ∀ lnk pdu, x.1 ≠ .raps lnk .nrRb pdu) :
    (s.run xs).node.PortMap := by
  obtain ⟨formed, start⟩ := init.booted
  have map : s.ctl.PortMap := start ▸ Ctl.PortMap.booted _ _ _
  have steps : Runs.EachStep Sys.step s xs fun _ _ x => x.Succeeds ∧
      (s.ctl.role = .owner → ∀ lnk pdu, x.1 ≠ .raps lnk .nrRb pdu) := by
    refine Runs.eachStep_of_forall fun x member => ⟨succeeds x member, fun owner => ?_⟩
    exact single (by rw [Sys.owner_eq, owner]; rfl) x member
  -- the role goes into the invariant, so that the condition speaks of the start only
  have run := eachState_ctl (I := fun c => c.role = s.ctl.role ∧ c.PortMap)
    (C := fun _ e => s.ctl.role = .owner → ∀ lnk pdu, e ≠ .raps lnk .nrRb pdu) formed
    ⟨rfl, map⟩ steps fun c o e alone before =>
      ⟨Ctl.step_role.trans before.1, before.2.step fun owner => alone (before.1.symm.trans owner)⟩
  obtain ⟨formed', _, map'⟩ := run.last
  exact Sys.portMap formed' map'

theorem portMap_run_owner :
    ((sampleNode true false (sampleDevice 0 1) (sampleDevice 1 2)).started.run (succeeding
      [.ctl .port0 .signalFail, .ctl .port1 .admForcedSwitch, .ctl .port0 .admClear,
        .expiry .wtb])).node.PortMap := by
  refine portMap_run (DtNode.started_initialised _) (succeeding_succeeds _) ?_
  intro _ x member
  simp only [succeeding, List.map_cons, List.map_nil, List.mem_cons, List.not_mem_nil,
    or_false] at member
  rcases member with rfl | rfl | rfl | rfl <;> simp

end Erps
