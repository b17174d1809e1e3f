import Erps.Properties.Failures
import Erps.Properties.PortMap

/-!
# R-APS(NR,RB) brings a node home

A node that is not the RPL owner and remembers no request follows R-APS(NR,RB) to idle: from
protection and the switches through pending, which opens and blocks the ports; from pending
and idle at once. In idle nothing is left to do, so repeats change nothing.
-/
namespace Erps

open Calls Runs

namespace Ctl

/-- Home: idle and silent, with the RPL blocked at a neighbour and no port anywhere else. -/
structure Home (c : Ctl) : Prop where
  state : c.state = .idle
  topreq : c.topreq = .invalid
  tx : c.tx = ⟨false, false⟩
  blocked : c.blocked = ⟨false, c.role ≠ .plain⟩
  failed : c.role = .nbr → c.failed.port0 = false

variable {c : Ctl} {o : Seen} {lnk : PortIdx}

/-- R-APS(NR,RB) passes where no request is remembered, and is not remembered itself. -/
theorem post_nrRb (topreq : c.topreq = .invalid) :
    c.post o lnk .rapsNrRb = c.react o lnk .rapsNrRb := by
  have passes : c.Passes .rapsNrRb := ⟨by simp, .inl (by rw [topreq]; decide)⟩
  have kept : c.take lnk .rapsNrRb = c := by
    rw [take]
    exact congrArg (fun req => { c with topreq := req }) topreq.symm
  rw [post, if_pos passes, kept, if_neg fun ignored => absurd ignored.1 (by decide)]

theorem home_of_pending (notOwner : c.role ≠ .owner) (topreq : c.topreq = .invalid)
    (state : c.state = .pending) : (c.post o lnk .rapsNrRb).Home := by
  rw [post_nrRb topreq, react, state]
  change c.rapsNrRbPending.Home
  unfold rapsNrRbPending
  cases role : c.role with
  | owner => exact absurd role notOwner
  | nbr =>
    refine ⟨rfl, topreq, rfl, ?_, fun _ => rfl⟩
    change Ports.mk false true = ⟨false, c.role ≠ .plain⟩
    rw [role]
    rfl
  | plain =>
    refine ⟨rfl, topreq, rfl, ?_, fun _ => rfl⟩
    change Ports.mk false false = ⟨false, c.role ≠ .plain⟩
    rw [role]
    rfl

/-- In idle the ports are home already, but for what a neighbour's port 0 has failed with. -/
theorem home_of_idle (notOwner : c.role ≠ .owner) (topreq : c.topreq = .invalid)
    (state : c.state = .idle) (blocked : c.blocked = ⟨false, c.role ≠ .plain⟩) :
    (c.post o lnk .rapsNrRb).Home := by
  rw [post_nrRb topreq, react, state]
  change c.rapsNrRbIdle.Home
  unfold rapsNrRbIdle
  cases role : c.role with
  | owner => exact absurd role notOwner
  | nbr =>
    refine ⟨state, topreq, rfl, ?_, fun _ => rfl⟩
    change Ports.mk false c.blocked.port1 = ⟨false, c.role ≠ .plain⟩
    rw [blocked]
  | plain => exact ⟨state, topreq, rfl, blocked, fun nbr => absurd (role.symm.trans nbr) (by decide)⟩

theorem PortMap.idle_blocked (h : c.PortMap) (state : c.state = .idle) :
    c.blocked = ⟨false, c.role ≠ .plain⟩ := by
  obtain ⟨port0, port1⟩ := h.idle state
  exact congrArg₂ Ports.mk port0 (Bool.eq_iff_iff.mpr (port1.trans decide_eq_true_iff.symm))

/-- From the other states it leads to pending, with nothing else changed. -/
theorem pending_of_elsewhere (topreq : c.topreq = .invalid) (notIdle : c.state ≠ .idle)
    (notPending : c.state ≠ .pending) (init : c.state ≠ .uninit) :
    c.post o lnk .rapsNrRb = c.goto .pending := by
  rw [post_nrRb topreq, react]
  cases state : c.state with
  | idle => exact absurd state notIdle
  | pending => exact absurd state notPending
  | uninit => exact absurd state init
  | protection | manualSwitch | forcedSwitch => rfl

/-- Wherever the node is, two of them are enough. -/
theorem home_of_two {o' : Seen} {lnk' : PortIdx} (notOwner : c.role ≠ .owner)
    (topreq : c.topreq = .invalid) (init : c.state ≠ .uninit)
    (idle : c.state = .idle → c.blocked = ⟨false, c.role ≠ .plain⟩) :
    ((c.post o lnk .rapsNrRb).post o' lnk' .rapsNrRb).Home := by
  have again (home : (c.post o lnk .rapsNrRb).Home) :
      ((c.post o lnk .rapsNrRb).post o' lnk' .rapsNrRb).Home := by
    have notOwner' : (c.post o lnk .rapsNrRb).role ≠ .owner := by rwa [post_role]
    exact home_of_idle notOwner' home.topreq home.state home.blocked
  by_cases state : c.state = .idle
  · exact again (home_of_idle notOwner topreq state (idle state))
  by_cases pending : c.state = .pending
  · exact again (home_of_pending notOwner topreq pending)
  · rw [pending_of_elsewhere topreq state pending init]
    exact home_of_pending (c := c.goto .pending) notOwner topreq rfl

end Ctl

/-! ### Repeats -/

section
variable {good : KernelCall → Int → Prop} {s : Sys} {lnk : PortIdx}

/-- Node and ports are as they were. -/
def Sys.Still (s t : Sys) : Prop := t.node = s.node ∧ t.hw = s.hw

theorem Sys.Still.trans {t u : Sys} (h : s.Still t) (h' : t.Still u) : s.Still u :=
  ⟨h'.1.trans h.1, h'.2.trans h.2⟩

theorem Sys.Still.link {t : Sys} (h : s.Still t) : t.link lnk = s.link lnk :=
  congrArg (fun n => n.ports.get lnk) h.1

theorem Sys.Still.ctl {t : Sys} (h : s.Still t) : t.ctl = s.ctl := by
  obtain ⟨node, hw, _, _, _, _⟩ := s
  obtain ⟨rfl, rfl⟩ := h
  rfl

theorem Sys.Still.formed {t : Sys} (h : s.Still t) (formed : s.setup.WellFormed) :
    t.setup.WellFormed := by
  obtain ⟨node, hw, _, _, _, _⟩ := s
  obtain ⟨rfl, rfl⟩ := h
  exact formed

/-- With all calls answered in any way, nothing has changed once `m` ends. -/
abbrev Stays (good : KernelCall → Int → Prop) {α : Type} (m : M α) (s : Sys) : Prop :=
  wp good anyState m (fun _ t => s.Still t) s

theorem Stays.bind {α β : Type} {m : M β} {k : β → M α} (h : Stays good m s)
    (next : ∀ b t, s.Still t → Stays good (k b) t) : Stays good (m >>= k) s :=
  wp_bind (wp_mono h fun b t still => wp_mono (next b t still) fun _ _ still' => still.trans still')

theorem modLink_still {f : Link → Link} (same : f (s.link lnk) = s.link lnk) :
    s.Still (s.modLink lnk f) := by
  have ports : s.node.ports.modify f lnk = s.node.ports := by
    cases lnk
    · exact congrArg (fun l => { s.node.ports with port0 := l }) same
    · exact congrArg (fun l => { s.node.ports with port1 := l }) same
  exact ⟨congrArg (fun p => { s.node with ports := p }) ports, rfl⟩

/-- Cancelling what is not scheduled. -/
theorem cancelTx_still (silent : (s.link lnk).txDwork.timeout = none) :
    s.Still ((s.modWork (.tx lnk) DelayableWork.cancel).note (.cancel (.tx lnk))) := by
  have cancelled : DelayableWork.cancel (s.link lnk).txDwork = (s.link lnk).txDwork :=
    congrArg (fun t => { (s.link lnk).txDwork with timeout := t }) silent.symm
  exact modLink_still (f := fun l => { l with txDwork := l.txDwork.cancel })
    (congrArg (fun w => { s.link lnk with txDwork := w }) cancelled)

theorem nodeStopTx_stays (silent : s.ctl.tx = ⟨false, false⟩) : Stays good nodeStopTx s := by
  have idle (lnk : PortIdx) : (s.link lnk).txDwork.timeout = none := by
    have off : (s.link lnk).txDwork.scheduled = false := by
      cases lnk
      · exact congrArg Ports.port0 silent
      · exact congrArg Ports.port1 silent
    exact Option.isNone_iff_eq_none.mp (Option.isSome_eq_false_iff.mp off)
  have cancels {t : Sys} {lnk : PortIdx} (still : s.Still t) :
      Stays good (kWorkCancelDelayable (.tx lnk)) t :=
    wp_write trivial (cancelTx_still ((congrArg (fun l => l.txDwork.timeout) still.link).trans (idle lnk)))
  refine Stays.bind (cancels ⟨rfl, rfl⟩) fun _ t still => ?_
  exact Stays.bind (cancels still) fun _ u _ => wp_write trivial ⟨rfl, rfl⟩

/-- What is open and has not failed is opened. -/
theorem linkUnblock_stays (lnk : PortIdx) (opened : (s.link lnk).blocked = false)
    (sound : (s.link lnk).failed = false) :
    Stays good (linkUnblock lnk) s := by
  have still : s.Still (s.modLink lnk fun l => { l with failed := false }) :=
    modLink_still (congrArg (fun b => { s.link lnk with failed := b }) sound.symm)
  have opened' : ((s.modLink lnk fun l => { l with failed := false }).link lnk).blocked = false := by
    cases lnk <;> exact opened
  refine wp_bind (wp_write trivial (wp_bind (wp_read ?_)))
  rw [opened']
  exact wp_ite (fun _ => wp_pure still) fun blocked => absurd rfl blocked

theorem fsmRapsNrRbIdle_stays (formed : s.setup.WellFormed) (notOwner : s.ctl.role ≠ .owner)
    (home : s.ctl.Home) : Stays good fsmRapsNrRbIdle s := by
  refine wp_bind (wp_read ?_)
  rw [Sys.getRpl_eq s formed, Sys.owner_eq]
  cases role : s.ctl.role with
  | owner => exact absurd role notOwner
  | nbr =>
    have opened : (s.link .port0).blocked = false := congrArg Ports.port0 home.blocked
    refine Stays.bind (linkUnblock_stays .port0 opened (home.failed role)) fun ret t still => ?_
    refine wp_ifOk (fun _ => wp_ite (by simp) fun _ => ?_) fun _ => ⟨rfl, rfl⟩
    exact Stays.bind (nodeStopTx_stays (still.ctl ▸ home.tx)) fun _ _ _ => wp_pure ⟨rfl, rfl⟩
  | plain =>
    refine wp_bind (wp_pure (wp_ifOk (fun _ => wp_ite (by simp) fun _ => ?_) fun failed => absurd rfl failed))
    exact Stays.bind (nodeStopTx_stays home.tx) fun _ _ _ => wp_pure ⟨rfl, rfl⟩

/-- A node at home does not react to R-APS(NR,RB), whatever the calls answer. -/
theorem nrRb_stays {pdu : Option RapsPdu} (formed : s.setup.WellFormed)
    (notOwner : s.ctl.role ≠ .owner) (home : s.ctl.Home) :
    Stays good (fsmPost lnk .rapsNrRb pdu) s := by
  refine wp_bind (wp_call fun ret _ => wp_ite (fun _ => wp_pure ⟨rfl, rfl⟩) fun _ => ?_)
  unfold fsmPostLocked
  refine wp_bindWhen (wp_ite (fun clears => absurd clears (by decide)) fun _ => wp_pure ?_)
  refine wp_bind (wp_mono (wp_resolve s .rapsNrRb) ?_)
  rintro ret t ⟨rfl, rfl⟩
  have passes : s.ctl.Passes .rapsNrRb := ⟨by simp, .inl (by rw [home.topreq]; decide)⟩
  have same : s.taken .rapsNrRb = s :=
    congrArg (fun req => s.modNode fun n => { n with localTopreq := req }) home.topreq.symm
  simp only [passes, if_true, same]
  refine wp_ite (fun busy => absurd busy (by decide)) fun _ => wp_bind (wp_write trivial ?_)
  rw [if_neg (by decide)]
  refine wp_bind (wp_read (wp_ite (fun bad => absurd bad.1 (by decide)) fun _ => ?_))
  have state : s.node.state = .idle := home.state
  simp only [id, state]
  exact fsmRapsNrRbIdle_stays formed notOwner home

end

/-! ### Runs -/

/-- A node as R-APS(NR,RB) leaves it: idle and silent, a neighbour with the RPL blocked and
nothing else, any other node with no port blocked. -/
structure Node.Home (n : Node) : Prop where
  state : n.state = .idle
  silent : n.txActive = false
  nbr : n.rplNbr = true → ∃ rpl, n.getRpl = some rpl ∧ (n.ports.get rpl).blocked = true ∧
    (n.ports.get rpl.other).blocked = false
  plain : n.rplNbr = false → ∀ i, (n.ports.get i).blocked = false

theorem Sys.home {s : Sys} (formed : s.setup.WellFormed) (notOwner : s.ctl.role ≠ .owner)
    (home : s.ctl.Home) : s.node.Home := by
  have owner : s.node.rplOwner = false := by
    rw [Sys.owner_eq]
    exact beq_eq_false_iff_ne.mpr notOwner
  have rpl := s.getRpl_eq formed
  have open0 : s.node.ports.port0.blocked = false := congrArg Ports.port0 home.blocked
  have port1 : s.node.ports.port1.blocked = decide (s.ctl.role ≠ .plain) :=
    congrArg Ports.port1 home.blocked
  refine ⟨home.state, ?_, fun nbr => ?_, fun notNbr => ?_⟩
  · have tx : s.ctl.txActive = false := by rw [Ctl.txActive, home.tx]; rfl
    exact tx
  · have ringRole : s.ctl.role ≠ .plain := s.ringRole_iff.mp (.inr nbr)
    rw [if_neg ringRole] at rpl
    exact ⟨.port1, rpl, port1.trans (decide_eq_true ringRole), open0⟩
  · have plain : s.ctl.role = .plain := by
      by_contra ringRole
      rcases s.ringRole_iff.mpr ringRole with owns | nbr
      · rw [owner] at owns
        cases owns
      · rw [notNbr] at nbr
        cases nbr
    rintro (_ | _)
    · exact open0
    · exact port1.trans (decide_eq_false (not_not.mpr plain))

/-- R-APS(NR,RB) on a link, with answers to the calls made. -/
def Step.IsNrRb (x : Step) : Prop := ∃ lnk pdu, x.1 = .raps lnk .nrRb pdu

theorem Sys.step_nrRb {s : Sys} {x : Step} (formed : s.setup.WellFormed) (succeeds : x.Succeeds)
    (nrRb : x.IsNrRb) : ∃ o lnk, (s.step x).ctl = s.ctl.post o lnk .rapsNrRb := by
  obtain ⟨e, ans⟩ := x
  obtain ⟨lnk, pdu, rfl⟩ := nrRb
  exact ⟨_, lnk, Sys.step_ctl formed succeeds⟩

/-- At home a run of R-APS(NR,RB) leads nowhere. -/
theorem nrRb_run_stays {s : Sys} {xs : List Step} (formed : s.setup.WellFormed)
    (notOwner : s.ctl.role ≠ .owner) (home : s.ctl.Home) (nrRb : ∀ x ∈ xs, x.IsNrRb) :
    EachState Sys.step s xs fun _ t => s.Still t := by
  refine eachState_of_eachStep (C := fun _ _ x => x.IsNrRb) ⟨rfl, rfl⟩ (eachStep_of_forall nrRb) ?_
  rintro pre t ⟨e, ans⟩ - ⟨lnk, pdu, rfl⟩ still
  have stays : Stays anyAnswer (fsmPost lnk .rapsNrRb (some pdu)) t :=
    nrRb_stays (still.formed formed) (still.ctl ▸ notOwner) (still.ctl ▸ home)
  have after : Stays anyAnswer (Event.raps lnk .nrRb pdu).prog t :=
    stays.bind fun _ _ _ => wp_pure ⟨rfl, rfl⟩
  exact still.trans (after.post ans (respects_any ans))

/-- A node that is not the RPL owner and remembers no request is at home after two
R-APS(NR,RB), and no further one changes anything. -/
theorem nrRb_brings_home {s : Sys} {xs : List Step} (init : Initialised s)
    (succeeds : ∀ x ∈ xs, x.Succeeds) (notOwner : s.node.rplOwner = false)
    (topreq : (s.run xs).node.localTopreq = .invalid) {x y : Step} (first : x.Succeeds ∧ x.IsNrRb)
    (second : y.Succeeds ∧ y.IsNrRb) :
    (((s.run xs).step x).step y).node.Home ∧ ∀ zs : List Step, (∀ z ∈ zs, z.Succeeds ∧ z.IsNrRb) →
      (((s.run xs).step x).step y).Still ((((s.run xs).step x).step y).run zs) := by
  obtain ⟨formed, start⟩ := init.booted
  have role : s.ctl.role ≠ .owner := by
    rw [Sys.owner_eq] at notOwner
    exact beq_eq_false_iff_ne.mp notOwner
  have steps : EachStep Sys.step s xs fun _ _ x => x.Succeeds ∧ True :=
    eachStep_of_forall fun x member => ⟨succeeds x member, trivial⟩
  have run := eachState_ctl (I := fun c => c.role ≠ .owner ∧ c.PortMap ∧ c.Remembers)
    (C := fun _ _ => True) formed
    ⟨role, start ▸ Ctl.PortMap.booted _ _ _, start ▸ Ctl.Remembers.booted _ _ _⟩ steps
    fun c o e _ before => ⟨Ctl.step_role.trans_ne before.1,
      before.2.1.step fun owner => absurd owner before.1, before.2.2.step⟩
  obtain ⟨formed, role, map, remembers⟩ := run.last
  obtain ⟨o, lnk, ctl⟩ := Sys.step_nrRb formed first.1 first.2
  have formed1 := Sys.step_formed formed first.1
  obtain ⟨o', lnk', ctl'⟩ := Sys.step_nrRb formed1 second.1 second.2
  have formed2 := Sys.step_formed formed1 second.1
  have home : (((s.run xs).step x).step y).ctl.Home := by
    rw [ctl', ctl]
    exact Ctl.home_of_two role topreq remembers.init map.idle_blocked
  have role2 : (((s.run xs).step x).step y).ctl.role ≠ .owner := by
    rw [ctl', ctl, Ctl.post_role, Ctl.post_role]
    exact role
  refine ⟨Sys.home formed2 role2 home, fun zs nrRb => ?_⟩
  exact (nrRb_run_stays formed2 role2 home fun z member => (nrRb z member).2).last

def sampleNrRb (lnk : PortIdx) : Step := (.raps lnk .nrRb zeroPdu, allSucceed)

theorem sampleNrRb_isNrRb (lnk : PortIdx) : (sampleNrRb lnk).Succeeds ∧ (sampleNrRb lnk).IsNrRb :=
  ⟨allSucceed_respects, lnk, zeroPdu, rfl⟩

/-- A node in a manual switch that another node has commanded. -/
theorem nrRb_brings_home_plain :
    let s := samplePlain.run (succeeding [.raps .port0 .ms zeroPdu])
    let t := (s.step (sampleNrRb .port0)).step (sampleNrRb .port1)
    t.node.Home ∧ t.Still (t.run [sampleNrRb .port1, sampleNrRb .port0]) := by
  intro s t
  have topreq : s.node.localTopreq = .invalid := by decide
  obtain ⟨home, still⟩ := nrRb_brings_home samplePlain_initialised (succeeding_succeeds _) rfl
    topreq (sampleNrRb_isNrRb .port0) (sampleNrRb_isNrRb .port1)
  refine ⟨home, still _ fun z member => ?_⟩
  simp only [List.mem_cons, List.not_mem_nil, or_false] at member
  rcases member with rfl | rfl
  · exact sampleNrRb_isNrRb .port1
  · exact sampleNrRb_isNrRb .port0

end Erps
