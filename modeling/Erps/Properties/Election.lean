import Mathlib.Data.Fintype.EquivFin
import Mathlib.Order.WellFounded
import Erps.Ctl.Hears
import Erps.Properties.Commands
import Erps.Properties.GuardPeriod
import Erps.Properties.RoundTrip
import Erps.Ring

/-!
# Node ID election

While nothing but R-APS(NR) is in flight, a node opens its ports and stops sending when it
hears of a greater node ID, and only then. So the greatest of the nodes that announce
R-APS(NR) keeps its block, and whoever hears of a greater one gives up its own.
-/
namespace Erps

open Calls Runs

/-! ## The state machine -/

/-- The states in which R-APS(NR) is answered by comparing node IDs. -/
def Ctl.Electing (c : Ctl) : Prop := c.state = .pending ∨ (c.state = .idle ∧ c.role = .plain)

/-- The answer to R-APS(NR) there. -/
def Ctl.elect (c : Ctl) (outranked : Bool) : Ctl :=
  if c.Passes .rapsNr then { c with topreq := .invalid }.maybeUnblockAndStop outranked else c

/-- What a node makes of an R-APS(NR): nothing if it is its own, and otherwise an election. -/
inductive Ctl.Hears (c : Ctl) : Bool → Ctl → Prop where
  | own : Hears c false c
  | other (outranked : Bool) : Hears c outranked (c.elect outranked)

namespace Ctl

variable {c d : Ctl} {outranked : Bool}

theorem post_rapsNr (electing : c.Electing) (o : Seen) (lnk : PortIdx) :
    c.post o lnk .rapsNr = c.elect o.outranked := by
  have handled : ¬c.ignores lnk .rapsNr := fun ignored => Request.noConfusion ignored.1
  unfold post elect
  by_cases passes : c.Passes .rapsNr
  · have taken : c.take lnk .rapsNr = { c with topreq := .invalid } := rfl
    have handled' : ¬({ c with topreq := .invalid } : Ctl).ignores lnk .rapsNr := handled
    simp only [if_pos passes, taken, if_neg handled']
    rcases electing with pending | ⟨idle, plain⟩
    · simp only [react, pending, postPending]
    · simp only [react, idle, postIdle, rapsNrIdle, plain]
  · simp only [if_neg passes]

namespace Hears

/-- What stays: the state, what is announced and which links have failed. -/
theorem keeps (h : c.Hears outranked d) : d.state = c.state ∧ d.role = c.role ∧
    d.rsSc = c.rsSc ∧ d.status = c.status ∧ d.failed = c.failed := by
  cases h with
  | own => simp
  | other =>
    unfold elect maybeUnblockAndStop
    split
    · cases outranked <;> simp [silence, unblockNonFailed]
    · simp

/-- A node that R-APS(NR) does not get through to stays one. -/
theorem passes (h : c.Hears outranked d) (now : d.Passes .rapsNr) : c.Passes .rapsNr := by
  cases h with
  | own => exact now
  | other =>
    by_contra blocked
    rw [elect, if_neg blocked] at now
    exact blocked now

theorem holds (h : c.Hears false d) : d.blocked = c.blocked ∧ d.tx = c.tx := by
  cases h with
  | own => simp
  | other =>
    unfold elect maybeUnblockAndStop
    split <;> simp

theorem yields (h : c.Hears true d) (passes : c.Passes .rapsNr)
    (intact : c.failed = ⟨false, false⟩) :
    d.blocked = ⟨false, false⟩ ∧ d.tx = ⟨false, false⟩ := by
  cases h with
  | other =>
    rw [elect, if_pos passes, maybeUnblockAndStop, if_pos rfl]
    simp [silence, unblockNonFailed, intact]

/-- A node that has given up does not take it back. -/
theorem silent (h : c.Hears outranked d) (blocked : c.blocked = ⟨false, false⟩)
    (tx : c.tx = ⟨false, false⟩) : d.blocked = ⟨false, false⟩ ∧ d.tx = ⟨false, false⟩ := by
  cases h with
  | own => exact ⟨blocked, tx⟩
  | other =>
    unfold elect maybeUnblockAndStop
    split
    · cases outranked <;> simp [silence, unblockNonFailed, blocked, tx]
    · exact ⟨blocked, tx⟩

end Hears

end Ctl

/-! ## Nodes -/

/-- R-APS(NR), without the RB bit. -/
structure RapsPdu.IsNr (pdu : RapsPdu) : Prop where
  opcode : pdu.cfmHdr.opcode = rapsOpcode
  reqState : pdu.getReqState = rapsNr
  rb : pdu.rb = false

theorem RapsPdu.IsNr.request {pdu : RapsPdu} (nr : pdu.IsNr) (ver : UInt8) :
    rapsRequest ver pdu = some .nr := by
  rw [rapsRequest, if_pos nr.reqState, nr.rb]
  rfl

/-- What the node would send is R-APS(NR). -/
def Sys.AnnouncesNr (s : Sys) : Prop :=
  s.node.pduMut.rsSc >>> rapsRsShift = rapsNr ∧ s.node.pduMut.status &&& rapsRb = 0

/-- The node transmits R-APS(NR). -/
def Sys.TransmitsNr (s : Sys) : Prop := s.node.txActive = true ∧ s.AnnouncesNr

/-- A well-formed node in pending, with any local top priority request, or in idle without a
role in the ring, whose guard timer does not run. -/
structure Sys.Electing (s : Sys) : Prop where
  formed : s.setup.WellFormed
  state : s.node.state = .pending ∨
    (s.node.state = .idle ∧ s.node.rplOwner = false ∧ s.node.rplNbr = false)
  unguarded : s.guardExpired = true

/-- A port that has failed. -/
def Node.anyLinkFailed (n : Node) : Bool := n.ports.port0.failed || n.ports.port1.failed

section
variable {s t : Sys} {lnk : PortIdx} {pdu : RapsPdu}

theorem Sys.role_plain_iff :
    s.ctl.role = .plain ↔ s.node.rplOwner = false ∧ s.node.rplNbr = false := by
  have role : s.ctl.role =
    if s.node.rplOwner then .owner else if s.node.rplNbr then .nbr else .plain := rfl
  rw [role]
  cases s.node.rplOwner <;> cases s.node.rplNbr <;> simp

theorem Sys.electing_iff :
    s.ctl.Electing ↔ s.node.state = .pending ∨
      (s.node.state = .idle ∧ s.node.rplOwner = false ∧ s.node.rplNbr = false) := by
  have state : s.ctl.state = s.node.state := rfl
  rw [Ctl.Electing, state, Sys.role_plain_iff]

theorem Sys.outranked_iff : s.setup.outranked pdu = true ↔
    s.nodeId.toList < pdu.rapsInfo.nodeId.toList := by
  have lengths : s.nodeId.toList.length = pdu.rapsInfo.nodeId.toList.length := by simp
  rw [← memcmp_pos_iff lengths, Setup.outranked, decide_eq_true_eq]
  rfl

/-- A node hears an R-APS(NR) of another one, or its own. -/
theorem pduRecv_elects (h : s.Electing) (nr : pdu.IsNr) :
    wp Success anyState (pduRecv lnk pdu) (fun _ t => t.setup = s.setup ∧ t.guard = s.guard ∧
      s.ctl.Hears (s.setup.outranked pdu) t.ctl) s := by
  refine wp_bind (wp_mono (isLocalRapsFrame_own s pdu) ?_)
  rintro own t ⟨rfl, own_nodeId⟩
  refine wp_ite (fun local_ => wp_pure ⟨rfl, rfl, ?_⟩) fun _ => ?_
  · have lowest : t.setup.outranked pdu = false := by
      rw [Bool.eq_false_iff, ne_eq, Sys.outranked_iff, own_nodeId local_]
      exact List.lt_irrefl _
    rw [lowest]
    exact .own
  -- nothing in the filter stops it
  have notEvent : pdu.getReqState ≠ rapsEvent := by
    rw [nr.reqState]
    decide
  refine wp_bind (wp_read (wp_ite (fun bad => absurd nr.opcode bad) fun _ => ?_))
  refine wp_ite (fun bad => absurd bad notEvent) fun _ => ?_
  rw [nr.request]
  refine wp_bind (wp_read (wp_ite (fun guarded => ?_) fun _ => ?_))
  · simp [h.unguarded] at guarded
  have flushes := (rapsNodeIdBprFlush_leads t lnk .rapsNr pdu).and (rapsNodeIdBprFlush_guard.ends t)
  refine wp_bind (wp_mono flushes ?_)
  rintro _ u ⟨⟨-, same, setup⟩, guard⟩
  -- R-APS(NR) starts the guard timer in no state
  have calm : ¬u.StartsGuard .rapsNr := by
    rintro ⟨-, starts, -⟩
    cases state : u.node.state <;> rw [state] at starts <;> cases starts
  have posts := (fsmPost_leads u lnk .rapsNr (some pdu) (fun _ => rfl) (by decide)
    (setup ▸ h.formed)).and (fsmPost_calm calm)
  refine wp_bind (wp_mono posts ?_)
  rintro _ v ⟨⟨-, posted, setup'⟩, guard'⟩
  refine wp_pure ⟨setup'.trans setup, guard'.trans guard, ?_⟩
  rw [posted, same, setup, Ctl.post_rapsNr (Sys.electing_iff.mpr h.state)]
  exact .other _

theorem rapsCreate_builds (s : Sys) (buf : RapsPdu) :
    wp Success anyState (rapsCreate buf) (fun p _ => p.2 = s.filled buf) s := by
  unfold rapsCreate
  have reads := (linkGetNodeId_leads s).and (linkGetNodeId_eq s)
  refine wp_bind (wp_read (wp_bind (wp_mono reads ?_)))
  rintro _ t ⟨⟨rfl, -, -⟩, -, rfl⟩
  exact wp_ite (fun failed => absurd rfl failed) fun _ => wp_pure rfl

/-- What a node that announces R-APS(NR) sends. -/
theorem Sys.AnnouncesNr.filled (h : s.AnnouncesNr) (buf : RapsPdu) : (s.filled buf).IsNr := by
  refine ⟨rfl, h.1, ?_⟩
  have flags := (sentStatus_flags s).1
  rw [h.2] at flags
  exact flags

/-- A node goes on with the election. -/
theorem Sys.Electing.hears {outranked : Bool} (h : s.Electing) (setup : t.setup = s.setup)
    (guard : t.guard = s.guard) (heard : s.ctl.Hears outranked t.ctl) : t.Electing := by
  obtain ⟨state, role, -⟩ := heard.keeps
  refine ⟨setup ▸ h.formed, ?_, (congrArg Guard.expired guard).trans h.unguarded⟩
  rw [← Sys.electing_iff, Ctl.Electing, state, role]
  exact Sys.electing_iff.mpr h.state

end

/-! ## Nodes and PDUs in flight -/

namespace Net

variable {n : Nat} {S : Set (Fin n)} {w v : Net n} {x : NetStep n}

/-- An election among the nodes of `S` is about to begin: they transmit R-APS(NR) and hold a
blocked port, and nothing but R-APS(NR) of theirs is in flight. -/
structure Election (S : Set (Fin n)) (w : Net n) : Prop where
  electing : ∀ i, (w.nodes i).Electing
  distinct : ∀ i j, (w.nodes i).nodeId = (w.nodes j).nodeId → i = j
  nonempty : S.Nonempty
  transmits : ∀ i ∈ S, (w.nodes i).TransmitsNr
  blocks : ∀ i ∈ S, (w.nodes i).node.anyLinkBlocked = true
  inFlight : ∀ pdu ∈ w.inFlight, pdu.IsNr ∧ ∃ i ∈ S, pdu.rapsInfo.nodeId = (w.nodes i).nodeId

/-- The node has received a PDU with a greater node ID. -/
def HeardGreater (v : Net n) (pre : List (NetStep n)) (i : Fin n) : Prop :=
  ∃ lnk pdu ans, NetStep.deliver i lnk pdu ans ∈ pre ∧
    (v.nodes i).nodeId.toList < pdu.rapsInfo.nodeId.toList

/-! ### Steps -/

/-- What holds in every state of an election that began in `w`. -/
structure Elects (S : Set (Fin n)) (v w : Net n) : Prop where
  electing : ∀ i, (v.nodes i).Electing
  setup : ∀ i, (v.nodes i).setup = (w.nodes i).setup
  announces : ∀ i ∈ S, (v.nodes i).AnnouncesNr
  inFlight : ∀ pdu ∈ v.inFlight, pdu.IsNr ∧ ∃ i ∈ S, pdu.rapsInfo.nodeId = (w.nodes i).nodeId

/-- What a step means to a node: nothing, or a PDU in flight that it hears. -/
inductive Meets (v : Net n) (x : NetStep n) (i : Fin n) : Prop where
  | nothing (elsewhere : ∀ lnk pdu ans, x ≠ .deliver i lnk pdu ans)
      (same : (v.step x).nodes i = v.nodes i)
  | pdu {lnk : PortIdx} {pdu : RapsPdu} {ans : Answers KernelCall}
      (here : x = .deliver i lnk pdu ans) (flying : pdu ∈ v.inFlight)
      (setup : ((v.step x).nodes i).setup = (v.nodes i).setup)
      (guard : ((v.step x).nodes i).guard = (v.nodes i).guard)
      (hears : (v.nodes i).ctl.Hears ((v.nodes i).setup.outranked pdu) ((v.step x).nodes i).ctl)

theorem Election.elects (h : w.Election S) : w.Elects S w :=
  ⟨h.electing, fun _ => rfl, fun i member => (h.transmits i member).2, h.inFlight⟩

namespace Elects

theorem nodeId (h : v.Elects S w) (i : Fin n) : (v.nodes i).nodeId = (w.nodes i).nodeId :=
  congrArg (fun u => u.dev.port0.addr) (h.setup i)

theorem meets (h : v.Elects S w) (permits : v.Permits S x) (i : Fin n) : v.Meets x i := by
  cases x with
  | send j buf ans => exact .nothing nofun rfl
  | lose pdu => exact .nothing nofun rfl
  | deliver j lnk pdu ans =>
    obtain ⟨flying, answers⟩ := permits
    by_cases self : i = j
    · subst self
      have recv : (v.step (.deliver i lnk pdu ans)).nodes i =
        (pduRecv lnk pdu).final ans (v.nodes i) := Function.update_self ..
      obtain ⟨setup, guard, hears⟩ :=
        (pduRecv_elects (h.electing i) (h.inFlight pdu flying).1).post ans answers
      refine .pdu rfl flying ?_ ?_ ?_ <;> rw [recv]
      · exact setup
      · exact guard
      · exact hears
    · refine .nothing ?_ (Function.update_of_ne self ..)
      rintro _ _ _ same
      cases same
      exact self rfl

theorem step (h : v.Elects S w) (permits : v.Permits S x) : (v.step x).Elects S w := by
  refine ⟨fun i => ?_, fun i => ?_, fun i member => ?_, ?_⟩
  · cases h.meets permits i with
    | nothing _ same => exact same ▸ h.electing i
    | pdu _ _ setup guard hears => exact (h.electing i).hears setup guard hears
  · cases h.meets permits i with
    | nothing _ same => exact same ▸ h.setup i
    | pdu _ _ setup => exact setup.trans (h.setup i)
  · cases h.meets permits i with
    | nothing _ same => exact same ▸ h.announces i member
    | pdu _ _ _ _ hears =>
      obtain ⟨-, -, rsSc, status, -⟩ := hears.keeps
      have announces := h.announces i member
      exact ⟨(congrArg (· >>> rapsRsShift) rsSc).trans announces.1,
        (congrArg (· &&& rapsRb) status).trans announces.2⟩
  · intro pdu flying
    cases x with
    | deliver => exact h.inFlight pdu flying
    | lose lost => exact h.inFlight pdu (List.mem_of_mem_erase flying)
    | send i buf ans =>
      obtain ⟨member, -, answers⟩ := permits
      -- a member sends with its own ID and what it announces
      have sent : v.nodes.sent i buf ans = (v.nodes i).filled buf :=
        (rapsCreate_builds (v.nodes i) buf).post ans answers
      rcases List.mem_cons.mp flying with rfl | old
      · rw [sent]
        exact ⟨(h.announces i member).filled buf, i, member, h.nodeId i⟩
      · exact h.inFlight pdu old

end Elects

/-! ### The greatest node ID -/

/-- The greatest of the node IDs belongs to one node. -/
theorem Election.exists_top (h : w.Election S) : ∃ top ∈ S, ∀ i ∈ S, i ≠ top →
    (w.nodes i).nodeId.toList < (w.nodes top).nodeId.toList := by
  let Outranks (i j : Fin n) : Prop := (w.nodes j).nodeId.toList < (w.nodes i).nodeId.toList
  have _ : IsTrans (Fin n) Outranks := ⟨fun _ _ _ first second => List.lt_trans second first⟩
  have _ : Std.Irrefl Outranks := ⟨fun _ => List.lt_irrefl _⟩
  obtain ⟨top, member, greatest⟩ :=
    (Finite.wellFounded_of_trans_of_irrefl Outranks).has_min S h.nonempty
  refine ⟨top, member, fun i among other => ?_⟩
  -- the order is total, and equal IDs are the same node
  rcases List.le_iff_lt_or_eq.mp (List.not_lt.mp (greatest i among)) with less | same
  · exact less
  · exact absurd (h.distinct i top (Vector.toList_inj.mp same)) other

/-- Nothing in flight outranks a node with the greatest ID. -/
theorem Elects.top_unranked (h : v.Elects S w) {top : Fin n} {pdu : RapsPdu}
    (greatest : ∀ i ∈ S, i ≠ top → (w.nodes i).nodeId.toList < (w.nodes top).nodeId.toList)
    (flying : pdu ∈ v.inFlight) : (v.nodes top).setup.outranked pdu = false := by
  obtain ⟨-, i, member, sender⟩ := h.inFlight pdu flying
  rw [Bool.eq_false_iff, ne_eq, Sys.outranked_iff, h.nodeId, sender]
  by_cases self : i = top
  · rw [self]
    exact List.lt_irrefl _
  · exact List.lt_asymm (greatest i member self)

/-! ### Runs -/

/-- The invariant: `top` is as it was, and who has heard of a greater node ID has given up. -/
structure Decides (S : Set (Fin n)) (w : Net n) (top : Fin n) (pre : List (NetStep n))
    (v : Net n) : Prop where
  elects : v.Elects S w
  holds : (v.nodes top).ctl.blocked = (w.nodes top).ctl.blocked ∧
    (v.nodes top).ctl.tx = (w.nodes top).ctl.tx
  yields : ∀ i, (v.nodes i).ctl.failed = ⟨false, false⟩ → (v.nodes i).ctl.Passes .rapsNr →
    v.HeardGreater pre i →
      (v.nodes i).ctl.blocked = ⟨false, false⟩ ∧ (v.nodes i).ctl.tx = ⟨false, false⟩

/-- What a node has heard of after a step it had heard of before, or it hears it now. -/
theorem HeardGreater.of_concat {pre : List (NetStep n)} {i : Fin n}
    (heard : (v.step x).HeardGreater (pre ++ [x]) i)
    (nodeId : ((v.step x).nodes i).nodeId = (v.nodes i).nodeId) :
    v.HeardGreater pre i ∨ ∃ lnk pdu ans, x = .deliver i lnk pdu ans ∧
      (v.nodes i).setup.outranked pdu = true := by
  obtain ⟨lnk, pdu, ans, member, greater⟩ := heard
  rw [nodeId] at greater
  rcases List.mem_append.mp member with before | now
  · exact .inl ⟨lnk, pdu, ans, before, greater⟩
  · exact .inr ⟨lnk, pdu, ans, (List.mem_singleton.mp now).symm, Sys.outranked_iff.mpr greater⟩

theorem Decides.step {top : Fin n} {pre : List (NetStep n)} (h : Decides S w top pre v)
    (greatest : ∀ i ∈ S, i ≠ top → (w.nodes i).nodeId.toList < (w.nodes top).nodeId.toList)
    (permits : v.Permits S x) : Decides S w top (pre ++ [x]) (v.step x) := by
  have elects := h.elects.step permits
  refine ⟨elects, ?_, fun i intact passes heard => ?_⟩
  · cases h.elects.meets permits top with
    | nothing _ same => exact same ▸ h.holds
    | pdu _ flying _ _ hears =>
      rw [h.elects.top_unranked greatest flying] at hears
      obtain ⟨blocked, tx⟩ := hears.holds
      exact ⟨blocked.trans h.holds.1, tx.trans h.holds.2⟩
  · have nodeId := (elects.nodeId i).trans (h.elects.nodeId i).symm
    cases h.elects.meets permits i with
    | nothing elsewhere same =>
      rw [same] at intact passes ⊢
      rcases heard.of_concat nodeId with before | ⟨lnk, pdu, ans, here, -⟩
      · exact h.yields i intact passes before
      · exact absurd here (elsewhere lnk pdu ans)
    | pdu here _ _ _ hears =>
      -- what holds of failures and priority now has held before the PDU
      obtain ⟨-, -, -, -, failed⟩ := hears.keeps
      have intact' := failed.symm.trans intact
      have passes' := hears.passes passes
      rcases heard.of_concat nodeId with before | ⟨lnk, pdu, ans, here', outranked⟩
      · obtain ⟨blocked, tx⟩ := h.yields i intact' passes' before
        exact hears.silent blocked tx
      · cases here.symm.trans here'
        rw [outranked] at hears
        exact hears.yields passes' intact'

/-- Node ID election keeps one block. In every state the member with the greatest node ID
blocks what it blocked at the start, a port at least, and still transmits; and every node
without a failed link to which R-APS(NR) gets through has, once it has received a PDU with a
greater node ID, neither a blocked port nor active TX. -/
theorem election_keeps_block {xs : List (NetStep n)}
    (start : w.Election S) (steps : EachStep Net.step w xs fun _ v x => v.Permits S x) :
    ∃ top ∈ S, (∀ i ∈ S, i ≠ top →
        (w.nodes i).nodeId.toList < (w.nodes top).nodeId.toList) ∧
      EachState Net.step w xs fun pre v =>
        (∀ lnk, ((v.nodes top).link lnk).blocked = ((w.nodes top).link lnk).blocked) ∧
          (v.nodes top).node.anyLinkBlocked = true ∧ (v.nodes top).TransmitsNr ∧
            ∀ i, (v.nodes i).node.anyLinkFailed = false →
              Request.rapsNr.toNat ≤ (v.nodes i).node.localTopreq.toNat → v.HeardGreater pre i →
                (v.nodes i).node.anyLinkBlocked = false ∧ (v.nodes i).node.txActive = false := by
  obtain ⟨top, member, greatest⟩ := start.exists_top
  have begins : Decides S w top [] w := by
    refine ⟨start.elects, ⟨rfl, rfl⟩, ?_⟩
    rintro i - - ⟨_, _, _, none, -⟩
    simp at none
  have decides : EachState Net.step w xs (Decides S w top) :=
    eachState_of_eachStep begins steps fun _ _ _ _ permits h => h.step greatest permits
  refine ⟨top, member, greatest, decides.mono fun pre v h => ⟨fun lnk => ?_, ?_, ⟨?_, ?_⟩, ?_⟩⟩
  · rw [Sys.link_blocked, Sys.link_blocked, h.holds.1]
  · have blocks : (w.nodes top).ctl.anyBlocked = true := start.blocks top member
    rwa [Ctl.anyBlocked, ← h.holds.1] at blocks
  · have active : (w.nodes top).ctl.txActive = true := (start.transmits top member).1
    rwa [Ctl.txActive, ← h.holds.2] at active
  · exact h.elects.announces top member
  · intro i intact through heard
    have failed : (v.nodes i).ctl.failed = ⟨false, false⟩ := by
      obtain ⟨port0, port1⟩ := Bool.or_eq_false_iff.mp intact
      simp only [Sys.ctl, Ports.map, port0, port1]
    have remote : Request.rapsNr ≠ .clear := by decide
    obtain ⟨blocked, tx⟩ := h.yields i failed ⟨fun clear => absurd clear remote, .inl through⟩ heard
    have opened : (v.nodes i).ctl.anyBlocked = false := by simp [Ctl.anyBlocked, blocked]
    have silent : (v.nodes i).ctl.txActive = false := by simp [Ctl.txActive, tx]
    exact ⟨opened, silent⟩

/-- Two nodes without a role that have just been initialised. -/
def sampleNet : Net 2 where
  nodes i := (sampleNode false false (sampleDevice 0 (if i.val = 0 then 1 else 3)) (sampleDevice 1 9)).started
  inFlight := []

theorem sampleNet_election : sampleNet.Election Set.univ where
  electing i := by
    have formed : (sampleNet.nodes i).setup.WellFormed := (DtNode.started_initialised _).booted.1
    refine ⟨formed, .inl ?_, ?_⟩ <;> clear formed <;> revert i <;> decide
  distinct := by decide
  nonempty := ⟨0, trivial⟩
  transmits i _ := by
    refine ⟨?_, ?_, ?_⟩ <;> revert i <;> decide
  blocks i _ := by
    revert i
    decide
  inFlight := nofun

/-- The node with the greater ID sends, and the other one hears it. -/
def sampleElection : List (NetStep 2) :=
  let sender : Fin 2 := ⟨1, Nat.one_lt_two⟩
  [.send sender zeroPdu allSucceed,
    .deliver ⟨0, Nat.zero_lt_two⟩ .port0 (sampleNet.nodes.sent sender zeroPdu allSucceed) allSucceed]

theorem election_keeps_block_sample :
    let v := Runs.run Net.step sampleNet sampleElection
    (v.nodes 0).node.anyLinkBlocked = false ∧ (v.nodes 0).node.txActive = false := by
  have steps : EachStep Net.step sampleNet sampleElection fun _ v x => v.Permits Set.univ x := by
    refine eachStep_cons ⟨trivial, by decide, allSucceed_respects⟩ ?_
    exact eachStep_cons ⟨List.mem_cons_self .., allSucceed_respects⟩ eachStep_nil
  obtain ⟨top, -, -, every⟩ := election_keeps_block sampleNet_election steps
  refine every.last.2.2.2 0 (by decide) (by decide) ?_
  exact ⟨.port0, _, allSucceed, List.mem_cons_of_mem _ (List.mem_cons_self ..), by decide⟩

end Net

end Erps
