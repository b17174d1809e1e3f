import Erps.Properties.Isolation

/-!
# Rings of an image in agreement

`erps_init` brings the flags, the ports and the traffic VLAN interfaces of every ring together,
one ring after the other, and then no ring separates them, neither its own nor those of another.
-/
namespace Erps

open Calls Runs

section
variable {p : Places} {s : Sys} {lnk : PortIdx} {timeout : Nat} {cameUp : Ports Bool}

/-! ### What starting a node spares -/

theorem modWork_spares (w : WorkItem) (f : DelayableWork → DelayableWork) :
    SparesOthers p (write fun s => s.modWork w f) :=
  frames_spares (frames_write fun s => places_modWork s w f)

theorem linkConfigureVlan_spares : SparesOthers p (linkConfigureVlan lnk) := by
  refine keeps_read fun n => linkDev_spares fun dev own => ?_
  refine (frames_spares netIfLookupByDev_frames).bind fun found => keeps_ite (fun _ => keeps_pure) fun _ => ?_
  refine Keeps.bind (frames_spares frames_call) fun ret => keeps_ite (fun _ => keeps_pure) fun _ => ?_
  refine Keeps.bind (frames_spares frames_call) fun ret => keeps_ite (fun _ => keeps_pure) fun _ => ?_
  refine (frames_spares netEthGetVlanIface_frames).bind fun _ => ?_
  refine (frames_spares netEthGetVlanIface_frames).bind fun found => keeps_ite (fun _ => keeps_pure) fun _ => ?_
  exact (modHw_spares own _).bind fun _ => keeps_pure

theorem startLinkDownTimer_spares : SparesOthers p (startLinkDownTimer timeout lnk) := by
  refine (modWork_spares (.linkDown lnk) _).bind fun _ => ?_
  refine Keeps.bind (frames_spares (kWorkReschedule_frames fun s => places_modWork s _)) fun ret => ?_
  refine keeps_ite (fun _ => keeps_pure) fun _ => linkDev_spares fun dev _ => ?_
  exact (frames_spares netIfLookupByDev_frames).bind fun _ => keeps_pure

theorem linkInit_spares : SparesOthers p (linkInit timeout lnk) := by
  refine (modWork_spares (.tx lnk) _).bind fun _ => linkConfigureVlan_spares.bind fun ret => ?_
  refine keeps_ite (fun _ => keeps_pure) fun _ => keeps_read fun rpl => ?_
  exact keeps_ite (fun _ => startLinkDownTimer_spares) fun _ => keeps_pure

theorem nodePrepare_spares : SparesOthers p (nodePrepare timeout) := by
  refine (modWork_spares .wtr _).bind fun _ => (modWork_spares .wtb _).bind fun _ => ?_
  refine Keeps.bind (frames_spares (frames_write fun _ => rfl)) fun _ => ?_
  refine Keeps.bind (frames_spares frames_call) fun ret => ?_
  exact linkInit_spares.ifOk.bind fun _ => linkInit_spares.ifOk

theorem fsmInit_spares : SparesOthers p fsmInit :=
  fsmInit_keeps (frames_spares (frames_write fun _ => rfl)) fun _ _ op => fsmOp_spares op

/-- Only interfaces of the node's own ports go up. -/
theorem ifacesUp_spares : SparesOthers p (ifacesUp cameUp) := by
  refine keeps_write fun s now => ⟨now.dev, fun dev other => ?_⟩
  have not0 : (dev == s.node.ports.port0.dev) = false := beq_false_of_ne (now.own .port0 ▸ other .port0)
  have not1 : (dev == s.node.ports.port1.dev) = false := beq_false_of_ne (now.own .port1 ▸ other .port1)
  refine Eq.trans ?_ (now.hw dev other)
  show { s.hw dev with ifUp := (s.hw dev).ifUp || (cameUp.port0 && dev == s.node.ports.port0.dev) ||
    (cameUp.port1 && dev == s.node.ports.port1.dev) } = s.hw dev
  simp only [not0, not1, Bool.and_false, Bool.or_false]

theorem nodeInit_spares : SparesOthers p (nodeInit timeout cameUp) := by
  refine nodePrepare_spares.bind fun ret => keeps_ite (fun _ => keeps_pure) fun _ => ?_
  refine fsmInit_spares.bind fun ret => keeps_ite (fun _ => keeps_pure) fun _ => ?_
  refine ifacesUp_spares.bind fun _ => Keeps.bind (frames_spares (frames_write fun _ => rfl)) fun _ => ?_
  exact frames_spares (nodeStartTx_frames offTx_places.work)

/-! ### What starting a node brings about -/

theorem linkConfigureVlan_succeeds : wp Success anyState (linkConfigureVlan lnk) (fun ret _ => ret = 0) s := by
  refine wp_bind (wp_read (wp_bind (wp_read (wp_bind (wp_lookup (wp_ite (by simp) fun _ => ?_))))))
  refine wp_bind (wp_call fun ret ok => wp_ite (fun failed => absurd ok failed) fun _ => ?_)
  refine wp_bind (wp_call fun ret ok => wp_ite (fun failed => absurd ok failed) fun _ => ?_)
  refine wp_bind (wp_vlanIface (wp_bind (wp_vlanIface (wp_ite (by simp) fun _ => ?_))))
  exact wp_bind (wp_write trivial (wp_pure rfl))

theorem linkInit_succeeds : wp Success anyState (linkInit timeout lnk) (fun ret _ => ret = 0) s := by
  refine wp_bind (wp_write trivial (wp_bind (wp_mono linkConfigureVlan_succeeds ?_)))
  rintro ret t rfl
  refine wp_ite (fun failed => absurd rfl failed) fun _ => wp_bind (wp_read (wp_ite (fun _ => ?_) fun _ => ?_))
  -- only a link that is not the RPL is watched
  · refine wp_bind (wp_write trivial (wp_bind (wp_reschedule fun v accepted => ?_)))
    refine wp_ite (fun failed => absurd failed (Int.not_lt.mpr accepted)) fun _ => ?_
    exact wp_bind (wp_read (wp_bind (wp_lookup (wp_pure rfl))))
  · exact wp_pure rfl

theorem nodePrepare_succeeds : wp Success anyState (nodePrepare timeout) (fun ret _ => ret = 0) s := by
  refine wp_bind (wp_write trivial (wp_bind (wp_write trivial (wp_bind (wp_write trivial ?_)))))
  refine wp_bind (wp_call fun ret ok => wp_bind (wp_ifOk (fun _ => ?_) fun failed => absurd ok failed))
  refine wp_mono linkInit_succeeds fun ret t ok => ?_
  exact wp_ifOk (fun _ => linkInit_succeeds) fun failed => absurd ok failed

/-- What the initialisation of the state machine reads of a node. -/
structure Layout where
  rplOwner : Bool
  rplNbr : Bool
  rpl : Ports Bool
  dev : Ports Device
  blocked : Ports Bool

def Node.layout (n : Node) : Layout where
  rplOwner := n.rplOwner
  rplNbr := n.rplNbr
  rpl := n.ports.map Link.rpl
  dev := n.ports.map Link.dev
  blocked := n.ports.map Link.blocked

/-- The node has at most one role, the RPL exactly if it has one, and two ports that are open. -/
structure Layout.Ready (l : Layout) : Prop where
  rpl : l.rpl = ⟨false, l.rplOwner || l.rplNbr⟩
  oneRole : (l.rplOwner && l.rplNbr) = false
  apart : l.dev.port0 ≠ l.dev.port1
  opened : l.blocked = ⟨false, false⟩

theorem Layout.Ready.formed (ready : s.node.layout.Ready) : s.setup.WellFormed where
  rpl := by
    refine ready.rpl.trans ?_
    unfold Setup.role
    show (⟨false, s.node.rplOwner || s.node.rplNbr⟩ : Ports Bool) = ⟨false, _⟩
    cases owner : s.node.rplOwner <;> cases nbr : s.node.rplNbr <;> simp [Sys.setup, owner, nbr]
  oneRole := ready.oneRole

theorem Configured.ready {n : Node} (configured : Configured n)
    (apart : n.ports.port0.dev ≠ n.ports.port1.dev) : n.layout.Ready where
  rpl := congrArg₂ Ports.mk configured.wellFormed.notPort0 configured.wellFormed.role
  oneRole := configured.wellFormed.oneRole
  apart := apart
  opened := configured.untouched.blocked

theorem offInit_layout : OffInit fun s => s.node.layout where
  work s w f := by
    cases w with
    | tx lnk | linkDown lnk => cases lnk <;> rfl
    | wtr | wtb => rfl
  topreq _ _ := rfl
  vlan _ _ _ _ := rfl

theorem nodePrepare_ready (ready : s.node.layout.Ready) :
    wp Success anyState (nodePrepare timeout) (fun ret t => ret = 0 ∧ t.node.layout.Ready) s := by
  have frames : Frames Success (fun s => s.node.layout) (nodePrepare timeout) := offInit_layout.nodePrepare
  refine wp_mono (nodePrepare_succeeds.and (frames.ends s)) ?_
  rintro ret t ⟨ok, same⟩
  exact ⟨ok, same ▸ ready⟩

theorem nodeInit_agrees (ready : s.node.layout.Ready) :
    wp Success anyState (nodeInit timeout cameUp) (fun _ t => t.Agrees) s := by
  refine wp_bind (wp_mono (nodePrepare_ready ready) ?_)
  rintro ret t ⟨rfl, ready⟩
  refine wp_ite (fun failed => absurd rfl failed) fun _ => ?_
  refine wp_bind (wp_mono (fsmInit_agrees ready.formed ready.apart (Sys.opened_of_flags ready.opened)) ?_)
  intro ret u agrees
  refine wp_ite (fun _ => wp_pure agrees) fun _ => wp_bind (wp_write trivial (wp_bind (wp_write trivial ?_)))
  exact agrees_frames (nodeStartTx_frames offTx_ringPorts.work) (agrees.same rfl)

/-! ### What a node keeps afterwards -/

theorem agrees_of_own {s t : Sys} (same : t.own = s.own) (agrees : s.Agrees) : t.Agrees := by
  obtain ⟨node, rest⟩ := Prod.mk.inj same
  obtain ⟨-, hw⟩ := Prod.mk.inj rest
  refine agrees.same (Prod.ext ?_ (funext fun lnk => ?_))
  · exact congrArg (fun n : Node => n.ports.map Link.dev) node
  · have link : t.link lnk = s.link lnk := congrArg (fun n : Node => n.ports.get lnk) node
    have vid : t.node.trafficVid = s.node.trafficVid := congrArg Node.trafficVid node
    have port : t.hw (s.link lnk).dev = s.hw (s.link lnk).dev := link ▸ congrFun hw lnk
    simp only [Sys.ringPorts, Sys.port, link, port, vid]

theorem agrees_alone {pad : Bool} : Rings.KeptAlone Success pad Sys.Agrees where
  own _ _ := agrees_of_own
  event e _ := event_agrees e
  txWork _ _ _ := runTxWork_agrees
  raised lnk _ now := (event_agrees (.iface lnk true) now).post allSucceed allSucceed_respects
  notified _ _ now := agrees_frames (ifaceUpCb_frames offTx_ringPorts.work) now
  recv _ _ _ := erpsRecv_agrees

end

/-! ### All rings -/

namespace Rings

variable {n : Nat} {s : Rings n}

/-- Before the nodes `todo` are started: these are as configured, the other rings in agreement. -/
structure Begun (s : Rings n) (todo : List (Fin n)) (t : Rings n) : Prop where
  dev : t.dev = s.dev
  unique : todo.Nodup
  ready : ∀ i ∈ todo, (t.nodes i).layout.Ready
  agrees : ∀ i, i ∉ todo → (t.sys i).Agrees

theorem nodeInit_begun (distinct : s.Distinct) {timeout : Nat} {cameUp : Ports Bool} {i : Fin n}
    {rest : List (Fin n)} {t : Rings n} (now : s.Begun (i :: rest) t) :
    Adds Success (onRing i (nodeInit timeout cameUp)) (fun _ _ u => s.Begun rest u) t := by
  have inits : wp Success anyState (nodeInit timeout cameUp) (fun _ u => u.Agrees) (t.sys i) :=
    nodeInit_agrees (now.ready i (by simp))
  refine adds_mono (onRing_leaves (distinct.same now.dev) nodeInit_spares inits) ?_
  rintro _ _ u ⟨left, agrees⟩
  have own (j : Fin n) (other : j ≠ i) : (u.sys j).own = (t.sys j).own := left.own j other
  have fresh := List.nodup_cons.mp now.unique
  refine ⟨left.dev.trans now.dev, fresh.2, fun j member => ?_, fun j done => ?_⟩
  · have other : j ≠ i := fun same => fresh.1 (same ▸ member)
    have node : u.nodes j = t.nodes j := congrArg Prod.fst (own j other)
    rw [node]
    exact now.ready j (List.mem_cons_of_mem i member)
  · by_cases here : j = i
    · subst here
      exact agrees
    -- the rings started before keep what they have
    · exact agrees_of_own (own j here) (now.agrees j (by simp [here, done]))

theorem erpsInit_agrees (distinct : s.Distinct) (configured : ∀ i, Configured (s.nodes i)) {timeout : Nat}
    {cameUp : Fin n → Ports Bool} : Adds Success (erpsInit timeout cameUp)
      (fun _ ret t => ret = 0 → t.Distinct ∧ ∀ i, (t.sys i).Agrees) s := by
  refine adds_bind (adds_mono (firstPass_shuts s) ?_)
  rintro new ret u ⟨⟨-, nodes⟩, -⟩
  refine adds_ifOk (fun ok => ?_) fun failed ok => absurd ok failed
  have apart (i : Fin n) : (s.nodes i).ports.port0.dev ≠ (s.nodes i).ports.port1.dev := by
    intro same
    have one : (i, PortIdx.port0) = (i, PortIdx.port1) := distinct same
    cases (Prod.mk.inj one).2
  have start : s.Begun (List.finRange n) u := by
    refine ⟨?_, List.nodup_finRange n, fun i _ => ?_, fun i missed => ?_⟩
    · exact funext fun i => funext fun lnk => by rw [dev, dev, nodes]
    · rw [nodes]
      exact (configured i).ready (apart i)
    · exact absurd (List.mem_finRange i) missed
  refine adds_bind (adds_mono (adds_forEach (P := s.Begun) (A := fun _ => True) ?round
    (List.finRange n) u start) ?_)
  case round =>
    intro i rest t now
    refine adds_bind (adds_mono (nodeInit_begun distinct now) ?_)
    exact fun _ _ v begun => adds_pure ⟨fun _ _ => trivial, begun⟩
  rintro _ _ v ⟨-, begun⟩
  exact adds_pure fun _ => ⟨distinct.same begun.dev, fun i => begun.agrees i (by simp)⟩

/-- Once `erps_init` has succeeded on configured nodes that share no port, the flags, ports and
traffic VLAN interfaces of every ring agree, whatever happens on which ring, while every call
succeeds. -/
theorem rings_agree (distinct : s.Distinct) (configured : ∀ i, Configured (s.nodes i)) {timeout : Nat}
    {cameUp : Fin n → Ports Bool} {ans : Answers KernelCall} (succeeds : Respects Success ans)
    (ok : (erpsInit timeout cameUp).result ans s = 0) {pad : Bool} {xs : List (RingsStep n)}
    (answers : ∀ x ∈ xs, Respects Success x.2) :
    EachState (step pad) ((erpsInit timeout cameUp).final ans s) xs fun _ t => ∀ i, (t.sys i).Agrees := by
  obtain ⟨apart, agrees⟩ := (erpsInit_agrees distinct configured).run ans succeeds ok
  exact eachState_kept agrees_alone apart agrees answers

theorem rings_agree_sample :
    EachState (step false) ((erpsInit 10000 fun _ => ⟨true, true⟩).final allSucceed sample) sampleSteps
      fun _ t => ∀ i, (t.sys i).Agrees := by
  refine rings_agree sample_distinct (fun i => .dt _) allSucceed_respects rfl fun x member => ?_
  simp only [sampleSteps, List.mem_cons, List.not_mem_nil, or_false] at member
  rcases member with rfl | rfl <;> exact allSucceed_respects

end Rings

end Erps
