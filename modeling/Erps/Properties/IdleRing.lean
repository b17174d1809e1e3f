import Erps.Properties.LateMessages
import Erps.Properties.PortMap
import Erps.Properties.PortsAgree
import Erps.Properties.Topology

/-!
# The ring at rest

The port map holds of every node of a ring, whatever the nodes send each other: only the RPL
owner announces R-APS(NR,RB), and it does not listen to itself. So whenever all nodes are idle
the RPL is cut and nothing else is.
-/
namespace Erps

open Nets Runs

namespace Station

variable {a : Station} {up : Ports Bool} {e : Event} {lnk : PortIdx} {m : Message}

theorem act_alike (a : Station) (up : Ports Bool) (e : Event) : a.Alike (a.act up e) :=
  ⟨rfl, Ctl.step_role, rfl⟩

theorem hear_alike (a : Station) (up : Ports Bool) (lnk : PortIdx) (m : Message) :
    a.Alike (a.hear up lnk m) := by
  refine ⟨a.hear_nodeId up lnk m, ?_, a.hear_duration up lnk m⟩
  unfold hear
  split
  · rfl
  · exact Ctl.post_role

theorem Alike.trans {b c : Station} (h : a.Alike b) (h' : b.Alike c) : a.Alike c :=
  ⟨h'.nodeId.trans h.nodeId, h'.role.trans h.role, h'.duration.trans h.duration⟩

theorem act_portMap (map : a.ctl.PortMap) (own : e.isOwn = true) : (a.act up e).ctl.PortMap := by
  refine map.step (o := ⟨false, up⟩) fun _ lnk pdu received => ?_
  rw [received] at own
  cases own

theorem hear_portMap (map : a.ctl.PortMap)
    (own : m.req = .nrRb → a.ctl.role = .owner → m.nodeId = a.nodeId) :
    (a.hear up lnk m).ctl.PortMap := by
  unfold hear
  split
  · exact map
  · next listens =>
    refine map.post fun nrRb owner => listens (.inl (own ?_ owner))
    cases req : m.req <;> rw [req] at nrRb <;> first | rfl | cases nrRb

theorem hear_honest (honest : a.ctl.RbHonest) : (a.hear up lnk m).ctl.RbHonest := by
  unfold hear
  split
  · exact honest
  · exact honest.post

end Station

namespace Protocol

variable {n : Nat} {p : Protocol n}

/-- What a node of a ring that was `p` keeps: its port map, and that it announces R-APS(NR,RB)
truthfully. -/
structure Mapped (p : Protocol n) (i : Fin n) (a : Station) : Prop extends (p.stations i).Alike a where
  map : a.ctl.PortMap
  honest : a.ctl.RbHonest

/-- R-APS(NR,RB) comes from the RPL owner. -/
def Owned (p : Protocol n) (m : Message) : Prop :=
  m.req = .nrRb → ∃ i, (p.stations i).nodeId = m.nodeId ∧ (p.stations i).ctl.role = .owner

/-- As long as there is one RPL owner, which does not listen to itself. -/
theorem mapped_kept (oneOwner : ∀ i j, (p.stations i).ctl.role = .owner →
    (p.stations j).ctl.role = .owner → i = j) : Kept (Mapped p) (Owned p) fun _ _ _ => True where
  act up h own _ := ⟨h.toAlike.trans (Station.act_alike _ up _), Station.act_portMap h.map own, h.honest.step⟩
  send {i a req} h active announced nrRb := by
    obtain rfl : req = .nrRb := nrRb
    have owner := (h.honest.rb active (announced_nrRb announced)).1
    exact ⟨i, h.nodeId.symm, h.role.symm.trans owner⟩
  hear {i a m} up lnk h owned := by
    refine ⟨h.toAlike.trans (Station.hear_alike a up lnk m), Station.hear_portMap h.map ?_,
      Station.hear_honest h.honest⟩
    intro nrRb owner
    obtain ⟨j, nodeId, owner'⟩ := owned nrRb
    obtain rfl := oneOwner i j (h.role.symm.trans owner) owner'
    exact nodeId.symm.trans h.nodeId.symm
  wait ms h := ⟨h.toAlike.trans ⟨rfl, rfl, rfl⟩, h.map, h.honest⟩
  late ms owned := owned

end Protocol

namespace Wire

variable {n : Nat} {w v : Wire n} {ahead : Fin n → PortIdx} {e : Fin n}

theorem mapped_of_initialised (init : ∀ i, Initialised (w.nodes i)) :
    let p : Protocol n := ⟨fun i => (w.nodes i).station, []⟩
    p.Holds (Protocol.Mapped p) (Protocol.Owned p) := by
  refine ⟨fun i => ⟨⟨rfl, rfl, rfl⟩, ?_, ?_⟩, fun m member => ?_⟩
  · change (w.nodes i).ctl.PortMap
    rw [(init i).booted.2]
    exact .booted _ _ _
  · change (w.nodes i).ctl.RbHonest
    rw [(init i).booted.2]
    exact .booted _ _ _
  · cases member

/-- In a ring of idle nodes the ends of the RPL are blocked and no other port. -/
theorem Sound.idle_disabled_iff (h : v.Sound) (map : ∀ i, (v.nodes i).ctl.PortMap)
    (idle : ∀ i, (v.nodes i).node.state = .idle) (i : Fin n) (lnk : PortIdx) :
    ((v.nodes i).port lnk).enabled = false ↔ lnk = .port1 ∧ (v.nodes i).ctl.role ≠ .plain := by
  obtain ⟨opened, blocked⟩ := (map i).idle (idle i)
  rw [h.disabled_iff, ← blocked]
  cases lnk with
  | port0 => exact iff_of_false (fun on => absurd (opened.symm.trans on) (by decide)) (by simp)
  | port1 => exact ⟨fun on => ⟨rfl, on⟩, fun on => on.2⟩

/-- Whenever all nodes of a ring are idle, in whatever run, all links but the RPL are open and
the RPL is cut: the ring is a tree. -/
theorem idle_ring_is_tree {xs : List (WireStep n)} (init : ∀ i, Initialised (w.nodes i))
    (apart : ∀ i, (w.nodes i).node.ports.port0.dev ≠ (w.nodes i).node.ports.port1.dev)
    (oneOwner : ∀ i j, (w.nodes i).setup.rplOwner = true → (w.nodes j).setup.rplOwner = true → i = j)
    (quiet : w.inFlight = []) (hasRpl : ∃ i, (w.nodes i).ctl.role ≠ .plain)
    (rpl : ∀ i, (w.nodes i).ctl.role ≠ .plain → OnLink ahead e i .port1)
    (permits : ∀ x ∈ xs, Permits x) :
    EachState Wire.step w xs fun _ v => (∀ i, (v.nodes i).node.state = .idle) →
      v.Tree ahead ∧ ∀ k, v.Cut ahead k ↔ k = e := by
  have oneOwner' (i j : Fin n) (here : (w.nodes i).ctl.role = .owner) (there : (w.nodes j).ctl.role = .owner) :
      i = j := oneOwner i j ((w.nodes i).setup_owner here) ((w.nodes j).setup_owner there)
  have mapped : EachState Wire.step w xs fun _ v => ∀ i, (v.nodes i).ctl.PortMap ∧
      (v.nodes i).ctl.role = (w.nodes i).ctl.role := by
    refine ((shown_of_initialised init quiet).holds (mapped_of_initialised init)
      (Protocol.mapped_kept oneOwner') (permits_meets permits)).mono ?_
    rintro pre v ⟨p, shown, holds⟩ i
    have now := holds.stations i
    rw [shown.stations i] at now
    exact ⟨now.map, now.role⟩
  have sound := sound_of_initialised init apart quiet permits
  intro pre member idle
  have disabled := (sound pre member).idle_disabled_iff (fun i => (mapped pre member i).1) idle
  refine tree_of_rpl rpl hasRpl fun i lnk => ?_
  rw [disabled i lnk, (mapped pre member i).2]

/-- The wait to restore of the RPL owner ends, and the other node hears of it. -/
def restSteps : List (WireStep 2) := [
  .event ⟨0, Nat.two_pos⟩ (.expiry .wtr, allSucceed),
  .transmit ⟨0, Nat.two_pos⟩ .port1 false zeroPdu (sampleHdr netEthPtypeOam) allSucceed,
  .receive ⟨1, Nat.one_lt_two⟩ (sampleDevice 2 3) 0 allSucceed]

theorem restSteps_permits : ∀ x ∈ restSteps, Permits x := by
  intro x member
  simp only [restSteps, List.mem_cons, List.not_mem_nil, or_false] at member
  rcases member with rfl | rfl | rfl
  · exact ⟨allSucceed_respects, rfl⟩
  · exact allSucceed_respects
  · exact allSucceed_respects

theorem idle_ring_is_tree_sample :
    EachState Wire.step (sample false) restSteps fun _ v => (∀ i, (v.nodes i).node.state = .idle) →
      v.Tree (fun _ => .port1) ∧ ∀ k, v.Cut (fun _ => .port1) k ↔ k = ⟨0, Nat.two_pos⟩ :=
  idle_ring_is_tree (Ring.sample_started false).initialised (by decide)
    (Ring.sample_started false).oneOwner rfl (by decide) (by decide) restSteps_permits

end Wire

end Erps
