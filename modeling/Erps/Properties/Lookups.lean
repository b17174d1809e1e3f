import Erps.Properties.Foreign
import Erps.Properties.Roles
import Erps.Timing.Posts

/-!
# Lookups undo each other

The administrator names a port by its ring and its index, the rest of the system by its
interface. Configuration swaps the ports of a ring and renumbers rings, but leaves every device
in its ring, so the way from an interface to the two numbers and back ends where it began.
-/
namespace Erps

open Calls Runs

namespace Rings

variable {n : Nat}

/-- The interface of a port. -/
def iface (r : Rings n) (i : Fin n) (lnk : PortIdx) : Iface := some (r.dev i lnk)

/-- No two rings have one identifier. -/
def Numbered (r : Rings n) : Prop := Function.Injective fun i => (r.nodes i).ringId

/-- A device has an interface; what else is called does not matter. -/
def HasIface : KernelCall → Int → Prop
  | .netIfLookupByDev _, v => v ≠ 0
  | _, _ => True

/-- What `net_erps_ring_info_by_iface` tells of a port, whatever was there before. -/
def infoOf (r : Rings n) (i : Fin n) (lnk : PortIdx) : RingInfo where
  ringId := (r.nodes i).ringId
  reverting := (r.nodes i).wtrDwork.isPending
  blocked := (r.nodes i).ports.map Link.blocked
  requesterIndex := lnk
  rplIndex := (r.nodes i).getRpl
  ctrlVid := (r.nodes i).ctrlVid
  trafficVid := (r.nodes i).trafficVid
  ifacePort := ⟨r.iface i .port0, r.iface i .port1⟩

/-! ### The tables -/

section
variable {r : Rings n}

theorem nodeLookup_dev {node : Node} {dev : Device} {lnk : PortIdx}
    (found : node.linkLookupByIface dev = some lnk) : (node.ports.get lnk).dev = dev := by
  unfold Node.linkLookupByIface at found
  split at found
  · next here =>
    cases found
    exact here
  · split at found
    · next here =>
      cases found
      exact here
    · cases found

/-- The link that is found is the one its node finds. -/
theorem linkLookupByIface_node {dev : Device} {i : Fin n} {lnk : PortIdx}
    (found : r.linkLookupByIface (some dev) = some (i, lnk)) :
    (r.nodes i).linkLookupByIface dev = some lnk := by
  obtain ⟨j, -, here⟩ := List.exists_of_findSome?_eq_some found
  obtain ⟨lnk', finds, same⟩ := Option.map_eq_some_iff.mp here
  cases same
  exact finds

/-- It has the interface. -/
theorem linkLookupByIface_some {iface : Iface} {i : Fin n} {lnk : PortIdx}
    (found : r.linkLookupByIface iface = some (i, lnk)) : iface = r.iface i lnk := by
  cases iface with
  | none => cases found
  | some dev => exact congrArg some (nodeLookup_dev (linkLookupByIface_node found)).symm

/-- With distinct ports, the lookup finds the one it is to find. -/
theorem linkLookupByIface_port (distinct : r.Distinct) (i : Fin n) (lnk : PortIdx) :
    r.linkLookupByIface (r.iface i lnk) = some (i, lnk) := by
  cases found : r.linkLookupByIface (r.iface i lnk) with
  | none => exact absurd rfl (linkLookupByIface_none_iff.mp found i lnk)
  | some p =>
    have same : r.dev i lnk = r.dev p.1 p.2 := Option.some.inj (linkLookupByIface_some found)
    exact congrArg some (distinct same.symm)

/-- Where a ring has the identifier, the first of them is found. -/
theorem find_ringId_some (r : Rings n) (i : Fin n) : ∃ j, (r.nodes j).ringId = (r.nodes i).ringId ∧
    ((List.finRange n).find? fun j => (r.nodes j).ringId == (r.nodes i).ringId) = some j := by
  cases found : (List.finRange n).find? fun j => (r.nodes j).ringId == (r.nodes i).ringId with
  | none =>
    have missed := List.find?_eq_none.mp found i (List.mem_finRange i)
    exact absurd (beq_self_eq_true _) missed
  | some j =>
    have here := List.find?_some found
    exact ⟨j, beq_iff_eq.mp here, rfl⟩

theorem find_ringId (numbered : r.Numbered) (i : Fin n) :
    ((List.finRange n).find? fun j => (r.nodes j).ringId == (r.nodes i).ringId) = some i := by
  obtain ⟨j, same, found⟩ := r.find_ringId_some i
  rw [found, numbered same]

theorem not_two_le_index (lnk : PortIdx) : ¬2 ≤ lnk.index := by cases lnk <;> decide

theorem port_of_index (lnk : PortIdx) :
    (if lnk.index = 0 then PortIdx.port0 else .port1) = lnk := by cases lnk <;> rfl

/-! ### The functions -/

theorem onRing_lookup (i : Fin n) (dev : Device) :
    Adds HasIface (onRing i (netIfLookupByDev dev)) (fun _ found t => found = true ∧ t = r) r := by
  refine adds_zoom (adds_bind (adds_call fun v found => adds_pure ⟨?_, r.put_sys i⟩))
  exact bne_iff_ne.mpr found

theorem netErpsRingInfoByIface_port (distinct : r.Distinct) (i : Fin n) (lnk : PortIdx)
    (info : RingInfo) : Adds HasIface (netErpsRingInfoByIface (r.iface i lnk) info)
      (fun _ res t => res = (0, r.infoOf i lnk) ∧ t = r) r := by
  refine adds_bind (adds_read ?_)
  rw [linkLookupByIface_port distinct]
  refine adds_bind (adds_read (adds_bind (adds_mono (onRing_lookup i _) ?_)))
  rintro _ found t ⟨rfl, rfl⟩
  refine adds_ite (fun missed => absurd missed (by decide)) fun _ => ?_
  refine adds_bind (adds_mono (onRing_lookup i _) ?_)
  rintro _ found t ⟨rfl, rfl⟩
  refine adds_ite (fun missed => absurd missed (by decide)) fun _ => ?_
  exact adds_pure ⟨rfl, rfl⟩

theorem netErpsLookupIface_port (numbered : r.Numbered) (i : Fin n) (lnk : PortIdx) :
    Adds HasIface (netErpsLookupIface (r.nodes i).ringId lnk.index)
      (fun _ res t => res = r.iface i lnk ∧ t = r) r := by
  refine adds_ite (fun beyond => absurd beyond (not_two_le_index lnk)) fun _ => ?_
  refine adds_bind (adds_read ?_)
  rw [find_ringId numbered]
  refine adds_bind (adds_read (adds_bind (adds_mono (onRing_lookup i _) ?_)))
  rintro _ found t ⟨rfl, rfl⟩
  refine adds_pure ⟨?_, rfl⟩
  rw [port_of_index]
  rfl

theorem iface_ne_other (distinct : r.Distinct) (i : Fin n) (lnk : PortIdx) :
    r.iface i lnk.other ≠ r.iface i lnk := by
  intro same
  have one : (i, lnk.other) = (i, lnk) := distinct (Option.some.inj same)
  cases lnk <;> cases one

theorem netErpsRingGetOtherLink_port (distinct : r.Distinct) (i : Fin n) (lnk : PortIdx)
    (info : RingInfo) : Adds HasIface (netErpsRingGetOtherLink info (r.iface i lnk))
      (fun _ res t => res = r.iface i lnk.other ∧ t = r) r := by
  refine adds_bind (adds_mono (netErpsRingInfoByIface_port distinct i lnk info) ?_)
  rintro _ res t ⟨rfl, rfl⟩
  refine adds_ite (fun failed => absurd rfl failed) fun _ => adds_pure ⟨?_, rfl⟩
  cases lnk with
  | port0 => exact if_pos rfl
  | port1 => exact if_neg (iface_ne_other distinct i .port1)

end

/-! ### Configuration -/

/-- What configures a ring through an interface. -/
inductive ConfigCall where
  | setAsRpl (iface : Iface) (isOwner : Bool)
  | unsetRpl (iface : Iface)
  | setRingId (iface : Iface) (ringId : UInt8)

def ConfigCall.prog : ConfigCall → Prog n Int
  | setAsRpl iface isOwner => netErpsSetAsRpl iface isOwner
  | unsetRpl iface => netErpsUnsetRpl iface
  | setRingId iface ringId => netErpsSetRingId iface ringId

/-- A call with the answers to the calls made in it. -/
abbrev ConfigStep := ConfigCall × Answers KernelCall

def ConfigStep.step (r : Rings n) (x : ConfigStep) : Rings n := x.1.prog.final x.2 r

section
variable {r : Rings n}

theorem configure_nodes {P : Fin n → Node → Prop} {i : Fin n} {f : Node → Int × Node}
    (now : ∀ j, P j (r.nodes j)) (kept : P i (f (r.nodes i)).2) :
    Adds anyAnswer (configure i f) (fun _ _ t => ∀ j, P j (t.nodes j)) r := by
  refine adds_bind (adds_read (adds_bind (adds_write (adds_pure fun j => ?_))))
  change P j (Function.update r.nodes i (f (r.nodes i)).2 j)
  by_cases here : j = i
  · subst here
    rw [Function.update_self]
    exact kept
  · rw [Function.update_of_ne here]
    exact now j

/-- A call keeps what its function on one node keeps. -/
theorem configCall_nodes {P : Fin n → Node → Prop}
    (setAsRpl : ∀ j node lnk isOwner, P j node → P j (node.netErpsSetAsRpl lnk isOwner).2)
    (unsetRpl : ∀ j node lnk, P j node → P j (node.netErpsUnsetRpl lnk).2)
    (setRingId : ∀ j node ringId, P j node → P j (node.netErpsSetRingId ringId).2)
    (now : ∀ j, P j (r.nodes j)) (c : ConfigCall) :
    Adds anyAnswer c.prog (fun _ _ t => ∀ j, P j (t.nodes j)) r := by
  cases c with
  | setAsRpl iface isOwner =>
    refine adds_bind (adds_read ?_)
    cases r.linkLookupByIface iface with
    | none => exact adds_pure now
    | some p => exact configure_nodes now (setAsRpl _ _ p.2 isOwner (now p.1))
  | unsetRpl iface =>
    refine adds_bind (adds_read (adds_ite (fun _ => adds_pure now) fun _ => ?_))
    cases r.linkLookupByIface iface with
    | none => exact adds_bind (adds_write (adds_pure now))
    | some p => exact configure_nodes now (unsetRpl _ _ p.2 (now p.1))
  | setRingId iface ringId =>
    refine adds_bind (adds_read ?_)
    cases r.linkLookupByIface iface with
    | none => exact adds_pure now
    | some p => exact configure_nodes now (setRingId _ _ ringId (now p.1))

end

/-- A node at any time: as configuration leaves it, or after any events since its start. -/
def Arises (node : Node) : Prop :=
  Configured node ∨ ∃ s xs, InitialisedWith anyAnswer s ∧ node = (Sys.run s xs).node

/-- The RPL, if there is one, is at index 1. -/
def RplAt1 (node : Node) : Prop := node.ports.port0.rpl = false

theorem Arises.rplAt1 {node : Node} (arises : Arises node) : RplAt1 node := by
  rcases arises with configured | ⟨s, xs, init, rfl⟩
  · exact configured.wellFormed.notPort0
  · have formed : EachState Sys.step s xs fun _ t => t.setup.WellFormed := eachState_formedAny init
    exact congrArg Ports.port0 formed.last.rpl

theorem setAsRpl_rplAt1 {node : Node} (h : RplAt1 node) (lnk : PortIdx) (isOwner : Bool) :
    RplAt1 (node.netErpsSetAsRpl lnk isOwner).2 := by
  unfold Node.netErpsSetAsRpl
  split
  · exact h
  · split
    · exact h
    · next notRpl =>
      -- a port that becomes the RPL goes to index 1, and the other is not the RPL
      cases lnk with
      | port0 => exact Bool.eq_false_iff.mpr notRpl
      | port1 => exact h

theorem unsetRpl_rplAt1 {node : Node} (h : RplAt1 node) (lnk : PortIdx) :
    RplAt1 (node.netErpsUnsetRpl lnk).2 := by
  unfold Node.netErpsUnsetRpl
  split
  · exact h
  · split
    · cases lnk with
      | port0 => rfl
      | port1 => exact h
    · exact h

/-- The RPL of every ring is at index 1, and the ring has the devices it has in `s`. -/
def Arranged (s r : Rings n) : Prop :=
  ∀ j, RplAt1 (r.nodes j) ∧ (r.nodes j).HasDevices ((s.nodes j).ports.map Link.dev)

theorem setRingId_ports (node : Node) (ringId : UInt8) :
    (node.netErpsSetRingId ringId).2.ports = node.ports := by
  unfold Node.netErpsSetRingId
  split
  · rfl
  · rfl

theorem configStep_arranged {s r : Rings n} (now : s.Arranged r) (x : ConfigStep) :
    s.Arranged (ConfigStep.step r x) := by
  have kept := configCall_nodes
    (P := fun j node => RplAt1 node ∧ node.HasDevices ((s.nodes j).ports.map Link.dev))
    (fun j node lnk isOwner h => ⟨setAsRpl_rplAt1 h.1 lnk isOwner, h.2.setAsRpl lnk isOwner⟩)
    (fun j node lnk h => ⟨unsetRpl_rplAt1 h.1 lnk, h.2.unsetRpl lnk⟩)
    (fun j node ringId h => by
      rw [RplAt1, Node.HasDevices, setRingId_ports]
      exact h) now x.1
  exact kept.run x.2 (respects_any x.2)

/-- Each ring keeps its two devices, so two ports that have one device are one port. -/
theorem Arranged.distinct {s r : Rings n} (arranged : s.Arranged r) (distinct : s.Distinct) :
    r.Distinct := by
  -- a ring may have its ports swapped
  have moved (i : Fin n) : ∃ f : PortIdx → PortIdx, Function.Injective f ∧
      ∀ lnk, r.dev i lnk = s.dev i (f lnk) := by
    rcases (arranged i).2 with same | swapped
    · refine ⟨id, Function.injective_id, fun lnk => ?_⟩
      obtain ⟨dev0, dev1⟩ := Ports.mk.inj same
      cases lnk
      · exact dev0
      · exact dev1
    · refine ⟨PortIdx.other, fun lnk lnk' same => ?_, fun lnk => ?_⟩
      · rw [← lnk.other_other, same, PortIdx.other_other]
      · obtain ⟨dev0, dev1⟩ := Ports.mk.inj swapped
        cases lnk
        · exact dev0
        · exact dev1
  choose f injective devs using moved
  rintro ⟨i, lnk⟩ ⟨j, lnk'⟩ same
  have one : (i, f i lnk) = (j, f j lnk') :=
    distinct ((devs i lnk).symm.trans (same.trans (devs j lnk')))
  obtain ⟨rfl, there⟩ := Prod.mk.inj one
  rw [injective i there]

/-- What the lookups answer for a port. -/
structure InverseAt (r : Rings n) (ans : Answers KernelCall) (i : Fin n) (lnk : PortIdx) : Prop where
  -- from the interface to its ring and index and back
  back : ∀ info, (do
    let res ← netErpsRingInfoByIface (r.iface i lnk) info
    netErpsLookupIface res.2.ringId res.2.requesterIndex.index).result ans r = r.iface i lnk
  told : ∀ info, ((netErpsRingInfoByIface (r.iface i lnk) info).result ans r).1 = 0
  rpl : ∀ info port, ((netErpsRingInfoByIface (r.iface i lnk) info).result ans r).2.rplIndex =
    some port ↔ ((r.nodes i).ports.get port).rpl = true
  other : ∀ info, ∃ port, (netErpsRingGetOtherLink info (r.iface i lnk)).result ans r = r.iface i port ∧
    r.iface i port ≠ r.iface i lnk
  -- to the other interface and back
  returns : ∀ info info', (do
    let other ← netErpsRingGetOtherLink info (r.iface i lnk)
    netErpsRingGetOtherLink info' other).result ans r = r.iface i lnk

theorem getRpl_iff {node : Node} (at1 : RplAt1 node) (port : PortIdx) :
    node.getRpl = some port ↔ (node.ports.get port).rpl = true := by
  unfold Node.getRpl
  cases isRpl : node.ports.port1.rpl with
  | true =>
    cases port with
    | port0 => exact ⟨nofun, fun rpl => absurd (at1.symm.trans rpl) nofun⟩
    | port1 => exact ⟨fun _ => isRpl, fun _ => rfl⟩
  | false =>
    cases port with
    | port0 => exact ⟨nofun, fun rpl => absurd (at1.symm.trans rpl) nofun⟩
    | port1 => exact ⟨nofun, fun rpl => absurd (isRpl.symm.trans rpl) nofun⟩

theorem inverseAt {r : Rings n} {ans : Answers KernelCall} (answers : Respects HasIface ans)
    (at1 : ∀ j, RplAt1 (r.nodes j)) (distinct : r.Distinct) (numbered : r.Numbered)
    (i : Fin n) (lnk : PortIdx) : r.InverseAt ans i lnk := by
  have told (info : RingInfo) := (netErpsRingInfoByIface_port distinct i lnk info).run ans answers
  have others (info : RingInfo) := netErpsRingGetOtherLink_port distinct i lnk info
  refine ⟨fun info => ?_, fun info => ?_, fun info port => ?_, fun info => ?_, fun info info' => ?_⟩
  · have back : Adds HasIface (do
        let res ← netErpsRingInfoByIface (r.iface i lnk) info
        netErpsLookupIface res.2.ringId res.2.requesterIndex.index)
        (fun _ iface _ => iface = r.iface i lnk) r := by
      refine adds_bind (adds_mono (netErpsRingInfoByIface_port distinct i lnk info) ?_)
      rintro _ res t ⟨rfl, rfl⟩
      exact adds_mono (netErpsLookupIface_port numbered i lnk) fun _ _ _ found => found.1
    exact back.run ans answers
  · rw [(told info).1]
  · rw [(told info).1]
    exact getRpl_iff (at1 i) port
  · exact ⟨lnk.other, ((others info).run ans answers).1, iface_ne_other distinct i lnk⟩
  · have returns : Adds HasIface (do
        let other ← netErpsRingGetOtherLink info (r.iface i lnk)
        netErpsRingGetOtherLink info' other) (fun _ iface _ => iface = r.iface i lnk) r := by
      refine adds_bind (adds_mono (others info) ?_)
      rintro _ other t ⟨rfl, rfl⟩
      refine adds_mono (netErpsRingGetOtherLink_port distinct i lnk.other info') ?_
      rintro _ iface _ ⟨rfl, -⟩
      rw [lnk.other_other]
    exact returns.run ans answers

/-- Rings with distinct ports, whatever state they are in, configured in any way that leaves them with
distinct identifiers. -/
theorem lookups_inverse {s : Rings n} (arises : ∀ j, Arises (s.nodes j)) (distinct : s.Distinct)
    (xs : List ConfigStep) (numbered : (run ConfigStep.step s xs).Numbered)
    (ans : Answers KernelCall) (answers : Respects HasIface ans) (i : Fin n) (lnk : PortIdx) :
    (run ConfigStep.step s xs).InverseAt ans i lnk := by
  have start : s.Arranged s := fun j => ⟨(arises j).rplAt1, .inl rfl⟩
  have always : EachStep ConfigStep.step s xs fun _ _ _ => True := fun _ _ _ => trivial
  have arranged : EachState ConfigStep.step s xs fun _ t => s.Arranged t :=
    eachState_of_eachStep start always fun _ _ x _ _ now => configStep_arranged now x
  exact inverseAt answers (fun j => (arranged.last j).1) (arranged.last.distinct distinct) numbered i lnk

/-- The first of two rings is renumbered, and the ports of the second are swapped. -/
theorem lookups_inverse_sample :
    (run ConfigStep.step sample [(.setRingId (some (sampleDevice 0 1)) 2, allSucceed),
      (.setAsRpl (some (sampleDevice 2 1)) false, allSucceed)]).InverseAt allSucceed 1 .port1 := by
  refine lookups_inverse (fun j => .inl (.dt _)) sample_distinct _ ?_ allSucceed ?_ 1 .port1
  · intro i j same
    revert same i j
    decide
  · intro k c
    cases c <;> first | exact trivial | exact (by decide : (1 : Int) ≠ 0)

end Rings

end Erps
