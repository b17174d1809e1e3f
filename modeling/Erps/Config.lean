import Erps.Kernel

/-!
# Configuration

A node before it is initialised: what a devicetree instance makes of it, and the
calls that change its RPL and its ring identifier while it is uninitialised. They
keep the node well formed: the RPL is port 1 and is there exactly if the node is
the RPL owner or the RPL neighbour, never both.
-/
namespace Erps

def EPERM : Int := 1

def erpsRingIdMin : UInt8 := 1
def erpsRingIdMax : UInt8 := 239
def erpsInvalidRing : UInt8 := 0xff

/-- A devicetree instance that passes the build assertions of `ERPS_NODE_INIT`. -/
structure DtNode where
  nonRevertive : Bool
  rplOwner : Bool
  ringProtectionLink : Option Device
  ringLinks : List Device
  rapsVersion : UInt8
  ringId : Option UInt8
  rapsMel : UInt8
  wtrTimerDuration : UInt8
  guardTimerDuration : UInt16
  controlVlanIdentifier : UInt16
  trafficVlanIdentifier : UInt16
  ownerHasLink : rplOwner = true → ringProtectionLink.isSome = true
  twoLinks : ringLinks.length + (if ringProtectionLink.isSome then 1 else 0) = 2
  ringIdInRange : ∀ i, ringId = some i → erpsRingIdMin ≤ i ∧ i ≤ erpsRingIdMax
  guardInRange : 10 ≤ guardTimerDuration ∧ guardTimerDuration ≤ 2000
  guardInTens : guardTimerDuration % 10 = 0

namespace DtNode

/-- `ERPS_LINK_DEVICE_GET`. -/
def linkDevice (d : DtNode) : PortIdx → Device
  | .port0 => d.ringLinks.get ⟨0, by have := d.twoLinks; split at this <;> omega⟩
  | .port1 =>
    match some_or_none : d.ringProtectionLink with
    | some rpl => rpl
    | none => d.ringLinks.get ⟨1, by have := d.twoLinks; simp [some_or_none] at this; omega⟩

/-- `ERPS_LINK_INIT`; every member that is not named is zero. -/
def link (d : DtNode) (i : PortIdx) (isRpl : Bool) : Link where
  failed := false
  blocked := false
  bpr := 0
  txBurst := 0
  rpl := isRpl
  idx := match i with
    | .port0 => 0
    | .port1 => 1
  lastNodeId := Vector.replicate 6 0
  linkDownDwork := .init
  txDwork := .init
  dev := d.linkDevice i

/-- `ERPS_NODE_INIT`. -/
def node (d : DtNode) : Node where
  revertive := !d.nonRevertive
  localTopreq := .clear
  rplOwner := d.rplOwner
  rplNbr := !d.rplOwner && d.ringProtectionLink.isSome
  rapsVer := d.rapsVersion
  ringId := d.ringId.getD erpsInvalidRing
  rapsMel := d.rapsMel
  wtrDuration := d.wtrTimerDuration
  state := .uninit
  guardTimerDuration := d.guardTimerDuration
  ctrlVid := d.controlVlanIdentifier
  trafficVid := d.trafficVlanIdentifier
  mgmtCb := false
  pduMut := ⟨0, 0⟩
  guardTimerExpiry := 0
  ports := ⟨d.link .port0 false, d.link .port1 d.ringProtectionLink.isSome⟩
  wtrDwork := .init
  wtbDwork := .init

end DtNode

namespace Node

/-- `net_erps_set_as_rpl` on the interface of a link. Making port 0 the RPL swaps the
two links. -/
def netErpsSetAsRpl (n : Node) (lnk : PortIdx) (isOwner : Bool) : Int × Node :=
  if n.state ≠ .uninit then
    (-EPERM, n)
  else if (n.ports.get lnk.other).rpl then
    (-EBUSY, n)
  else
    let ports := n.ports.modify (fun l => { l with rpl := true }) lnk
    let swapped : Ports Link := match lnk with
      | .port0 => ⟨{ ports.port1 with idx := 0 }, { ports.port0 with idx := 1 }⟩
      | .port1 => ports
    (0, { n with rplOwner := isOwner, rplNbr := !isOwner, ports := swapped })

/-- `net_erps_unset_rpl` on the interface of a link. -/
def netErpsUnsetRpl (n : Node) (lnk : PortIdx) : Int × Node :=
  if n.state ≠ .uninit then
    (-EPERM, n)
  else if (n.ports.get lnk).rpl then
    (0, { n with
      rplOwner := false
      rplNbr := false
      ports := n.ports.modify (fun l => { l with rpl := false }) lnk })
  else
    (0, n)

/-- `net_erps_set_ring_id` on the interface of a link. -/
def netErpsSetRingId (n : Node) (ringId : UInt8) : Int × Node :=
  if ringId < erpsRingIdMin ∨ erpsRingIdMax < ringId then
    (-EINVAL, n)
  else
    (0, { n with ringId := ringId })

/-- The RPL is at index 1, if anywhere, and the two role flags say whether it is. -/
structure WellFormed (n : Node) : Prop where
  notPort0 : n.ports.port0.rpl = false
  role : n.ports.port1.rpl = (n.rplOwner || n.rplNbr)
  oneRole : (n.rplOwner && n.rplNbr) = false
  idx0 : n.ports.port0.idx = 0
  idx1 : n.ports.port1.idx = 1

/-- Nothing has happened on the links and no TX is scheduled. -/
structure Untouched (n : Node) : Prop where
  uninit : n.state = .uninit
  failed : n.ports.map Link.failed = ⟨false, false⟩
  blocked : n.ports.map Link.blocked = ⟨false, false⟩
  tx : n.ports.map Link.txDwork = ⟨.init, .init⟩

end Node

/-- A node as configuration leaves it, before `erps_node_init` runs. -/
inductive Configured : Node → Prop where
  | dt (d : DtNode) : Configured d.node
  | setAsRpl {n : Node} (lnk : PortIdx) (isOwner : Bool) :
      Configured n → Configured (n.netErpsSetAsRpl lnk isOwner).2
  | unsetRpl {n : Node} (lnk : PortIdx) :
      Configured n → Configured (n.netErpsUnsetRpl lnk).2
  | setRingId {n : Node} (ringId : UInt8) :
      Configured n → Configured (n.netErpsSetRingId ringId).2

theorem DtNode.node_wellFormed (d : DtNode) : d.node.WellFormed where
  notPort0 := rfl
  role := by
    cases owner : d.rplOwner with
    | false => simp [node, link, owner]
    | true => simp [node, link, owner, d.ownerHasLink owner]
  oneRole := by cases owner : d.rplOwner <;> simp [node, owner]
  idx0 := rfl
  idx1 := rfl

namespace Node.WellFormed

variable {n : Node}

theorem setAsRpl (h : n.WellFormed) (lnk : PortIdx) (isOwner : Bool) :
    (n.netErpsSetAsRpl lnk isOwner).2.WellFormed := by
  unfold netErpsSetAsRpl
  split
  · exact h
  · split
    · exact h
    · next free =>
      -- the link that takes the RPL ends up at index 1
      obtain ⟨notPort0, _, _, idx0, idx1⟩ := h
      cases lnk with
      | port0 =>
        have other : n.ports.port1.rpl = false := by simpa [PortIdx.other, Ports.get] using free
        constructor <;> simp [Ports.modify, other]
      | port1 => constructor <;> simp [Ports.modify, notPort0, idx0, idx1]

theorem unsetRpl (h : n.WellFormed) (lnk : PortIdx) : (n.netErpsUnsetRpl lnk).2.WellFormed := by
  unfold netErpsUnsetRpl
  split
  · exact h
  · split
    · next isRpl =>
      obtain ⟨notPort0, _, _, idx0, idx1⟩ := h
      cases lnk with
      | port0 => simp [Ports.get, notPort0] at isRpl
      | port1 => constructor <;> simp [Ports.modify, notPort0, idx0, idx1]
    · exact h

end Node.WellFormed

/-- One role flag is set exactly when port 1 is the RPL, however the node was
configured. -/
theorem Configured.wellFormed {n : Node} (h : Configured n) : n.WellFormed := by
  induction h with
  | dt d => exact d.node_wellFormed
  | setAsRpl lnk isOwner _ ih => exact ih.setAsRpl lnk isOwner
  | unsetRpl lnk _ ih => exact ih.unsetRpl lnk
  | setRingId ringId _ ih =>
    unfold Node.netErpsSetRingId
    split
    · exact ih
    · exact ⟨ih.notPort0, ih.role, ih.oneRole, ih.idx0, ih.idx1⟩

theorem Configured.untouched {n : Node} (h : Configured n) : n.Untouched := by
  induction h with
  | dt d => exact ⟨rfl, rfl, rfl, rfl⟩
  | setAsRpl lnk isOwner _ ih =>
    obtain ⟨uninit, failed, blocked, tx⟩ := ih
    simp only [Ports.map, Ports.mk.injEq] at failed blocked tx
    unfold Node.netErpsSetAsRpl
    split
    · contradiction
    · split
      · exact ⟨uninit, by simp [Ports.map, failed], by simp [Ports.map, blocked],
          by simp [Ports.map, tx]⟩
      · cases lnk <;> constructor <;>
          simp [Ports.map, Ports.modify, uninit, failed, blocked, tx]
  | unsetRpl lnk _ ih =>
    obtain ⟨uninit, failed, blocked, tx⟩ := ih
    simp only [Ports.map, Ports.mk.injEq] at failed blocked tx
    unfold Node.netErpsUnsetRpl
    split
    · contradiction
    · split
      · cases lnk <;> constructor <;>
          simp [Ports.map, Ports.modify, uninit, failed, blocked, tx]
      · exact ⟨uninit, by simp [Ports.map, failed], by simp [Ports.map, blocked],
          by simp [Ports.map, tx]⟩
  | setRingId ringId _ ih =>
    unfold Node.netErpsSetRingId
    split
    · exact ih
    · exact ⟨ih.uninit, ih.failed, ih.blocked, ih.tx⟩

end Erps
